import Askit.Game.OnRead

/-! Answers are recorded while their question is open, in every run in which the session that a
submission has read is still the one that its commit finds. -/

namespace Askit.Game

open Interleaving Machine Coro Tables

section

variable [Runtime]

namespace InTime

variable (roomCode : String)
variable {roomCode room : String} {i : ℕ} {call : Call} {v w : system.World} {β γ : Type}

structure Run (roomCode : String) (quiz : Quiz) (c : system.Config) : Prop where
  once : Once roomCode quiz c
  kept : (discipline roomCode).Kept c

lemma permits {quiz : Quiz} {t : system.Transition} (h : Once roomCode quiz t.before)
    (hf : Faithful t.act) (ha : AnswersOnRead roomCode t) : (discipline roomCode).Permits t where
  spawn call s hact henter _ := by
    obtain ⟨hd, hr, -⟩ := enter_eq_some henter
    refine ⟨trivial, fun j p _ _ =>
      ⟨⟨fun _ _ _ => by rw [hr]; exact id, by rw [hd]; exact id⟩, rfl⟩, ?_⟩
    apply ensures_code
    · simp only [readings, List.filterMap_eq_nil_iff]
      exact fun ev hev => reading_of_ne (h.labelled ev hev).ne
    · rintro room playerId data rfl
      exact hd ▸ stored_of_enter data henter
  env e hact _ := by
    cases e with
    | clock now => exact ⟨trivial, fun j p _ _ => ⟨⟨fun _ _ _ => id, id⟩, rfl⟩⟩
    | lose key => exact (hact ▸ hf : Faithful (.env (.lose key))).elim
  allowed i call _ o k hact hp := by
    rcases hact with hact | ⟨e, hact⟩
    · constructor
      · cases o with
        | setQuestions room ids ex => exact h.unstored ⟨hact, k, hp⟩
        | _ => trivial
      · rintro room playerId data rfl hu
        exact ha.onRead hact hp hu
    · exact (hf.noFault i e hact).elim
  faults i e _ _ _ _ hact _ := hf.noFault i e hact
  compatible i p w _ _ _ hg j q hj _ := Guar.rely hg (by simpa [eq_comm] using hj)

lemma Run.step {quiz : Quiz} {t : system.Transition} (h : Run roomCode quiz t.before)
    (hf : Faithful t.act) (hu : Undisturbed roomCode t) (ha : AnswersOnRead roomCode t) :
    Run roomCode quiz t.after :=
  ⟨h.once.step hf hu, h.kept.step (permits h.once hf ha)⟩

lemma run_start {quiz : Quiz} {s : State} (hs : Created roomCode quiz s)
    (hr : ∀ room, Runtime.upper room = Runtime.upper roomCode → s.redis.questions room = none) :
    Run roomCode quiz (start s) where
  once :=
    { kept := Progress.kept_start hs
      labelled := labelled_start s
      solvent := ⟨fun _ _ h => (by cases h), fun _ => Nat.le_refl 0⟩
      confined := @confined_start _ _ _ system (fun call _ => Op.Within (Call.footprint call)) s
      spelled := fun _ _ _ h => by cases h
      started := Nat.zero_le _
      stored := fun _ => hr
      elsewhere := fun room hu _ => hr room hu }
  kept := ⟨trivial, fun _ _ h => by cases h⟩

lemma Run.asked {quiz : Quiz} {t : system.Transition} (h : Run roomCode quiz t.before)
    (hf : Faithful t.act) (ha : AnswersOnRead roomCode t) {a : GamePlayerAnswer}
    (hr : RecordsAnswer roomCode t a) : Asked roomCode roomCode t.before.world a := by
  obtain ⟨i, room, playerId, data, changes, e, hc, hu, hnew⟩ := hr
  rcases h.kept.guar_run (permits h.once hf ha)
    (hf.noFault · ·) with ⟨j, p, hact, hp, hg⟩ | ⟨s, hs, -⟩
  · obtain ⟨hact', k, hk⟩ := hc.1
    obtain rfl : i = j := by simpa using hact'.symm.trans hact
    obtain rfl : _ = p := Option.some.inj (hk.symm.trans hp)
    obtain ⟨ev, -, hev, hasked⟩ := hg.history
    rw [hc.history, List.append_cancel_left_eq, List.singleton_inj] at hev
    obtain ⟨k, ids, hpos, hk, hids, hid⟩ :=
      hasked room playerId data changes a rfl hu (hev ▸ rfl) hnew
    have hroom : room = roomCode := by
      by_contra hne
      rw [h.once.elsewhere room hu hne] at hids
      cases hids
    exact ⟨k, ids, hpos, hk, hroom ▸ hids, hid⟩
  · have hh := hc.history
    rw [hs] at hh
    simp at hh

lemma Run.forward {quiz : Quiz} {t : system.Transition} (h : Run roomCode quiz t.before)
    (hf : Faithful t.act) (hu : Undisturbed roomCode t) (ha : AnswersOnRead roomCode t) :
    (∀ ids, (State.redis t.before.world.state).questions roomCode = some ids →
      (State.redis t.after.world.state).questions roomCode = some ids) ∧
    (position roomCode t.before.world).rank ≤ (position roomCode t.after.world).rank := by
  constructor
  · intro ids hids
    rcases h.kept.guar_run (permits h.once hf ha)
      (hf.noFault · ·) with ⟨i, p, -, -, hg⟩ | ⟨s, hs, hcases⟩
    · exact hg.order roomCode ids rfl hids
    · have hredis : s.redis = State.redis t.before.world.state := by
        rcases hcases with rfl | ⟨call, henter⟩ | ⟨e, hact, rfl⟩
        · rfl
        · exact (enter_eq_some henter).2.1
        · cases e with
          | clock now => rfl
          | lose key => exact (hact ▸ hf : Faithful (.env (.lose key))).elim
      rw [hs]
      exact hredis ▸ hids
  · rcases Progress.step_guar h.once.kept hf hu h.once.labelled with ⟨i, p, -, -, hg⟩ | ⟨hp, -⟩
    · exact hg.rank
    · exact (congrArg Position.rank hp).ge

lemma Run.nodup {quiz : Quiz} {c : system.Config} (h : Run roomCode quiz c) {k : ℕ}
    {ids : List UUID} (hp : position roomCode c.world = ⟨.question, k⟩) (hk : k ≠ 0)
    (hids : (State.redis c.world.state).questions roomCode = some ids) : ids.Nodup := by
  have hinv := h.once.kept.inv
  obtain ⟨ids', hids', hperm⟩ := hinv.ordered (by rw [hp]; exact Nat.one_le_iff_ne_zero.mpr hk)
  obtain rfl : ids' = ids := Option.some.inj (hids'.symm.trans hids)
  rw [hperm.nodup_iff]
  have hall := (State.db c.world.state).quizzes.questionIds_nodup
  rw [List.map_flatMap] at hall
  exact (List.nodup_flatMap.mp hall).1 quiz (Table.mem_get? hinv.stored)

end InTime

/-- In a run in which no commit of the room's session is stale, and none of its answers, every
answer is recorded while its question is being asked. -/
theorem undisturbed_answers_are_in_time (roomCode : String) (quiz : Quiz) (s : State)
    (hs : Created roomCode quiz s)
    (hr : ∀ room, Runtime.upper room = Runtime.upper roomCode → s.redis.questions room = none)
    (acts : List system.Act) (hf : ∀ a ∈ acts, Faithful a)
    (hu : ∀ t ∈ transitions (start s) acts, Undisturbed roomCode t)
    (ha : ∀ t ∈ transitions (start s) acts, AnswersOnRead roomCode t) :
    AnswersInTime roomCode (transitions (start s) acts) := by
  obtain ⟨hrun, -⟩ := invariant (I := InTime.Run roomCode quiz)
    (P := fun t => Faithful t.act ∧ Undisturbed roomCode t ∧ AnswersOnRead roomCode t)
    (fun t ht h => h.step ht.1 ht.2.1 ht.2.2) (InTime.run_start hs hr) acts
    fun t ht => ⟨hf _ (act_mem ht), hu t ht, ha t ht⟩
  have hasked : ∀ t ∈ transitions (start s) acts, ∀ a, RecordsAnswer roomCode t a →
      InTime.Asked roomCode roomCode t.before.world a :=
    fun t ht a => (hrun t ht).1.asked (hf _ (act_mem ht)) (ha t ht)
  have hforward := (pairwise_transitions
    (R := fun c d : system.Config =>
      (∀ ids, (State.redis c.world.state).questions roomCode = some ids →
        (State.redis d.world.state).questions roomCode = some ids) ∧
      (position roomCode c.world).rank ≤ (position roomCode d.world).rank)
    (fun _ => ⟨fun _ => id, le_rfl⟩)
    (fun _ _ _ h₁ h₂ => ⟨fun ids h => h₂.1 ids (h₁.1 ids h), h₁.2.trans h₂.2⟩) acts
    fun t ht => (hrun t ht).1.forward (hf _ (act_mem ht)) (hu t ht) (ha t ht)).2
  refine ⟨hasked, hforward.imp_of_mem fun {t u} ht hu' htu k ids a hpos hids hrec hid => ?_⟩
  obtain ⟨k', ids', hpos', hk', hids', hid'⟩ := hasked u hu' a hrec
  obtain rfl : ids = ids' := Option.some.inj ((htu.1 ids hids).symm.trans hids')
  have hvalid := (hrun t ht).2.once.kept.inv.valid
  have hrank := htu.2
  rw [hpos] at hvalid hrank
  rw [hpos'] at hrank
  simp only [Position.Valid, Position.rank] at hvalid hrank
  have hnodup := (hrun u hu').1.nodup hpos' hk' hids'
  obtain ⟨hlt, hget⟩ := List.getElem?_eq_some_iff.mp hid
  obtain ⟨hlt', hget'⟩ := List.getElem?_eq_some_iff.mp hid'
  have hk : k - 1 = k' - 1 := (hnodup.getElem_inj_iff).mp (hget.trans hget'.symm)
  omega

/-- What the next step of the `i`-th process records of the room. -/
def recorded (roomCode : String) (c : system.Config) (i : ℕ) : Option GamePlayerAnswer :=
  match c.procs[i]? with
  | some ⟨.playerFrame room _ _, .await (.commit changes) _⟩ =>
    if Runtime.upper room = Runtime.upper roomCode ∧
        (Db.commit (State.db c.world.state) changes).isSome then changes.newAnswer
    else none
  | _ => none

lemma recordsAnswer_of_recorded {roomCode : String} {c : system.Config} {i : ℕ}
    {a : GamePlayerAnswer} (h : recorded roomCode c i = some a) :
    RecordsAnswer roomCode ⟨c, .run i⟩ a := by
  unfold recorded at h
  split at h
  case h_1 room playerId data changes k hp =>
    split at h
    case isTrue hc =>
      obtain ⟨e, he⟩ := Option.isSome_iff_exists.mp hc.2
      exact ⟨i, room, playerId, data, changes, e, ⟨⟨rfl, k, hp⟩, he⟩, hc.1, h⟩
    case isFalse => cases h
  case h_2 => cases h

lemma AnswersInTime.last {roomCode : String} {c : system.Config} {as : List system.Act} {i : ℕ}
    (h : AnswersInTime roomCode (transitions c (as ++ [.run i])))
    (ha : (recorded roomCode (run as c) i).isSome) :
    (position roomCode (run as c).world).status = .question := by
  obtain ⟨a, ha⟩ := Option.isSome_iff_exists.mp ha
  obtain ⟨k, ids, hp, -⟩ :=
    h.asked _ (last_mem_transitions c as _) a (recordsAnswer_of_recorded ha)
  exact congrArg Position.status hp

end

section Sample

attribute [local instance] Runtime.ascii

/-- A player answers while the question is being asked, and the host closes it. -/
def promptRun : List system.Act :=
  .spawn (Call.hostFrames "ABCDEF" "host" [.startGame, .nextQuestion]) :: runs 0 22 ++
    .spawn (Call.playerFrame "ABCDEF" "p1" (.answer "q1" ["q1a"])) :: runs 1 20 ++ runs 0 25

theorem undisturbed_answers_are_in_time_prompt :
    AnswersInTime "ABCDEF" (transitions (start Sample.state) promptRun) :=
  undisturbed_answers_are_in_time "ABCDEF" Sample.quiz Sample.state
    ⟨Sample.session, by decide +kernel⟩ (fun _ _ => rfl) promptRun (by decide +kernel)
    (by decide +kernel) (by decide +kernel)

/-- The submission awaits its commit while the host closes the question. -/
def lateRun : List system.Act :=
  .spawn (Call.hostFrames "ABCDEF" "host" [.startGame, .nextQuestion]) :: runs 0 22 ++
    .spawn (Call.playerFrame "ABCDEF" "p1" (.answer "q1" ["q1a"])) :: runs 1 8 ++ runs 0 25

/-- The answer is then recorded after the reveal. -/
theorem late_answer_is_recorded :
    Created "ABCDEF" Sample.quiz Sample.state ∧ (∀ a ∈ lateRun ++ [.run 1], Faithful a) ∧
      ¬AnswersInTime "ABCDEF" (transitions (start Sample.state) (lateRun ++ [.run 1])) := by
  refine ⟨⟨Sample.session, by decide +kernel⟩, by decide +kernel, fun h => ?_⟩
  exact absurd (h.last (by decide +kernel)) (by decide +kernel)

end Sample

end Askit.Game

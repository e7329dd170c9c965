import Askit.Game.Marks

/-! However often and over however many sockets a player submits an answer to a question, one
submission is recorded, scored and announced, and every other is refused without a trace. -/

namespace Askit.Game

open Interleaving Machine Coro Tables

section

variable [Runtime]

/-- The only calls to fail are those on sockets. -/
def OnlySocketsFail : system.Transition → Prop
  | ⟨c, .fault i _⟩ => Awaits Op.Socket c.procs[i]?
  | _ => True

instance {β : Type} (o : Op β) : Decidable o.Socket := by
  induction o using Op.casesOn <;> first | exact isTrue trivial | exact isFalse id

instance : DecidablePred OnlySocketsFail
  | ⟨c, .fault i _⟩ => inferInstanceAs (Decidable (Awaits Op.Socket c.procs[i]?))
  | ⟨_, .spawn _⟩ | ⟨_, .run _⟩ | ⟨_, .env _⟩ => isTrue trivial

lemma OnlySocketsFail.socket {t : system.Transition} (h : OnlySocketsFail t) {i : ℕ} {e : Exn}
    {call : Call} {β : Type} {o : Op β} {k : Except Exn β → Handler Unit}
    (hact : t.act = .fault i e) (hp : t.before.procs[i]? = some ⟨call, .await o k⟩) : o.Socket := by
  obtain ⟨c, act⟩ := t
  obtain rfl : act = _ := hact
  exact Awaits.pending h hp

def Call.Submits (playerId questionId : UUID) : Call → Prop
  | .playerFrame _ p (.answer q _) => p = playerId ∧ Runtime.uuid q = some questionId
  | _ => False

instance (playerId questionId : UUID) : DecidablePred (Call.Submits playerId questionId)
  | .playerFrame _ p (.answer q _) =>
    inferInstanceAs (Decidable (p = playerId ∧ Runtime.uuid q = some questionId))
  | .playerFrame _ _ .startGame | .playerFrame _ _ .nextQuestion | .playerFrame _ _ .malformed
  | .joinRoom .. | .hostFrames .. | .questionTimeout _ | .playerEndpoint .. | .hostEndpoint ..
  | .subscriber _ | .delivery _ => isFalse id

def Records (key : UUID × UUID) : Event Op Exn → Bool
  | ⟨_, .commit ⟨_, _, _, _, some a⟩, .ok _⟩ => a.key = key
  | _ => false

omit [Runtime] in
lemma records_eq_true {key : UUID × UUID} {ev : Event Op Exn} (h : Records key ev) :
    ∃ i changes a u, ev = ⟨i, .commit changes, .ok u⟩ ∧ changes.newAnswer = some a ∧
    a.key = key := by
  obtain ⟨i, o, r⟩ := ev
  cases o with
  | commit changes =>
    obtain ⟨_, _, _, _, _ | a⟩ := changes
    · cases h
    · cases r with
      | error e => cases h
      | ok u => exact ⟨i, _, a, u, rfl, rfl, by simpa [Records] using h⟩
  | _ => cases h

namespace AnsweredOnce

variable {key : UUID × UUID} {i : ℕ} {w : system.World} {β : Type}

def Ledger (key : UUID × UUID) (w : system.World) : Prop :=
  w.history.countP (Records key) = if (w.state.db.answers.get? key).isSome then 1 else 0

lemma Ledger.append {v : system.World} {ev : Event Op Exn} (h : Ledger key v)
    (hh : w.history = v.history ++ [ev])
    (hkeep : Records key ev = false →
      (w.state.db.answers.get? key).isSome = (v.state.db.answers.get? key).isSome)
    (hadd : Records key ev = true →
      v.state.db.answers.get? key = none ∧ (w.state.db.answers.get? key).isSome) :
    Ledger key w := by
  rw [Ledger, hh, List.countP_append, h, List.countP_singleton]
  cases hr : Records key ev with
  | false => simp [hkeep hr]
  | true =>
    obtain ⟨hv, hw⟩ := hadd hr
    simp [hv, hw]

variable (key i) in
lemma exec_answers_of_commit (s : State) (changes : Changes) :
    Records key ⟨i, .commit changes, (exec (.commit changes) s).1⟩ = true ∧
        s.db.answers.get? key = none ∧
        ((exec (.commit changes) s).2.db.answers.get? key).isSome = true ∨
      Records key ⟨i, .commit changes, (exec (.commit changes) s).1⟩ = false ∧
        ((exec (.commit changes) s).2.db.answers.get? key).isSome =
          (s.db.answers.get? key).isSome := by
  cases hc : s.db.commit changes with
  | none =>
    rw [exec_commit_none hc]
    exact .inr ⟨by obtain ⟨_, _, _, _, _ | _⟩ := changes <;> rfl, rfl⟩
  | some e =>
    rw [exec_commit_some hc]
    obtain ⟨hn, he⟩ | ⟨a, ha, -, he⟩ := commit_answers hc
    · refine .inr ⟨?_, by rw [he]⟩
      obtain ⟨_, _, _, _, _ | _⟩ := changes
      · rfl
      · cases hn
    · have hrecords : Records key ⟨i, .commit changes, .ok ()⟩ = decide (a.key = key) := by
        obtain ⟨_, _, _, _, _ | b⟩ := changes
        · cases ha
        · obtain rfl : b = a := Option.some.inj ha
          rfl
      have hget := Table.get?_insert he key
      by_cases hk : key = a.key
      · subst hk
        refine .inl ⟨by simp [hrecords], Table.get?_eq_none.mpr (Table.fresh_of_insert he), ?_⟩
        simp [hget]
      · refine .inr ⟨by simp [hrecords, Ne.symm hk], ?_⟩
        simp [hget, hk]

lemma Ledger.perform (h : Ledger key w) (o : Op β) : Ledger key (w.perform i o).2 := by
  cases o with
  | commit changes =>
    apply h.append (World.perform_history _ _ _)
    · intro hr
      rcases exec_answers_of_commit key i w.state changes with
        ⟨hr', -⟩ | ⟨-, hk⟩
      · cases hr.symm.trans hr'
      · exact hk
    · intro hr
      rcases exec_answers_of_commit key i w.state changes with
        ⟨-, hk⟩ | ⟨hr', -⟩
      · exact hk
      · cases hr.symm.trans hr'
  | listen roomCode =>
    apply h.append (World.perform_history _ _ _)
    · exact fun _ => congrArg (fun d => (d.answers.get? key).isSome)
        (exec_listen_db roomCode w.state)
    · exact fun hr => by cases hr
  | _ => exact h.append (World.perform_history _ _ _) (fun _ => rfl) fun hr => by cases hr

lemma Ledger.step {c : system.Config} (h : Ledger key c.world) (a : system.Act) :
    Ledger key (Machine.step a c).world := by
  have hm := step_moves a c
  generalize Machine.step a c = d at hm
  cases hm with
  | idle => exact h
  | spawn call s admitted =>
    rw [Ledger, show s.db = c.world.state.db from (enter_eq_some admitted).1]
    exact h
  | run i call o k pending ready => exact h.perform o
  | fault i e call o k pending =>
    apply h.append (World.fail_history _ _ _ _) (fun _ => rfl)
    intro hr
    obtain ⟨_, _, _, _, hev, -⟩ := records_eq_true hr
    cases hev
  | env e => cases e <;> exact h

lemma permits {t : system.Transition} (hf : OnlySocketsFail t) (hl : t.before.Labelled) :
    discipline.Permits t where
  spawn call s hact henter _ := by
    obtain ⟨hd, -, -⟩ := enter_eq_some henter
    refine ⟨trivial, fun j p _ _ => ⟨rfl, fun r hr => by rw [hd]; exact hr⟩, ?_⟩
    apply ensures_code
    · exact marks_eq_nil fun ev hev => (hl ev hev).ne
    · rintro room playerId data rfl
      exact hd ▸ stored_of_enter data henter
  env e _ _ := ⟨trivial, fun j p _ _ => ⟨rfl, fun r hr => by cases e <;> exact hr⟩⟩
  allowed _ _ _ _ _ _ _ := trivial
  faults i e _ _ _ _ hact hp := hf.socket hact hp
  compatible i p w _ _ _ hg j q hj _ := hg.others j (by simpa using hj)

/-- No frame of a player has left other marks than those of a call of `handle_answer`. -/
def Staged (c : system.Config) : Prop :=
  ∀ i room playerId data, c.calls[i]? = some (.playerFrame room playerId data) →
    marks i c.world.history ∈ stages

lemma Staged.step {t : system.Transition} (h : Staged t.before) (hk : discipline.Kept t.before)
    (hf : OnlySocketsFail t) (hl : t.before.Labelled) : Staged t.after := by
  intro i room playerId data hi
  -- a call that has just been started has no marks yet
  have hb : marks i t.before.world.history ∈ stages := by
    cases hc : t.before.calls[i]? with
    | some call =>
      have hcall := hi.symm.trans (call_step hc)
      exact h i room playerId data (hc.trans hcall.symm)
    | none =>
      have hlt := List.getElem?_eq_none_iff.mp hc
      rw [Config.calls, List.length_map] at hlt
      rw [marks_eq_nil fun ev hev => ((hl ev hev).trans_le hlt).ne]
      exact nil_mem_stages
  rcases hk.guar (permits hf hl) with ⟨j, p, -, hp, hg⟩ | ⟨s, hs, -⟩
  · by_cases hij : i = j
    · subst hij
      have hcall := hi.symm.trans (call_step (getElem?_calls hp))
      exact hg.stage room playerId data (Option.some.inj hcall).symm
    · rw [(hg.others i hij).marks]
      exact hb
  · rw [hs]
    exact hb

structure Run (playerId questionId : UUID) (c : system.Config) : Prop where
  kept : discipline.Kept c
  labelled : c.Labelled
  staged : Staged c
  confined : c.Confined fun call => Op.Within (Call.footprint call)
  ledger : Ledger (playerId, questionId) c.world

variable {playerId questionId : UUID} {c : system.Config}

lemma run_start {s : State} (hs : s.db.answers.get? (playerId, questionId) = none) :
    Run playerId questionId (start s) where
  kept := ⟨trivial, fun i p h => by cases h⟩
  labelled := labelled_start s
  staged i _ _ _ h := by cases h
  confined := @confined_start _ _ _ system (fun call _ => Op.Within (Call.footprint call)) s
  ledger := by simp [Ledger, start, hs]

lemma Run.step {t : system.Transition} (h : Run playerId questionId t.before)
    (hf : OnlySocketsFail t) : Run playerId questionId t.after where
  kept := h.kept.step (permits hf h.labelled)
  labelled := h.labelled.step t.act
  staged := h.staged.step h.kept hf h.labelled
  confined := h.confined.step code_keeps t.act
  ledger := h.ledger.step t.act

end AnsweredOnce

def submitted (playerId questionId : UUID) (c : system.Config) (i : ℕ) : Bool :=
  Option.any (fun call : Call => call.Submits playerId questionId) c.calls[i]?

def marksOf (playerId questionId : UUID) (c : system.Config) : List Mark :=
  (c.world.history.filter fun ev => submitted playerId questionId c ev.pid).filterMap mark

/-- One submission by the player for the question is recorded, if any, and every other is refused
without a trace. -/
structure AnsweredOnce (playerId questionId : UUID) (c : system.Config) : Prop where
  returned : (marksOf playerId questionId c).count .returned ≤ 1
  committed : (marksOf playerId questionId c).count .committed ≤ 1
  answered : (marksOf playerId questionId c).count .answered ≤ 1
  updated : (marksOf playerId questionId c).count .updated ≤ 1
  recorded : (∀ i p, c.procs[i]? = some p → submitted playerId questionId c i →
    ∃ r, p.rest = .done r) →
    (c.world.state.db.answers.rows.map GamePlayerAnswer.key).count (playerId, questionId) =
      if .returned ∈ marksOf playerId questionId c then 1 else 0
  refused : ∀ i call r, c.procs[i]? = some ⟨call, .done r⟩ → submitted playerId questionId c i →
    .returned ∉ marks i c.world.history →
    ∃ e, (e = .alreadyAnsweredError ∨ e = .questionNotActiveError) ∧
      marks i c.world.history = [.raised e]

namespace AnsweredOnce

variable {playerId questionId : UUID} {c : system.Config} {i : ℕ} {x : Mark}

lemma submitted_iff : submitted playerId questionId c i ↔
    ∃ call : Call, c.calls[i]? = some call ∧ call.Submits playerId questionId := by
  unfold submitted
  rw [Option.any_eq_true]
  exact exists_congr fun call => and_congr_right fun _ => decide_eq_true_iff

lemma mem_marks : x ∈ marks i c.world.history ↔ ∃ ev ∈ c.world.history, ev.pid = i ∧
    mark ev = some x := by
  simp [marks, and_assoc]

lemma mem_marksOf : x ∈ marksOf playerId questionId c ↔
    ∃ i, submitted playerId questionId c i ∧ x ∈ marks i c.world.history := by
  simp only [marksOf, List.mem_filterMap, List.mem_filter, mem_marks]
  constructor
  · rintro ⟨ev, ⟨hev, hs⟩, hm⟩
    exact ⟨ev.pid, hs, ev, hev, rfl, hm⟩
  · rintro ⟨i, hs, ev, hev, rfl, hm⟩
    exact ⟨ev, ⟨hev, hs⟩, hm⟩

lemma Run.stage (h : Run playerId questionId c) (hi : submitted playerId questionId c i) :
    marks i c.world.history ∈ stages := by
  obtain ⟨call, hc, hs⟩ := submitted_iff.mp hi
  cases call with
  | playerFrame room p data => exact h.staged i room p data hc
  | _ => exact hs.elim

lemma Run.records (h : Run playerId questionId c) (hi : submitted playerId questionId c i)
    (hc : .committed ∈ marks i c.world.history) :
    ∃ ev ∈ c.world.history, ev.pid = i ∧ Records (playerId, questionId) ev := by
  obtain ⟨ev, hev, rfl, hm⟩ := mem_marks.mp hc
  refine ⟨ev, hev, rfl, ?_⟩
  obtain ⟨call, hcall, hs⟩ := submitted_iff.mp hi
  obtain ⟨call', hcall', hw⟩ := h.confined.history ev hev
  obtain rfl : call' = call := Option.some.inj (hcall'.symm.trans hcall)
  obtain ⟨i, o, r⟩ := ev
  cases o with
  | commit changes =>
    cases r with
    | error e => cases hm
    | ok u =>
      cases call' with
      | playerFrame room p data =>
        obtain ⟨q, answerIds, u, rfl, hu, player, a, hkey, -, rfl⟩ :=
          ClientMessage.Commits.ofAnswer hw
        obtain ⟨rfl, hq⟩ := hs
        obtain rfl : u = questionId := Option.some.inj (hu.symm.trans hq)
        simpa [Records, Changes.answer] using hkey
      | _ => exact hs.elim
  | sendJson websocket message => cases message <;> cases hm
  | log entry => cases entry <;> cases hm
  | publish room e =>
    obtain ⟨message, excluded⟩ := e
    cases message <;> cases hm
  | _ => cases hm

lemma Run.submitted (h : Run playerId questionId c) {ev : Event Op Exn} (hev : ev ∈ c.world.history)
    (hr : Records (playerId, questionId) ev) :
    Game.submitted playerId questionId c ev.pid ∧ .committed ∈ marks ev.pid c.world.history := by
  obtain ⟨call, hcall, hw⟩ := h.confined.history ev hev
  obtain ⟨i, changes, a, u, rfl, ha, hkey⟩ := records_eq_true hr
  refine ⟨submitted_iff.mpr ⟨call, hcall, ?_⟩, mem_marks.mpr ⟨_, hev, rfl, rfl⟩⟩
  cases call with
  | playerFrame room p data =>
    obtain ⟨q, answerIds, u, rfl, hu, player, b, hb, -, rfl⟩ := ClientMessage.Commits.ofAnswer hw
    cases ha
    obtain ⟨rfl, rfl⟩ := Prod.mk.inj (hb.symm.trans hkey)
    exact ⟨rfl, hu⟩
  | joinRoom =>
    obtain ⟨p, -, rfl⟩ := hw
    cases ha
  | hostFrames =>
    obtain ⟨d, -, rfl⟩ := hw
    cases ha
  | questionTimeout =>
    obtain ⟨g, -, rfl⟩ := hw
    cases ha
  | playerEndpoint =>
    obtain ⟨p, rfl⟩ := hw
    cases ha
  | _ => exact hw.elim

lemma Run.ledger_le_one (h : Run playerId questionId c) :
    c.world.history.countP (Records (playerId, questionId)) ≤ 1 := by
  rw [h.ledger]
  split <;> omega

lemma Run.eq_of_mem (h : Run playerId questionId c) {j : ℕ} {y : Mark}
    (hi : Game.submitted playerId questionId c i) (hj : Game.submitted playerId questionId c j)
    (hx : x ∈ marks i c.world.history) (hy : y ∈ marks j c.world.history)
    (hxr : ∀ e, x ≠ .raised e) (hyr : ∀ e, y ≠ .raised e) : i = j := by
  obtain ⟨a, ha, rfl, hKa⟩ := h.records hi (committed_of_stage (h.stage hi) hx hxr)
  obtain ⟨b, hb, rfl, hKb⟩ := h.records hj (committed_of_stage (h.stage hj) hy hyr)
  rw [eq_of_countP_le_one h.ledger_le_one ha hb hKa hKb]

lemma Run.count_le_one (h : Run playerId questionId c) (hx : ∀ e, x ≠ .raised e) :
    (marksOf playerId questionId c).count x ≤ 1 := by
  rw [marksOf, List.count, List.countP_filterMap]
  have hmem : ∀ ev ∈ c.world.history.filter fun ev => Game.submitted playerId questionId c ev.pid,
      ((mark ev).map (· == x)).getD false → Game.submitted playerId questionId c ev.pid ∧
        x ∈ marks ev.pid c.world.history := by
    intro ev hev hK
    obtain ⟨hev, hs⟩ := List.mem_filter.mp hev
    refine ⟨hs, mem_marks.mpr ⟨ev, hev, rfl, ?_⟩⟩
    cases hm : mark ev with
    | none => simp [hm] at hK
    | some y => simpa [hm] using hK
  apply @countP_le_one _ _ _ Event.pid
  · intro a ha hKa b hb hKb
    obtain ⟨hsa, hma⟩ := hmem a ha hKa
    obtain ⟨hsb, hmb⟩ := hmem b hb hKb
    exact h.eq_of_mem hsa hsb hma hmb hx hx
  · intro a ha hKa
    have hone := count_le_one_of_stage (h.stage (hmem a ha hKa).1) x
    rw [marks, List.count, List.countP_filterMap] at hone
    exact le_trans (List.filter_sublist.filter _).countP_le hone

lemma Run.outcome (h : Run playerId questionId c) {call : Call} {r : Except Exn Unit}
    (hp : c.procs[i]? = some ⟨call, .done r⟩) (hi : Game.submitted playerId questionId c i) :
    marks i c.world.history ∈ outcomes := by
  obtain ⟨call', hcall, hs⟩ := submitted_iff.mp hi
  obtain rfl : call = call' := Option.some.inj ((getElem?_calls hp).symm.trans hcall)
  cases call with
  | playerFrame room p data =>
    cases data with
    | answer q answerIds => exact h.kept.ensures i _ hp room p q answerIds rfl
    | _ => exact hs.elim
  | _ => exact hs.elim

lemma Run.answeredOnce (h : Run playerId questionId c) : AnsweredOnce playerId questionId c where
  returned := h.count_le_one fun _ => nofun
  committed := h.count_le_one fun _ => nofun
  answered := h.count_le_one fun _ => nofun
  updated := h.count_le_one fun _ => nofun
  recorded hended := by
    have hledger := h.ledger
    by_cases hget : (c.world.state.db.answers.get? (playerId, questionId)).isSome
    · -- the record that is stored is of a call that has ended, and so returned
      rw [Ledger, if_pos hget] at hledger
      have hpos : 0 < c.world.history.countP (Records (playerId, questionId)) := by omega
      obtain ⟨ev, hev, hr⟩ := List.countP_pos_iff.mp hpos
      obtain ⟨hs, hc⟩ := h.submitted hev hr
      obtain ⟨call, hcall, -⟩ := submitted_iff.mp hs
      obtain ⟨rest, hp⟩ := exists_proc hcall
      obtain ⟨r, rfl⟩ := hended _ _ hp hs
      have hall : ∀ m ∈ outcomes, .committed ∈ m → .returned ∈ m := by decide
      have hret : .returned ∈ marksOf playerId questionId c :=
        mem_marksOf.mpr ⟨_, hs, hall _ (h.outcome hp hs) hc⟩
      obtain ⟨a, ha⟩ := Option.isSome_iff_exists.mp hget
      obtain ⟨hrow, hkey⟩ := Table.get?_eq_some.mp ha
      rw [if_pos hret, List.count_eq_one_of_mem c.world.state.db.answers.unique]
      exact List.mem_map.mpr ⟨a, hrow, hkey⟩
    · rw [Ledger, if_neg hget] at hledger
      have hret : .returned ∉ marksOf playerId questionId c := by
        intro hm
        obtain ⟨i, hs, hm⟩ := mem_marksOf.mp hm
        obtain ⟨ev, hev, -, hr⟩ :=
          h.records hs (committed_of_stage (h.stage hs) hm fun _ => nofun)
        exact List.countP_eq_zero.mp hledger ev hev hr
      rw [if_neg hret, List.count_eq_zero_of_not_mem]
      exact Table.get?_eq_none.mp (Option.not_isSome_iff_eq_none.mp hget)
  refused i call r hp hi hret := by
    have hall : ∀ m ∈ outcomes, .returned ∈ m ∨ m = [.raised .alreadyAnsweredError] ∨
        m = [.raised .questionNotActiveError] := by
      decide
    rcases hall _ (h.outcome hp hi) with hm | hm | hm
    · exact (hret hm).elim
    · exact ⟨_, .inl rfl, hm⟩
    · exact ⟨_, .inr rfl, hm⟩

end AnsweredOnce

/-- From a state in which the player has not answered the question, in every run in which only
sockets fail. -/
theorem player_answers_once (playerId questionId : UUID) (s : State)
    (hs : s.db.answers.get? (playerId, questionId) = none) (acts : List system.Act)
    (hf : ∀ t ∈ transitions (start s) acts, OnlySocketsFail t) :
    AnsweredOnce playerId questionId (run acts (start s)) := by
  have h := (invariant (I := AnsweredOnce.Run playerId questionId) (fun t ht h => h.step ht)
    (AnsweredOnce.run_start hs) acts hf).2
  exact h.answeredOnce

end

section Sample

attribute [local instance] Runtime.ascii

/-- Two sockets of one player submit at once, Redis forgets who has answered, and a third submission
follows. -/
def answersRun : List system.Act :=
  .spawn (Call.hostFrames "ABCDEF" "host" [.startGame]) :: runs 0 22 ++
    .spawn (Call.playerFrame "ABCDEF" "p1" (.answer "q1" ["q1a"])) ::
    .spawn (Call.playerFrame "ABCDEF" "p1" (.answer "q1" ["q1b"])) :: runs 1 8 ++ runs 2 30 ++
    runs 1 20 ++ Act.env (Env.lose (.answered "ABCDEF" 1)) ::
    .spawn (Call.playerFrame "ABCDEF" "p1" (.answer "q1" ["q1a"])) :: runs 3 30

theorem player_answers_once_raced :
    AnsweredOnce "p1" "q1" (run answersRun (start Sample.state)) :=
  player_answers_once "p1" "q1" Sample.state (by decide +kernel) answersRun (by decide +kernel)

end Sample

end Askit.Game

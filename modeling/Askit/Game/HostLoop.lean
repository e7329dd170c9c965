import Askit.Game.HostFrames

/-! A room whose host frames are handled one after another asks the questions of its stored
order. -/

namespace Askit.Game

open Interleaving Machine Coro Tables

section

variable [Runtime]

/-- The room's host frames all go through one receive loop. -/
def OneLoop (roomCode : String) : system.Transition → Prop
  | ⟨c, .spawn (.hostFrames room _ _)⟩ => Runtime.upper room = Runtime.upper roomCode →
      room = roomCode ∧ ∀ call ∈ c.calls, ¬Call.Hosts roomCode call
  | _ => True

instance (roomCode : String) : DecidablePred (OneLoop roomCode)
  | ⟨c, .spawn (.hostFrames room _ _)⟩ =>
    have : Decidable (∀ call ∈ c.calls, ¬Call.Hosts roomCode call) :=
      @List.decidableBAll Call (fun call => ¬Call.Hosts roomCode call) _ c.calls
    inferInstanceAs (Decidable (Runtime.upper room = Runtime.upper roomCode → room = roomCode ∧ _))
  | ⟨_, .spawn (.joinRoom ..)⟩ | ⟨_, .spawn (.playerFrame ..)⟩ | ⟨_, .spawn (.questionTimeout _)⟩
  | ⟨_, .spawn (.playerEndpoint ..)⟩ | ⟨_, .spawn (.hostEndpoint ..)⟩ | ⟨_, .spawn (.subscriber _)⟩
  | ⟨_, .spawn (.delivery _)⟩ | ⟨_, .run _⟩ | ⟨_, .fault _ _⟩ | ⟨_, .env _⟩ => isTrue trivial

lemma OneLoop.alone {roomCode : String} {call : Call} {t : system.Transition}
    (h : OneLoop roomCode t) (hact : t.act = .spawn call) (hc : call.Hosts roomCode) :
    ∀ a ∈ t.before.calls, ¬Call.Hosts roomCode a := by
  obtain ⟨c, act⟩ := t
  obtain rfl : act = _ := hact
  cases call with
  | hostFrames room hostId frames => exact (h hc).2
  | _ => exact hc.elim

namespace HostLoop

variable {t : system.Transition}

def Single (roomCode : String) (calls : List Call) : Prop :=
  ∀ (i j : ℕ) (a b : Call), calls[i]? = some a → calls[j]? = some b →
    a.Hosts roomCode → b.Hosts roomCode → i = j

lemma Single.snoc {calls : List Call} (h : Single roomCode calls)
    (hnew : call.Hosts roomCode → ∀ a ∈ calls, ¬a.Hosts roomCode) :
    Single roomCode (calls ++ [call]) := by
  have hcase : ∀ (i : ℕ) (a : Call), (calls ++ [call])[i]? = some a →
      calls[i]? = some a ∨ i = calls.length ∧ a = call := by
    intro i a ha
    rcases Nat.lt_trichotomy i calls.length with hi | hi | hi
    · rw [List.getElem?_append_left hi] at ha
      exact .inl ha
    · subst hi
      rw [List.getElem?_concat_length, Option.some.injEq] at ha
      exact .inr ⟨rfl, ha.symm⟩
    · rw [List.getElem?_eq_none (by simp; omega)] at ha
      cases ha
  intro i j a b hi hj ha hb
  rcases hcase i a hi with hi' | ⟨hi', hac⟩ <;> rcases hcase j b hj with hj' | ⟨hj', hbc⟩
  · exact h i j a b hi' hj' ha hb
  · exact (hnew (hbc ▸ hb) a (List.mem_of_getElem? hi') ha).elim
  · exact (hnew (hac ▸ ha) b (List.mem_of_getElem? hj') hb).elim
  · exact hi'.trans hj'.symm

variable (roomCode quiz randomize) in
structure Running (c : system.Config) : Prop where
  kept : (discipline roomCode quiz randomize).Kept c
  single : Single roomCode c.calls
  rest : (∀ call ∈ c.calls, ¬Call.Hosts roomCode call) → Rest roomCode c.world

lemma ensures_code
    (hone : ∀ room hostId frames, call = .hostFrames room hostId frames →
      Runtime.upper room = Runtime.upper roomCode → room = roomCode ∧ Rest roomCode w) :
    (contract roomCode quiz randomize call).Ensures i (fun _ _ => True) (code call) w := by
  by_cases he : call.Elsewhere roomCode
  · exact .mono (ensures_offstage he.offstage) fun _ _ _ => trivial
  · cases call with
    | hostFrames room hostId frames =>
      have hu := not_not.mp he
      obtain ⟨rfl, hrest⟩ := hone room hostId frames rfl hu
      exact .mono (hostFrames_ensures (by exact rfl) frames hrest) fun _ _ _ => trivial
    | questionTimeout timer => exact questionTimeout_ensures (not_not.mp he)
    | _ => exact (he trivial).elim

lemma Running.permits (h : Running roomCode quiz randomize t.before) (hf : Faithful t.act)
    (ho : OneLoop roomCode t) : (discipline roomCode quiz randomize).Permits t where
  spawn call s hact henter hi := by
    obtain ⟨hd, hr, -⟩ := enter_eq_some henter
    refine ⟨hi.of_eq hd hr rfl, fun j p _ _ => .of_frame (.of_eq hd hr rfl), ?_⟩
    apply ensures_code
    rintro room hostId frames rfl hu
    have hloop : room = roomCode ∧ ∀ call ∈ t.before.calls, ¬Call.Hosts roomCode call := by
      obtain ⟨c, a⟩ := t
      obtain rfl : a = _ := hact
      exact ho hu
    exact ⟨hloop.1, (h.rest hloop.2).frame (.of_eq hd hr rfl)⟩
  env e hact hi := by
    cases e with
    | clock now => exact ⟨hi.of_eq rfl rfl rfl, fun j p _ _ => .of_frame (.of_eq rfl rfl rfl)⟩
    | lose key => exact (hact ▸ hf : Faithful (.env (.lose key))).elim
  allowed _ _ _ _ _ _ _ := trivial
  faults i e _ _ _ _ hact _ := hf.noFault i e hact
  compatible i p w hp _ _ hg j q hj hq := by
    have hidx : (position roomCode t.before.world).index ≤ (position roomCode w).index := by
      rcases Guar.index hg with h | h <;> omega
    refine ⟨hidx, fun hqc => Guar.frame hg fun hpc => hj ?_⟩
    rw [h.single i j p.call q.call (getElem?_calls hp) (getElem?_calls hq) hpc hqc]

lemma Running.step (h : Running roomCode quiz randomize t.before) (hf : Faithful t.act)
    (ho : OneLoop roomCode t) : Running roomCode quiz randomize t.after := by
  have hp := h.permits hf ho
  have hcalls := calls_step t.act t.before
  refine ⟨h.kept.step hp, ?_, fun hno => ?_⟩
  · change Single roomCode (Machine.step t.act t.before).calls
    rcases hcalls with hc | ⟨call, hact, hc⟩
    · exact hc ▸ h.single
    · rw [hc]
      exact h.single.snoc fun hnew => ho.alone hact hnew
  · have hbefore : ∀ call ∈ t.before.calls, ¬Call.Hosts roomCode call := by
      intro call hcall
      apply hno
      change call ∈ (Machine.step t.act t.before).calls
      rcases hcalls with hc | ⟨_, -, hc⟩ <;> rw [hc]
      · exact hcall
      · exact List.mem_append_left _ hcall
    apply (h.rest hbefore).frame
    rcases h.kept.guar_run hp hf.noFault with ⟨i, p, -, hget, hg⟩ | ⟨s, hs, hcase⟩
    · exact Guar.frame hg (hbefore _ (List.mem_of_getElem? (getElem?_calls hget)))
    · rw [hs]
      obtain ⟨hd, hr⟩ : s.db = t.before.world.state.db ∧ s.redis = t.before.world.state.redis := by
        rcases hcase with rfl | ⟨call, henter⟩ | ⟨e, hact, rfl⟩
        · exact ⟨rfl, rfl⟩
        · obtain ⟨hd, hr, -⟩ := enter_eq_some henter
          exact ⟨hd, hr⟩
        · cases e with
          | clock now => exact ⟨rfl, rfl⟩
          | lose key => exact (hact ▸ hf : Faithful (.env (.lose key))).elim
      exact .of_eq hd hr rfl

lemma running_start {s : State} (h : Created roomCode quiz s) {g : GameSession}
    (hg : s.db.sessions.get? (Runtime.upper roomCode) = some g) :
    Running roomCode quiz g.randomizeQuestions (start s) := by
  obtain ⟨g', hg', hp, hq, hquiz⟩ := h
  obtain rfl : g' = g := Option.some.inj (hg'.symm.trans hg)
  have hw : position roomCode (start s : system.Config).world = ⟨.waiting, 0⟩ :=
    (State.position_eq hg).trans hp
  have ha : announced roomCode (start s : system.Config).world = [] := rfl
  have ho : orders roomCode (start s : system.Config).world = [] := rfl
  refine ⟨⟨⟨⟨g', hg, hq, rfl⟩, hquiz, hw ▸ rfl, fun _ => ⟨by rw [hw], ha⟩, fun order horder => ?_,
    fun hfin => ?_⟩, fun i p hi => ?_⟩, fun i j a b hi => ?_, fun _ =>
    ⟨?_, ?_, fun _ => by rw [hw]⟩⟩
  · rw [ho] at horder
    cases horder
  · rw [hw] at hfin
    cases hfin
  · cases hi
  · cases hi
  · rw [ha, hw]
    rfl
  · rw [ho, hw]
    simp

lemma Running.index_step (h : Running roomCode quiz randomize t.before) (hf : Faithful t.act)
    (ho : OneLoop roomCode t) :
    (position roomCode t.after.world).index = (position roomCode t.before.world).index ∨
      (position roomCode t.after.world).index = (position roomCode t.before.world).index + 1 := by
  rcases h.kept.guar_run (h.permits hf ho) hf.noFault with ⟨i, p, -, -, hg⟩ | ⟨s, hs, hcase⟩
  · exact Guar.index hg
  · have hd : s.db = t.before.world.state.db := by
      rcases hcase with rfl | ⟨call, henter⟩ | ⟨e, -, rfl⟩
      · rfl
      · exact (enter_eq_some henter).1
      · cases e <;> rfl
    rw [hs]
    exact .inl (congrArg Position.index (State.position_congr hd _))

end HostLoop

/-- Every step of the room keeps to the order: the stored one is `order`, the `QUESTION` broadcasts
go through it from the front, and the session is finished when they are through. -/
structure AsksInOrder (roomCode : String) (order : List UUID) (t : system.Transition) : Prop where
  stored : ∀ ids ∈ orders roomCode t.after.world, ids = order
  kept : 1 ≤ (position roomCode t.after.world).index →
    t.after.world.state.redis.questions roomCode = some order
  announced : announced roomCode t.after.world <+: numbered order
  index : (position roomCode t.after.world).index = (position roomCode t.before.world).index ∨
    (position roomCode t.after.world).index = (position roomCode t.before.world).index + 1
  finished : (position roomCode t.after.world).status = .finished →
    Game.announced roomCode t.after.world = numbered order

theorem one_host_loop_asks_in_order (roomCode : String) (quiz : Quiz) (s : State)
    (hs : Created roomCode quiz s) (g : GameSession)
    (hg : s.db.sessions.get? (Runtime.upper roomCode) = some g) (acts : List system.Act)
    (hf : ∀ a ∈ acts, Faithful a) (ho : ∀ t ∈ transitions (start s) acts, OneLoop roomCode t) :
    ∃ order, order.Perm (quiz.questions.map QuizQuestion.questionId) ∧
      (g.randomizeQuestions = false →
        order = (sortByPosition quiz.questions).map QuizQuestion.questionId) ∧
      ∀ t ∈ transitions (start s) acts, AsksInOrder roomCode order t := by
  obtain ⟨hrun, hend⟩ := invariant (I := HostLoop.Running roomCode quiz g.randomizeQuestions)
    (P := fun t => Faithful t.act ∧ OneLoop roomCode t) (fun t ht h => h.step ht.1 ht.2)
    (HostLoop.running_start hs hg) acts fun t ht => ⟨hf _ (act_mem ht), ho t ht⟩
  have hstep : ∀ t ∈ transitions (start s) acts, _ := fun t ht =>
    (hrun t ht).1.index_step (hf _ (act_mem ht)) (ho t ht)
  have hprefix : ∀ t ∈ transitions (start s) acts,
      orders roomCode t.after.world <+: orders roomCode (run acts (start s)).world :=
    fun t ht => (history_prefix_of_mem ht).filterMap _
  have hlength : ∀ order : List UUID, order.Perm (quiz.questions.map QuizQuestion.questionId) →
      (numbered order).length = quiz.questions.length := by
    intro order hperm
    simpa [numbered] using hperm.length_eq
  -- a state without a stored order is one before the start, for whatever order
  have hnone : ∀ order : List UUID, order.Perm (quiz.questions.map QuizQuestion.questionId) →
      ∀ t ∈ transitions (start s) acts, orders roomCode t.after.world = [] →
        AsksInOrder roomCode order t := by
    intro order hperm t ht hn
    have hinv := (hrun t ht).2.kept.inv
    obtain ⟨h0, ha⟩ := hinv.unstarted hn
    refine ⟨by simp [hn], fun h1 => ?_, ha ▸ List.nil_prefix, hstep t ht, fun hfin => ?_⟩
    · omega
    · have := hinv.finished hfin
      rw [ha] at this ⊢
      exact (List.eq_nil_of_length_eq_zero ((hlength order hperm).trans this.symm)).symm
  cases hfinal : orders roomCode (run acts (start s)).world with
  | nil =>
    refine ⟨(sortByPosition quiz.questions).map QuizQuestion.questionId,
      (sortByPosition_perm _).map _, fun _ => rfl, fun t ht => ?_⟩
    have hn : orders roomCode t.after.world = [] := List.prefix_nil.mp (hfinal ▸ hprefix t ht)
    exact hnone _ ((sortByPosition_perm _).map _) t ht hn
  | cons order rest =>
    obtain ⟨hsingle, ⟨hperm, hsorted⟩, -, -⟩ :=
      hend.kept.inv.started order (by rw [hfinal]; exact List.mem_cons_self)
    refine ⟨order, hperm, hsorted, fun t ht => ?_⟩
    have hinv := (hrun t ht).2.kept.inv
    have hp := hprefix t ht
    rw [hsingle, List.prefix_cons_iff] at hp
    rcases hp with hn | ⟨l, hp, hl⟩
    · exact hnone order hperm t ht hn
    · rw [List.prefix_nil.mp hl] at hp
      obtain ⟨-, -, hstored, ha⟩ := hinv.started order (by simp [hp])
      refine ⟨by simp [hp], fun _ => hstored, ha, hstep t ht, fun hfin => ?_⟩
      exact ha.eq_of_length ((hinv.finished hfin).trans (hlength order hperm).symm)

end

section Sample

attribute [local instance] Runtime.ascii

/-- The host plays the whole quiz while the timer of question 1 closes it. -/
def hostedRun : List system.Act :=
  .spawn (Call.hostFrames "ABCDEF" "host" [.startGame, .nextQuestion, .nextQuestion,
    .nextQuestion]) ::
    runs 0 22 ++ .spawn (Call.questionTimeout ⟨"ABCDEF", 1, 30000⟩) :: runs 1 3 ++ runs 0 40

theorem one_host_loop_asks_in_order_hosted :
    ∃ order, order.Perm (Sample.quiz.questions.map QuizQuestion.questionId) ∧
      (Sample.session.randomizeQuestions = false →
        order = (sortByPosition Sample.quiz.questions).map QuizQuestion.questionId) ∧
      ∀ t ∈ transitions (start Sample.state) hostedRun, AsksInOrder "ABCDEF" order t :=
  one_host_loop_asks_in_order "ABCDEF" Sample.quiz Sample.state
    ⟨Sample.session, by decide +kernel⟩ Sample.session (by decide +kernel) hostedRun
    (by decide +kernel) (by decide +kernel)

end Sample

end Askit.Game

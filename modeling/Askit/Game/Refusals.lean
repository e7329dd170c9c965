import Askit.Game.Submissions

/-! A submission that raises, and what it has recorded. -/

namespace Askit.Game

open Interleaving Machine Coro Tables

/-- The calls of `submit_answer` that follow its commit. -/
def Op.AfterCommit {β : Type} : Op β → Prop
  | .saddAnswered .. | .expireAnswered .. | .log _ => True
  | _ => False

instance {β : Type} (o : Op β) : Decidable o.AfterCommit := by
  induction o using Op.casesOn <;> unfold Op.AfterCommit <;> infer_instance

section

variable [Runtime]

/-- No call raises once the commit has succeeded. -/
def KeepsUp : submissions.Transition → Prop
  | ⟨c, .fault i _⟩ =>
    match c.procs[i]? with
    | some ⟨_, .await o _⟩ => ¬o.AfterCommit
    | _ => True
  | _ => True

instance : DecidablePred KeepsUp
  | ⟨c, .fault i _⟩ =>
    match h : c.procs[i]? with
    | some ⟨_, .await o _⟩ => decidable_of_iff (¬o.AfterCommit) (by simp [KeepsUp, h])
    | some ⟨_, .done _⟩ | none => isTrue (by simp [KeepsUp, h])
  | ⟨_, .spawn _⟩ | ⟨_, .run _⟩ | ⟨_, .env _⟩ => isTrue trivial

/-- If the submission has raised, all scores and all records are as before. -/
def LeavesNothing (s : State) (c : submissions.Config) : Prop :=
  (∃ call e, c.procs[0]? = some ⟨call, .done (.error e)⟩) →
    (State.db c.world.state).players = s.db.players ∧
      (State.db c.world.state).answers = s.db.answers

namespace Refusals

abbrev Ev := Event Op Exn

def records : Ev → Bool
  | ⟨_, .commit _, .ok _⟩ => true
  | _ => false

def slips : Ev → Bool
  | ⟨_, .saddAnswered .., .error _⟩ | ⟨_, .expireAnswered .., .error _⟩ | ⟨_, .log _,
    .error _⟩ => true
  | _ => false

structure Ruled (l : List Ev) (ev : Ev) : Prop where
  steady : ∀ ev' ∈ l, slips ev' = false
  late : ev.op.AfterCommit → ∃ ev' ∈ l, records ev' = true
  answer : ∀ changes r, ev = ⟨ev.pid, .commit changes, r⟩ → ∃ a, changes.newAnswer = some a

structure Ended {α : Type} (r : Except Exn α) (l : List Ev) : Prop where
  raised : ∀ e, r = .error e → (∃ ev ∈ l, slips ev = true) ∨ ∀ ev ∈ l, records ev = false
  slipped : (∃ ev ∈ l, slips ev = true) → ∃ e, r = .error e

def Early (l : List Ev) : Prop := ∀ ev ∈ l, records ev = false ∧ slips ev = false

variable {i : ℕ} {l l' : List Ev} {α β γ : Type}

abbrev Follows (i : ℕ) (Q : Except Exn α → List Ev → Prop) (x : Handler α) (l : List Ev) : Prop :=
  x.Follows submissions.Answers i Ruled Q l

def Op.Early {β : Type} : Op β → Prop
  | .commit _ | .saddAnswered .. | .expireAnswered .. | .log _ => False
  | _ => True

omit [Runtime] in
lemma early_append {o : Op β} (ho : Op.Early o) (r : Except Exn β) (hl : Early l) :
    Ruled l ⟨i, o, r⟩ ∧ Early (l ++ [⟨i, o, r⟩]) := by
  constructor
  · refine ⟨fun ev hev => (hl ev hev).2, fun h => ?_, ?_⟩
    · cases o <;> first | exact ho.elim | exact h.elim
    · rintro changes r' ⟨⟩
      exact ho.elim
  · intro ev hev
    rcases List.mem_append.mp hev with hev | hev
    · exact hl ev hev
    · rw [List.mem_singleton.mp hev]
      cases o <;> first | exact ho.elim | exact ⟨rfl, rfl⟩

omit [Runtime] in
lemma ended_early (r : Except Exn α) (hl : Early l) : Ended r l where
  raised _ _ := .inr fun ev hev => (hl ev hev).1
  slipped h := by
    obtain ⟨ev, hev, hs⟩ := h
    rw [(hl ev hev).2] at hs
    cases hs

lemma early_follows {x : Handler α} (hx : x.All submissions.Answers Op.Early) (hl : Early l) :
    Follows i (fun _ l' => Early l') x l :=
  Follows.of_all hx (fun _ r _ ho _ hl => early_append ho r hl) hl

lemma early_bind {o : Op γ} {f : γ → Handler β} (ho : Op.Early o) (hl : Early l)
    (hf : ∀ a, Early (l ++ [⟨i, o, .ok a⟩]) → Follows i Ended (f a) (l ++ [⟨i, o, .ok a⟩])) :
    Follows i Ended (await o >>= f) l :=
  .perform_bind (fun r _ => (early_append ho r hl).1) (fun a _ => hf a (early_append ho _ hl).2)
    fun _ => ended_early _ (early_append ho _ hl).2

lemma getCurrentQuestion_early (roomCode : String) :
    (getCurrentQuestion roomCode).All submissions.Answers Op.Early := by
  apply All.perform_bind trivial
  rintro (_ | room) -
  · trivial
  apply All.ite
  · exact fun _ => trivial
  intro _
  apply All.perform_bind trivial
  rintro (_ | questionIds) -
  · trivial
  dsimp only
  split
  · exact All.perform_bind trivial fun _ _ => trivial
  · trivial

lemma timeTaken_early (question : QuizQuestion) (start : Option Time) :
    (timeTaken question start).All submissions.Answers Op.Early := by
  cases start with
  | none => trivial
  | some start => exact All.perform_bind trivial fun _ _ => trivial

lemma commitAnswer_follows (player : Option GamePlayer) (record : GamePlayerAnswer) (hl : Early l) :
    Follows i
      (fun r l' => (∀ a, r = .ok a → (∃ ev ∈ l', records ev = true) ∧ ∀ ev ∈ l', slips ev = false) ∧
      ∀ e, r = .error e → Early l') (commitAnswer player record) l := by
  have hcommit (r : Except Exn Unit) : Ruled l ⟨i, .commit (.answer player record), r⟩ := by
    refine ⟨fun ev hev => (hl ev hev).2, fun h => h.elim, ?_⟩
    rintro changes r' ⟨⟩
    exact ⟨record, rfl⟩
  have hfail (e : Exn) : Early (l ++ [⟨i, .commit (.answer player record), .error e⟩]) := by
    intro ev hev
    rcases List.mem_append.mp hev with hev | hev
    · exact hl ev hev
    · rw [List.mem_singleton.mp hev]
      exact ⟨rfl, rfl⟩
  apply Follows.tryCatch (S := fun r l' => (∀ a, r = .ok a → (∃ ev ∈ l', records ev = true) ∧
    ∀ ev ∈ l', slips ev = false) ∧ ∀ e, r = .error e → Early l')
  · intro r _
    refine ⟨hcommit r, ?_⟩
    cases r with
    | ok a =>
      refine ⟨fun _ _ => ⟨⟨_, List.mem_append_right _ (List.mem_singleton_self _), rfl⟩, ?_⟩, nofun⟩
      intro ev hev
      rcases List.mem_append.mp hev with hev | hev
      · exact (hl ev hev).2
      · rw [List.mem_singleton.mp hev]
        rfl
    | error e => exact ⟨nofun, fun _ _ => hfail e⟩
  · exact fun _ _ h => h
  · intro raised l' h
    have hl' : Early l' := h.2 raised rfl
    apply Follows.ite
    · intro _
      apply Follows.perform_bind (fun r _ => (early_append (by trivial) r hl').1)
      · exact fun _ _ => ⟨nofun, fun _ _ => (early_append (by trivial) _ hl').2⟩
      · exact fun e => ⟨nofun, fun _ _ => (early_append (by trivial) _ hl').2⟩
    · exact fun _ => ⟨nofun, fun _ _ => hl'⟩

structure Late (l : List Ev) : Prop where
  recorded : ∃ ev ∈ l, records ev = true
  steady : ∀ ev ∈ l, slips ev = false

lemma late_bind {o : Op γ} {f : γ → Handler β} (ho : o.AfterCommit) (hl : Late l)
    (hf : ∀ a, Late (l ++ [⟨i, o, .ok a⟩]) → Follows i Ended (f a) (l ++ [⟨i, o, .ok a⟩])) :
    Follows i Ended (await o >>= f) l := by
  apply Follows.perform_bind
  · intro r _
    refine ⟨hl.steady, fun _ => hl.recorded, ?_⟩
    rintro changes r' ⟨⟩
    exact ho.elim
  · intro a _
    obtain ⟨ev, hev, hr⟩ := hl.recorded
    refine hf a ⟨⟨ev, List.mem_append_left _ hev, hr⟩, ?_⟩
    intro ev' hev'
    rcases List.mem_append.mp hev' with hev' | hev'
    · exact hl.steady ev' hev'
    · rw [List.mem_singleton.mp hev']
      cases o <;> first | exact ho.elim | rfl
  · intro e
    have hslip : ∃ ev ∈ l ++ [⟨i, o, .error e⟩], slips ev = true := by
      refine ⟨_, List.mem_append_right _ (List.mem_singleton_self _), ?_⟩
      cases o <;> first | exact ho.elim | rfl
    exact ⟨fun _ _ => .inl hslip, fun _ => ⟨e, rfl⟩⟩

omit [Runtime] in
lemma ended_ok (a : α) (hl : Late l) : Ended (.ok a : Except Exn α) l where
  raised _ h := by cases h
  slipped h := by
    obtain ⟨ev, hev, hs⟩ := h
    rw [hl.steady ev hev] at hs
    cases hs

omit [Runtime] in
lemma early_nil : Early [] := fun _ h => by cases h

lemma submitAnswer_follows (c : Submission) :
    Follows i Ended (submitAnswer c.roomCode c.playerId c.questionId c.answerIds) [] := by
  apply early_bind (by trivial) early_nil
  rintro (_ | room) hl
  · exact ended_early _ hl
  apply Follows.require_bind
  swap
  · exact fun _ => ended_early _ hl
  intro _
  apply early_bind (by trivial) hl
  intro answered hl
  apply Follows.require_bind
  swap
  · exact fun _ => ended_early _ hl
  intro _
  cases Runtime.uuid c.questionId with
  | none => exact ended_early _ hl
  | some submittedQuestionId =>
    apply Follows.bind (early_follows (getCurrentQuestion_early c.roomCode) hl)
    swap
    · exact fun e l' hl' => ended_early _ hl'
    rintro ⟨refreshed, question⟩ l₁ hl
    cases question with
    | none => exact ended_early _ hl
    | some question =>
      apply Follows.require_bind
      swap
      · exact fun _ => ended_early _ hl
      intro _
      apply early_bind (by trivial) hl
      intro questionStart hl
      apply Follows.bind (early_follows (timeTaken_early question questionStart) hl)
      swap
      · exact fun e l' hl' => ended_early _ hl'
      intro timeTakenMs l₂ hl
      apply early_bind (by trivial) hl
      intro row hl
      apply Follows.bind (commitAnswer_follows _ _ hl)
      swap
      · exact fun e l' hl' => ended_early _ (hl'.2 e rfl)
      intro _ l₃ hl
      have hlate : Late l₃ := ⟨(hl.1 _ rfl).1, (hl.1 _ rfl).2⟩
      apply late_bind (by trivial) hlate
      intro _ hlate
      apply late_bind (by trivial) hlate
      intro _ hlate
      apply late_bind (by trivial) hlate
      exact fun _ hlate => ended_ok _ hlate

section Run

variable {s : State} {call : Submission} {c : submissions.Config}

structure Kept (s : State) (call : Submission) (c : submissions.Config) : Prop where
  traced : c.Traced (fun _ => Ruled) fun _ => Ended
  labelled : c.Labelled
  alone : c.calls = [call]
  counted : (State.db c.world.state).answers.rows.length =
    s.db.answers.rows.length + c.world.history.countP records
  unrecorded : c.world.history.countP records = 0 → State.db c.world.state = s.db

lemma kept_received (s : State) (call : Submission) : Kept s call (received s [call]) where
  traced := by
    refine ⟨fun i p hp => ?_, recorded_nil⟩
    obtain ⟨hc, hrest⟩ := proc_assembled hp
    rw [hrest]
    exact submitAnswer_follows p.call
  labelled := fun ev hev => (by cases hev)
  alone := calls_assembled (M := submissions) s [call]
  counted := rfl
  unrecorded _ := rfl

lemma exec_counted {o : Op β} {u : State}
    (ha : ∀ changes r, (⟨i, o, (exec o u).1⟩ : Ev) = ⟨i, .commit changes, r⟩ →
    ∃ a, changes.newAnswer = some a) :
    (exec o u).2.db.answers.rows.length = u.db.answers.rows.length +
    [(⟨i, o, (exec o u).1⟩ : Ev)].countP records ∧
      ([(⟨i, o, (exec o u).1⟩ : Ev)].countP records = 0 → (exec o u).2.db = u.db) := by
  cases o with
  | commit changes =>
    obtain ⟨a, hnew⟩ := ha changes _ rfl
    cases hc : u.db.commit changes with
    | none =>
      rw [exec_commit_none hc]
      exact ⟨rfl, fun _ => rfl⟩
    | some e =>
      rw [exec_commit_some hc]
      obtain ⟨hnone, -⟩ | ⟨b, hb, -, he⟩ := commit_answers hc
      · rw [hnew] at hnone
        cases hnone
      · refine ⟨?_, fun h => (by simp [records] at h)⟩
        simp [Table.rows_insert he, records]
  | listen roomCode =>
    rw [exec_listen_db]
    exact ⟨rfl, fun _ => rfl⟩
  | _ => exact ⟨rfl, fun _ => rfl⟩

lemma Kept.step (h : Kept s call c) (a : submissions.Act) : Kept s call (Machine.step a c) := by
  have htraced := h.traced.step h.labelled (fun _ call => submitAnswer_follows call) a
  have hlabelled := h.labelled.step a
  have hm := step_moves a c
  generalize Machine.step a c = d at hm htraced hlabelled
  cases hm with
  | idle => exact h
  | spawn call s admitted => cases admitted
  | run i call' o k pending ready =>
    obtain ⟨hruled, -⟩ := h.traced.rest i _ pending (exec o c.world.state).1 fun a ha => ⟨_, ha⟩
    obtain ⟨hcount, hsame⟩ := exec_counted (i := i) fun changes r heq => hruled.answer changes r heq
    refine ⟨htraced, hlabelled, (calls_set pending).trans h.alone, ?_, ?_⟩
    · rw [World.perform_history, List.countP_append, ← Nat.add_assoc, ← h.counted]
      exact hcount
    · intro hzero
      rw [World.perform_history, List.countP_append, Nat.add_eq_zero_iff] at hzero
      exact (hsame hzero.2).trans (h.unrecorded hzero.1)
  | fault i e call' o k pending =>
    have hnone : [(⟨i, o, .error e⟩ : Ev)].countP records = 0 := by
      cases o <;> rfl
    refine ⟨htraced, hlabelled, (calls_set pending).trans h.alone, ?_, ?_⟩
    · rw [World.fail_history, List.countP_append, hnone]
      exact h.counted
    · intro hzero
      rw [World.fail_history, List.countP_append, Nat.add_eq_zero_iff] at hzero
      exact h.unrecorded hzero.1
  | env now => exact ⟨htraced, hlabelled, h.alone, h.counted, h.unrecorded⟩

lemma Kept.run (acts : List submissions.Act) (h : Kept s call c) :
    Kept s call (Machine.run acts c) :=
  (invariant (I := fun c : submissions.Config => Kept s call c) (P := fun _ => True)
    (fun t _ ht => ht.step t.act) h acts fun _ _ => trivial).2

lemma Kept.own (h : Kept s call c) : own 0 c.world.history = c.world.history := by
  rw [Interleaving.own, List.filter_eq_self]
  intro ev hev
  have hlt := h.labelled ev hev
  have hlength : c.procs.length = 1 := by
    rw [← List.length_map (f := Proc.call)]
    exact congrArg List.length h.alone
  have hzero : ev.pid = 0 := by omega
  simpa using hzero

lemma Kept.leaves (h : Kept s call c) (hs : ∀ ev ∈ c.world.history, slips ev = false) :
    LeavesNothing s c := by
  rintro ⟨call', e, hp⟩
  have hended : Ended (.error e) (Interleaving.own 0 c.world.history) := h.traced.rest 0 _ hp
  rw [h.own] at hended
  rcases hended.raised e rfl with ⟨ev, hev, hslip⟩ | hnone
  · rw [hs ev hev] at hslip
    cases hslip
  · have hdb := h.unrecorded (List.countP_eq_zero.mpr fun ev hev => by simp [hnone ev hev])
    exact ⟨congrArg Db.players hdb, congrArg Db.answers hdb⟩

lemma Kept.not_leaves (h : Kept s call c) {ev : Ev} (hev : ev ∈ c.world.history)
    (hs : slips ev = true) :
    ¬LeavesNothing s c := by
  intro hleaves
  obtain ⟨rest, hp⟩ : ∃ rest, c.procs[0]? = some ⟨call, rest⟩ := exists_proc (by rw [h.alone]; rfl)
  have hrest := h.traced.rest 0 _ hp
  rw [h.own] at hrest
  have hraised : ∃ e, rest = .done (.error e) := by
    cases rest with
    | await o k =>
      obtain ⟨hruled, -⟩ := hrest (.error .failure) nofun
      rw [hruled.steady ev hev] at hs
      cases hs
    | done r =>
      obtain ⟨e, rfl⟩ := hrest.slipped ⟨ev, hev, hs⟩
      exact ⟨e, rfl⟩
  obtain ⟨e, rfl⟩ := hraised
  obtain ⟨-, hanswers⟩ := hleaves ⟨call, e, hp⟩
  have hlength := h.counted
  rw [hanswers] at hlength
  obtain ⟨before, hbefore, call', -, hruled⟩ := h.traced.history.of_mem hev
  have hlate : ev.op.AfterCommit := by
    obtain ⟨i, o, r⟩ := ev
    cases o <;> trivial
  obtain ⟨ev', hev', hr⟩ := hruled.late hlate
  have hpos : 0 < c.world.history.countP records :=
    List.countP_pos_iff.mpr ⟨ev', hbefore.subset (mem_own.mp hev').1, hr⟩
  omega

lemma slips_run {o : Op β} (u : State) : slips ⟨i, o, (exec o u).1⟩ = false := by
  cases o <;> rfl

lemma slips_of_fault {t : submissions.Transition} (h : ¬KeepsUp t) :
    ∃ ev ∈ t.after.world.history, slips ev = true := by
  obtain ⟨c, a⟩ := t
  cases a with
  | fault i e =>
    cases hp : c.procs[i]? with
    | none => exact absurd (by simp [KeepsUp, hp]) h
    | some p =>
      obtain ⟨call, rest⟩ := p
      cases rest with
      | done r => exact absurd (by simp [KeepsUp, hp]) h
      | await o k =>
        have ho : o.AfterCommit := by simpa [KeepsUp, hp] using h
        refine ⟨⟨i, o, .error e⟩, ?_, ?_⟩
        · simp [Transition.after, Machine.step, hp]
        · cases o <;> first | exact ho.elim | rfl
  | spawn | run | env => exact absurd trivial h

lemma steady_step {t : submissions.Transition} (hk : KeepsUp t)
    (h : ∀ ev ∈ t.before.world.history, slips ev = false) :
    ∀ ev ∈ t.after.world.history, slips ev = false := by
  obtain ⟨c, a⟩ := t
  change ∀ ev ∈ (Machine.step a c).world.history, slips ev = false
  have hm := step_moves a c
  generalize Machine.step a c = d at hm
  cases hm with
  | idle | spawn | env => exact h
  | run i call o k pending ready =>
    intro ev hev
    rcases List.mem_append.mp hev with hev | hev
    · exact h ev hev
    · rw [List.mem_singleton.mp hev]
      exact slips_run c.world.state
  | fault i e call o k pending =>
    have ho : ¬o.AfterCommit := by simpa [KeepsUp, pending] using hk
    intro ev hev
    rcases List.mem_append.mp hev with hev | hev
    · exact h ev hev
    · rw [List.mem_singleton.mp hev]
      cases o <;> first | exact absurd trivial ho | rfl

end Run

end Refusals

/-- A submission that raises leaves all scores and records as they were, if and only if no call has
raised once the commit has succeeded. -/
theorem failed_submission_leaves_nothing_iff (s : State) (call : Submission)
    (acts : List submissions.Act) :
    LeavesNothing s (run acts (received s [call])) ↔ ∀ t ∈ transitions (received s [call]) acts,
    KeepsUp t := by
  constructor
  · intro h t ht
    by_contra hfault
    obtain ⟨ev, hev, hslip⟩ := Refusals.slips_of_fault hfault
    exact ((Refusals.kept_received s call).run acts).not_leaves
      ((history_prefix_of_mem ht).subset hev) hslip h
  · intro h
    have hsteady := (invariant (I := fun c : submissions.Config =>
      ∀ ev ∈ c.world.history, Refusals.slips ev = false) (fun _ hk hi => Refusals.steady_step hk hi)
      (fun ev hev => (by cases hev)) acts h).2
    exact ((Refusals.kept_received s call).run acts).leaves hsteady

end

section Sample

attribute [local instance] Runtime.ascii

/-- The first player of the sample room answers the running question, and the EXPIRE raises. -/
def unexpired : List submissions.Act := runs 0 10 ++ [.fault 0 .failure]

theorem failed_submission_recorded :
    ¬LeavesNothing Sample.asking
      (run unexpired (received Sample.asking [⟨"ABCDEF", "p1", "q1", ["q1a"]⟩])) := by
  intro h
  have hraised : ∃ call e, (run unexpired (received Sample.asking
      [⟨"ABCDEF", "p1", "q1", ["q1a"]⟩])).procs[0]? = some ⟨call, .done (.error e)⟩ :=
    ⟨_, .failure, rfl⟩
  have hlength := congrArg (fun t => t.rows.length) (h hraised).2
  exact absurd hlength (by decide +kernel)

end Sample

end Askit.Game

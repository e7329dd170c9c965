import Askit.Game.SubmissionRuns

/-! Submissions of different players, handled in any order of their awaits, end as each of them
would alone. -/

namespace Askit.Game

open Interleaving Machine Coro Tables

section

variable [Runtime]

namespace Submissions

variable {p : UUID} {s t u : State}

variable {subs : List Submission} {acts : List submissions.Act}

lemma kept_received (s : State) (subs : List Submission) :
    (discipline s (subs.map Submission.playerId)).Kept (received s subs) := by
  refine ⟨fun p _ => Own.refl s, ?_⟩
  intro i ⟨call, rest⟩ hp
  obtain ⟨hc, rfl⟩ : subs[i]? = some call ∧ rest = submissions.code call := proc_assembled hp
  exact submitAnswer_ensures ⟨Own.refl s, rfl⟩
    (List.mem_map.mpr ⟨call, List.mem_of_getElem? hc, rfl⟩)

omit [Runtime] in
lemma eq_of_playerId (hd : (subs.map Submission.playerId).Nodup) {i j : ℕ} {c d : Submission}
    (hi : subs[i]? = some c) (hj : subs[j]? = some d) (h : c.playerId = d.playerId) : i = j := by
  have hlt : i < (subs.map Submission.playerId).length := by
    rw [List.length_map]
    exact (List.getElem?_eq_some_iff.mp hi).1
  apply (List.getElem?_inj hlt hd).mp
  rw [List.getElem?_map, List.getElem?_map, hi, hj]
  exact congrArg some h

omit [Runtime] in
lemma own_clock (p : UUID) (t : State) (now : Time) : Own p t { t with now := now } :=
  ⟨rfl, rfl, rfl, rfl, rfl, fun _ => rfl, fun _ _ => Iff.rfl⟩

lemma permits (s : State) (hd : (subs.map Submission.playerId).Nodup) {t : submissions.Transition}
    (hc : t.before.calls = subs) (hf : Unfailing t.act) :
    (discipline s (subs.map Submission.playerId)).Permits t where
  spawn call u _ h := by cases h
  env now _ hi := ⟨fun p hp => (hi p hp).trans (own_clock p _ now), fun _ _ _ _ =>
    ⟨own_clock _ _ now, rfl⟩⟩
  allowed _ _ _ _ _ _ _ := trivial
  faults := by
    intro i e call β o k hact _
    rw [hact] at hf
    exact hf.elim
  compatible i p w hp _ _ hg j q hij hq := by
    have hcp := getElem?_calls hp
    have hcq := getElem?_calls hq
    rw [hc] at hcp hcq
    have hji : j ≠ i := fun h => hij (congrArg some h)
    exact ⟨hg.1 _ fun h => hji (eq_of_playerId hd hcq hcp h), hg.2 j hji⟩

lemma calls_received (s : State) (subs : List Submission) : (received s subs).calls = subs :=
  calls_assembled (M := submissions) s subs

lemma calls_step_eq (a : submissions.Act) (c : submissions.Config) :
    (Machine.step a c).calls = c.calls := by
  have hm := step_moves a c
  generalize Machine.step a c = d at hm
  cases hm with
  | idle | env => rfl
  | spawn call u h => cases h
  | run i call o k pending ready => exact calls_set pending
  | fault i e call o k pending => exact calls_set pending

/-- The player has the same row, the same records and the same memberships. -/
structure Alike (p : UUID) (t u : State) : Prop where
  player : t.db.players.get? p = u.db.players.get? p
  answers : ∀ questionId, t.db.answers.get? (p, questionId) = u.db.answers.get? (p, questionId)
  answered : ∀ room index, p ∈ t.redis.answered room index ↔ p ∈ u.redis.answered room index

omit [Runtime] in
lemma Own.alike (h : Own p s t) (h' : Own p s u) : Alike p t u :=
  ⟨h.player.trans h'.player.symm, fun q => (h.answers q).trans (h'.answers q).symm,
    fun room index => (h.answered room index).trans (h'.answered room index).symm⟩

lemma ended_alike {c : Submission} {readings : List Time} {r r' : Except Exn WSAnswerResult}
    (h : Ended s c readings r t) (h' : Ended s c readings r' u) :
    r = r' ∧ Alike c.playerId t u := by
  cases hj : judge s c readings with
  | error e =>
    simp only [Ended, hj] at h h'
    exact ⟨h.1.trans h'.1.symm, h.2.alike h'.2⟩
  | ok v =>
    obtain ⟨a, question⟩ := v
    have ha : a.playerId = c.playerId := congrArg GamePlayerAnswer.playerId (record_of_judge hj)
    simp only [Ended, hj] at h h'
    obtain ⟨hr, ht⟩ := h
    obtain ⟨hr', hu⟩ := h'
    rw [← ha]
    exact ⟨hr.trans hr'.symm, ht.player.trans hu.player.symm,
      fun q => (ht.answers q).trans (hu.answers q).symm,
      fun room index => (ht.answered room index).trans (hu.answered room index).symm⟩

/-- The submissions come from different players, and all of them have returned. -/
structure Finished (s : State) (subs : List Submission) (c : submissions.Config) : Prop where
  calls : c.calls = subs
  kept : (discipline s (subs.map Submission.playerId)).Kept c
  ended : ∀ p ∈ c.procs, ∃ r, p.rest = .done r

lemma finished (s : State) (hd : (subs.map Submission.playerId).Nodup)
    (hf : ∀ a ∈ acts, Unfailing a)
    (hend : ∀ p ∈ (run acts (received s subs)).procs, ∃ r, p.rest = .done r) :
    Finished s subs (run acts (received s subs)) := by
  have hk := (invariant
    (I := fun c : submissions.Config => c.calls = subs ∧
      (discipline s (subs.map Submission.playerId)).Kept c)
    (P := fun t => Unfailing t.act)
    (fun t ht hk => ⟨(calls_step_eq t.act t.before).trans hk.1, hk.2.step (permits s hd hk.1 ht)⟩)
    ⟨calls_received s subs, kept_received s subs⟩ acts fun t h => hf _ (act_mem h)).2
  exact ⟨hk.1, hk.2, hend⟩

variable {c d : submissions.Config}

lemma Finished.proc (h : Finished s subs c) {i : ℕ} {call : Submission}
    (hi : subs[i]? = some call) :
    ∃ r, c.procs[i]? = some ⟨call, .done r⟩ ∧
      Ended s call (clockReadings i c.world.history) r c.world.state := by
  obtain ⟨rest, hp⟩ := exists_proc (M := submissions) (c := c) (i := i) (h.calls ▸ hi)
  obtain ⟨r, rfl⟩ := h.ended _ (List.mem_of_getElem? hp)
  exact ⟨r, hp, h.kept.ensures i _ hp⟩

lemma Finished.alike (hc : Finished s subs c) (hd : Finished s subs d)
    (hclock : ∀ i < subs.length, clockReadings i c.world.history = clockReadings i d.world.history)
    {i : ℕ} {call : Submission} (hi : subs[i]? = some call) :
    c.procs[i]? = d.procs[i]? ∧ Alike call.playerId c.world.state d.world.state := by
  obtain ⟨r, hr, he⟩ := hc.proc hi
  obtain ⟨r', hr', he'⟩ := hd.proc hi
  rw [← hclock i (List.getElem?_eq_some_iff.mp hi).1] at he'
  obtain ⟨rfl, ha⟩ := ended_alike he he'
  exact ⟨hr.trans hr'.symm, ha⟩

lemma Finished.alike_all (hc : Finished s subs c) (hd : Finished s subs d)
    (hclock : ∀ i < subs.length, clockReadings i c.world.history = clockReadings i d.world.history)
    (p : UUID) : Alike p c.world.state d.world.state := by
  by_cases hp : p ∈ subs.map Submission.playerId
  · obtain ⟨call, hm, rfl⟩ := List.mem_map.mp hp
    obtain ⟨i, hi⟩ := List.getElem?_of_mem hm
    exact (hc.alike hd hclock hi).2
  · exact (hc.kept.inv p hp).alike (hd.kept.inv p hp)

lemma Finished.same (hc : Finished s subs c) (hd : Finished s subs d)
    (hclock : ∀ i < subs.length, clockReadings i c.world.history = clockReadings i
      d.world.history) :
    SameOutcome c d := by
  have hall := hc.alike_all hd hclock
  refine ⟨?_, fun id => (hall id).player, fun key => (hall key.1).answers key.2,
    fun room index id => (hall id).answered room index⟩
  apply List.ext_getElem?
  intro i
  cases hi : subs[i]? with
  | some call => exact (hc.alike hd hclock hi).1
  | none =>
    have hlen {e : submissions.Config} (h : Finished s subs e) : e.procs[i]? = none := by
      have hl : e.procs.length = subs.length :=
        (List.length_map (f := Proc.call)).symm.trans (congrArg List.length h.calls)
      rw [List.getElem?_eq_none_iff] at hi ⊢
      omega
    rw [hlen hc, hlen hd]

end Submissions

open Submissions in
/-- Given what each submission reads from the clock, any two schedules of the submissions end alike,
among them those that handle one submission after another, in any order. -/
theorem submissions_commute (s : State) (subs : List Submission)
    (hd : (subs.map Submission.playerId).Nodup) (acts acts' : List submissions.Act)
    (hf : ∀ a ∈ acts, Unfailing a) (hf' : ∀ a ∈ acts', Unfailing a)
    (hend : ∀ p ∈ (run acts (received s subs)).procs, ∃ r, p.rest = .done r)
    (hend' : ∀ p ∈ (run acts' (received s subs)).procs, ∃ r, p.rest = .done r)
    (hclock : ∀ i < subs.length, clockReadings i (run acts (received s subs)).world.history =
      clockReadings i (run acts' (received s subs)).world.history) :
    SameOutcome (run acts (received s subs)) (run acts' (received s subs)) :=
  (finished s hd hf hend).same (finished s hd hf' hend') hclock

end

section Sample

attribute [local instance] Runtime.ascii

/-- The first question of the sample room is running. -/
def Sample.asking : State :=
  { Sample.state with
    db := { Sample.state.db with
      sessions := ⟨[{ Sample.session with status := .question, currentQuestionIndex := 1 }], by
        decide⟩
      quizId_fk := by decide }
    redis.questions := fun _ => some ["q1", "q2"]
    redis.questionStart := fun _ => some 0
    now := 4000000 }

def bothAnswers : List Submission :=
    [⟨"ABCDEF", "p1", "q1", ["q1a"]⟩, ⟨"ABCDEF", "p2", "q1", ["q1b"]⟩]

def turns (i j : ℕ) : ℕ → List submissions.Act
  | 0 => []
  | n + 1 => .run i :: .run j :: turns i j n

theorem submissions_commute_interleaved :
    SameOutcome (run (turns 0 1 12) (received Sample.asking bothAnswers))
      (run (runs 1 12 ++ runs 0 12) (received Sample.asking bothAnswers)) :=
  submissions_commute Sample.asking bothAnswers (by decide) _ _ (by decide +kernel)
    (by decide +kernel)
    (by decide +kernel) (by decide +kernel) (by decide +kernel)

end Sample

end Askit.Game

import Askit.Game.FastPath
import Askit.Game.Openings
import Askit.Game.Scoring

/-! Which of two correct answers to a question earns more, and from which moment an answer is timed.
The start-time key is one for the room, and is written after the commit that opens a question. -/

namespace Askit.Game

open Interleaving Machine Coro Tables

section

variable [Runtime]

namespace Fairness

open Rebuilt (Ev openings ordersStored timesRead clockedOpenings OpSteady)

def Submits (roomCode : String) : Call → Prop
  | .playerFrame room _ _ => Runtime.upper room = Runtime.upper roomCode
  | _ => False

instance (roomCode : String) : DecidablePred (Submits roomCode)
  | .playerFrame room _ _ => inferInstanceAs
    (Decidable (Runtime.upper room = Runtime.upper roomCode))
  | .joinRoom .. | .hostFrames .. | .questionTimeout _ | .playerEndpoint .. | .hostEndpoint ..
  | .subscriber _ | .delivery _ => isFalse id

def answerCommitted : Ev → Option GamePlayerAnswer
  | ⟨_, .commit changes, .ok _⟩ => changes.newAnswer
  | _ => none

/-- The accepted answers, with the processes that have handled them. -/
def accepted (roomCode : String) (c : system.Config) : List (ℕ × GamePlayerAnswer) :=
  c.world.history.filterMap fun ev => (c.calls[ev.pid]?.filter (Submits roomCode ·)).bind fun _ =>
    (answerCommitted ev).map fun a => (ev.pid, a)

def readers (history : List Ev) : List ℕ := (timesRead history).map Prod.fst

def openedAt (roomCode : String) (history : List Ev) (questionId : UUID) : Option Time :=
  (ordersStored roomCode history).head?.bind fun ids =>
    (openings roomCode history).lookup (ids.idxOf questionId + 1)

end Fairness

open Fairness in
/-- A step of a submission to the room finds the order that was stored first, and the start that was
stored first for the question that it is at. -/
def FindsOpening (roomCode : String) (s₀ : State) : system.Transition → Prop
  | ⟨c, .run i⟩ =>
    match c.procs[i]? with
    | some ⟨call, .await o _⟩ => Submits roomCode call → Rebuilt.OpSteady s₀ c.world.state
        c.world.history i o
    | _ => True
  | _ => True

open Fairness in
instance (roomCode : String) (s₀ : State) : DecidablePred (FindsOpening roomCode s₀)
  | ⟨c, .run i⟩ =>
    match h : c.procs[i]? with
    | some ⟨call, .await o _⟩ =>
      have : Decidable (Submits roomCode call) :=
        (inferInstance : DecidablePred (Submits roomCode)) call
      have : Decidable (Rebuilt.OpSteady s₀ c.world.state c.world.history i o) :=
        (inferInstance : ∀ s : State, Decidable (Rebuilt.OpSteady s₀ s c.world.history i o))
          c.world.state
      decidable_of_iff (Submits roomCode call → Rebuilt.OpSteady s₀ c.world.state
        c.world.history i o)
        (by simp [FindsOpening, h])
    | some ⟨_, .done _⟩ | none => isTrue (by simp [FindsOpening, h])
  | ⟨_, .spawn _⟩ | ⟨_, .fault _ _⟩ | ⟨_, .env _⟩ => isTrue trivial

/-- The clock does not step back. -/
def ClockForward (t : system.Transition) : Prop :=
  State.now t.before.world.state ≤ State.now t.after.world.state

instance : DecidablePred ClockForward := fun t =>
  inferInstanceAs (Decidable (State.now t.before.world.state ≤ State.now t.after.world.state))

open Fairness Rebuilt in
/-- Every accepted answer is timed from the opening of its question, which the handler that opened
it has read from the clock, and of two correct ones to the same question the one that has read the
clock earlier earns at least as many points. -/
structure FairlyTimed (roomCode : String) (c : system.Config) : Prop where
  fair : ∀ x ∈ accepted roomCode c, ∀ y ∈ accepted roomCode c, x.2.questionId = y.2.questionId →
    x.2.isCorrect = true → y.2.isCorrect = true →
    (readers c.world.history).idxOf x.1 < (readers c.world.history).idxOf y.1 →
      y.2.pointsEarned ≤ x.2.pointsEarned
  timed : ∀ x ∈ accepted roomCode c, ∃ start ∈ openedAt roomCode c.world.history x.2.questionId,
    ∃ now ∈ (timesRead c.world.history).lookup x.1, x.2.timeTakenMs = (now - start).tdiv 1000
  clocked : openings roomCode c.world.history = clockedOpenings roomCode c.world.history

open Fairness Rebuilt in
instance (roomCode : String) (c : system.Config) : Decidable (FairlyTimed roomCode c) :=
  decidable_of_iff ((∀ x ∈ accepted roomCode c, ∀ y ∈ accepted roomCode c,
    x.2.questionId = y.2.questionId →
      x.2.isCorrect = true → y.2.isCorrect = true →
      (readers c.world.history).idxOf x.1 < (readers c.world.history).idxOf y.1 →
        y.2.pointsEarned ≤ x.2.pointsEarned) ∧
    (∀ x ∈ accepted roomCode c, ∃ start ∈ openedAt roomCode c.world.history x.2.questionId,
      ∃ now ∈ (timesRead c.world.history).lookup x.1, x.2.timeTakenMs = (now - start).tdiv 1000) ∧
    openings roomCode c.world.history = clockedOpenings roomCode c.world.history)
    ⟨fun h => ⟨h.1, h.2.1, h.2.2⟩, fun h => ⟨h.fair, h.timed, h.clocked⟩⟩

namespace Fairness

open Rebuilt (Ev openings ordersStored timeRead timesRead Clocked Dealt)
open HostTurns (orderRead)

variable {roomCode room : String} {playerId : UUID} {i : ℕ} {call : Call} {l : List Ev} {α β : Type}

def Timed (i : ℕ) (timeLimit : ℤ) (start : Option Time) (clock : List Ev) (timeTakenMs : ℤ) :
    Prop :=
  start.elim (clock = [] ∧ timeTakenMs = timeLimit) fun s =>
    ∃ now, clock = [⟨i, .now, .ok now⟩] ∧ timeTakenMs = (now - s).tdiv 1000

/-- All that a submission has done when it commits the answer. -/
def Submission (i : ℕ) (room : String) (playerId : UUID) (l : List Ev) (a : GamePlayerAnswer) :
    Prop :=
  ∃ first second ids question start clock row,
    l = [⟨i, .getRoom room, .ok (some first)⟩,
        ⟨i, .sismemberAnswered room first.session.currentQuestionIndex playerId, .ok false⟩,
        ⟨i, .getRoom room, .ok (some second)⟩, ⟨i, .getQuestions room, .ok (some ids)⟩,
        ⟨i, .getQuestion a.questionId, .ok (some question)⟩,
        ⟨i, .getQuestionStart room, .ok start⟩] ++
      (clock ++ [⟨i, .getPlayer playerId, .ok row⟩]) ∧
    second.session.currentQuestionIndex ≠ 0 ∧
    ids[second.session.currentQuestionIndex - 1]? = some a.questionId ∧
    Timed i question.timeLimit start clock a.timeTakenMs ∧
    a.pointsEarned = calculateScore a.timeTakenMs question.timeLimit a.isCorrect

def Ruled (call : Call) (l : List Ev) : Ev → Prop
  | ⟨i, .commit changes, _⟩ => ∀ room playerId data, call = .playerFrame room playerId data →
      ∀ a ∈ changes.newAnswer, Submission i room playerId l a
  | _ => True

abbrev Follows (i : ℕ) (call : Call) (Q : Except Exn α → List Ev → Prop) (x : Handler α)
    (l : List Ev) : Prop :=
  x.Follows system.Answers i (Ruled call) Q l

omit [Runtime] in
lemma ruled_silent {o : Op β} (ho : o.Within .silent) (r : Except Exn β) :
    Ruled call l ⟨i, o, r⟩ := by
  cases o with
  | commit => exact ho.elim
  | _ => trivial

lemma silent_ends {x : Handler α} (hx : Keeps .silent x) : Follows i call (fun _ _ => True) x l :=
  .of_all hx (fun _ r _ ho _ _ => ⟨ruled_silent ho r, trivial⟩) trivial

lemma silent_bind {o : Op α} {f : α → Handler β} {Q : Except Exn β → List Ev → Prop}
    (ho : o.Within .silent)
    (hf : ∀ a, system.Answers o a → Follows i call Q (f a) (l ++ [⟨i, o, .ok a⟩]))
    (he : ∀ e, Q (.error e) (l ++ [⟨i, o, .error e⟩])) : Follows i call Q (await o >>= f) l :=
  .perform_bind (fun r _ => ruled_silent ho r) hf he

lemma getCurrentQuestion_follows : Follows i call
    (fun r l' => ∀ refreshed question, r = .ok (refreshed, some question) → ∃ second ids,
        l' = l ++ [⟨i, .getRoom room, .ok (some second)⟩, ⟨i, .getQuestions room, .ok (some ids)⟩,
          ⟨i, .getQuestion question.questionId, .ok (some question)⟩] ∧
        second.session.currentQuestionIndex ≠ 0 ∧
        ids[second.session.currentQuestionIndex - 1]? = some question.questionId)
    (getCurrentQuestion room) l := by
  apply silent_bind (by trivial)
  swap
  · exact fun _ _ _ h => (by cases h)
  rintro (_ | second) -
  · exact fun _ _ h => (by cases h)
  apply Follows.ite
  · exact fun _ _ _ h => (by cases h)
  intro hindex
  apply silent_bind (by trivial)
  swap
  · exact fun _ _ _ h => (by cases h)
  rintro (_ | ids) -
  · exact fun _ _ h => (by cases h)
  dsimp only
  cases hid : ids[second.session.currentQuestionIndex - 1]? with
  | none => exact fun _ _ h => (by cases h)
  | some id =>
    apply silent_bind (by trivial)
    swap
    · exact fun _ _ _ h => (by cases h)
    rintro question hanswer refreshed q ⟨⟩
    obtain rfl := FastPath.question_of_answers hanswer
    exact ⟨second, ids, by simp, hindex, hid⟩

lemma timeTaken_follows (question : QuizQuestion) (start : Option Time) :
    Follows i call
      (fun r l' => ∀ t, r = .ok t → ∃ clock, l' = l ++ clock ∧ Timed i question.timeLimit
        start clock t)
      (timeTaken question start) l := by
  cases start with
  | none =>
    rintro t ⟨⟩
    exact ⟨[], (List.append_nil l).symm, rfl, rfl⟩
  | some s =>
    apply silent_bind (by trivial)
    · rintro now - t ⟨⟩
      exact ⟨_, rfl, now, rfl, rfl⟩
    · exact fun _ _ h => (by cases h)

lemma commitAnswer_follows {data : ClientMessage} (player : Option GamePlayer)
    {record : GamePlayerAnswer} (h : Submission i room playerId l record) :
    Follows i (.playerFrame room playerId data)
      (fun _ _ => True)
      (commitAnswer player record) l := by
  apply Follows.tryCatch (S := fun _ _ => True)
  · apply Follows.perform
    intro r _
    refine ⟨?_, trivial⟩
    rintro room' p d ⟨⟩ a ⟨⟩
    exact h
  · exact fun _ _ _ => trivial
  · intro e l' _
    exact silent_ends (All.ite (fun _ => All.perform_bind trivial fun _ _ => trivial)
      fun _ => trivial)

lemma submitAnswer_follows (data : ClientMessage) (questionId : String) (answerIds : List String) :
    Follows i (.playerFrame room playerId data) (fun _ _ => True)
      (submitAnswer room playerId questionId answerIds) [] := by
  apply silent_bind (by trivial)
  swap
  · exact fun _ => trivial
  rintro (_ | first) -
  · trivial
  apply Follows.require_bind
  swap
  · exact fun _ => trivial
  intro _
  apply silent_bind (by trivial)
  swap
  · exact fun _ => trivial
  intro answered _
  apply Follows.require_bind
  swap
  · exact fun _ => trivial
  rintro rfl
  cases Runtime.uuid questionId with
  | none => trivial
  | some submittedQuestionId =>
    apply Follows.bind getCurrentQuestion_follows
    swap
    · exact fun _ _ _ => trivial
    rintro ⟨refreshed, question⟩ l₁ h₁
    cases question with
    | none => trivial
    | some question =>
      obtain ⟨second, ids, rfl, hindex, hid⟩ := h₁ refreshed question rfl
      apply Follows.require_bind
      swap
      · exact fun _ => trivial
      rintro rfl
      apply silent_bind (by trivial)
      swap
      · exact fun _ => trivial
      intro start _
      apply Follows.bind (timeTaken_follows question start)
      swap
      · exact fun _ _ _ => trivial
      intro timeTakenMs l₂ h₂
      obtain ⟨clock, rfl, htimed⟩ := h₂ timeTakenMs rfl
      apply silent_bind (by trivial)
      swap
      · exact fun _ => trivial
      intro row _
      apply Follows.bind (commitAnswer_follows _ ?_)
      · intro _ l₃ _
        exact silent_ends (All.perform_bind trivial fun _ _ => All.perform_bind trivial fun _ _ =>
          All.perform_bind trivial fun _ _ => trivial)
      · exact fun _ _ _ => trivial
      · exact ⟨first, second, ids, question, start, clock, row, by simp, hindex, hid, htimed, rfl⟩

lemma handlePlayerMessage_follows (data : ClientMessage) :
    Follows i (.playerFrame room playerId data) (fun _ _ => True)
      (handlePlayerMessage room playerId data) [] := by
  apply Follows.tryCatch (S := fun _ _ => True)
  · cases data with
    | answer questionId answerIds =>
      apply Follows.tryCatch (S := fun _ _ => True)
      · apply Follows.bind (submitAnswer_follows _ questionId answerIds)
        · exact fun result _ _ => silent_ends (answerAccepted_keeps room playerId answerIds result)
        · exact fun _ _ _ => trivial
      · exact fun _ _ _ => trivial
      · exact fun e _ _ => silent_ends (answerRejected_keeps playerId e)
    | startGame | nextQuestion | malformed => trivial
  · exact fun _ _ _ => trivial
  · exact fun _ _ _ => silent_ends (sendToPlayer_keeps _ _)

lemma code_follows (i : ℕ) (call : Call) : Follows i call (fun _ _ => True) (code call) [] := by
  have hother : (∀ room playerId data, call ≠ .playerFrame room playerId data) →
      Follows i call (fun _ _ => True) (code call) [] := by
    intro hne
    apply Follows.of_all (all_true _) (A := fun _ => True) _ trivial
    intro β o r l _ _ _
    refine ⟨?_, trivial⟩
    cases o with
    | commit => exact fun room playerId data h => (hne room playerId data h).elim
    | _ => trivial
  cases call with
  | playerFrame room playerId data => exact handlePlayerMessage_follows data
  | _ => exact hother fun _ _ _ h => (by cases h)


section Run

variable {s₀ : State} {c : system.Config} {history : List Ev}

omit [Runtime] in
lemma pid_of_timeRead {ev : Ev} {p : ℕ × Time} (h : timeRead ev = some p) : p.1 = ev.pid := by
  obtain ⟨j, o, r⟩ := ev
  cases o with
  | now => cases r <;> cases h; rfl
  | _ => cases h

omit [Runtime] in
lemma lookup_timesRead (history : List Ev) (i : ℕ) :
    (timesRead history).lookup i = ((own i history).filterMap timeRead).head?.map Prod.snd := by
  induction history with
  | nil => rfl
  | cons ev history ih =>
    rw [timesRead] at ih
    rw [timesRead, List.filterMap_cons]
    cases hev : timeRead ev with
    | none =>
      by_cases hi : ev.pid = i
      · simpa [own, hi, hev] using ih
      · simpa [own, hi] using ih
    | some p =>
      obtain ⟨j, t⟩ := p
      obtain rfl : j = ev.pid := pid_of_timeRead hev
      by_cases hi : ev.pid = i
      · simp [own, hi, hev]
      · simpa [own, hi, List.lookup_cons, beq_eq_false_iff_ne.mpr (Ne.symm hi)] using ih

lemma timeRead_perform {o : Op β} {s : State} {p : ℕ × Time}
    (h : timeRead ⟨i, o, (exec o s).1⟩ = some p) : p.2 = s.now := by
  cases o with
  | now =>
    cases h
    rfl
  | _ => cases h

structure Kept (s₀ : State) (roomCode : String) (c : system.Config) : Prop where
  traced : c.Traced Ruled fun _ _ _ => True
  clocked : c.Traced (fun _ => Clocked) fun _ _ _ => True
  labelled : c.Labelled
  confined : c.Confined fun _ => Dealt
  checked : c.Noted fun call before ev => Submits roomCode call →
    Rebuilt.Checked s₀ roomCode before ev
  ordered : ((timesRead c.world.history).map Prod.snd).Pairwise (· ≤ ·)
  past : ∀ t ∈ (timesRead c.world.history).map Prod.snd, t ≤ State.now c.world.state

lemma kept_start (s₀ : State) (roomCode : String) : Kept s₀ roomCode (start s₀) where
  traced := ⟨fun _ _ h => (by cases h), recorded_nil⟩
  clocked := ⟨fun _ _ h => (by cases h), recorded_nil⟩
  labelled := labelled_start s₀
  confined := @confined_start _ _ _ system (fun _ => Dealt) s₀
  checked := noted_start s₀
  ordered := List.Pairwise.nil
  past t ht := by cases ht

omit [Runtime] in
lemma ordered_append {now later : Time} {ev : Ev}
    (hordered : ((timesRead history).map Prod.snd).Pairwise (· ≤ ·))
    (hpast : ∀ t ∈ (timesRead history).map Prod.snd, t ≤ now) (hnow : now ≤ later)
    (hev : ∀ p, timeRead ev = some p → p.2 = now) :
    ((timesRead (history ++ [ev])).map Prod.snd).Pairwise (· ≤ ·) ∧
      ∀ t ∈ (timesRead (history ++ [ev])).map Prod.snd, t ≤ later := by
  have hlater : ∀ t ∈ (timesRead history).map Prod.snd, t ≤ later :=
    fun t ht => (hpast t ht).trans hnow
  rw [timesRead, List.filterMap_append, List.map_append]
  cases hread : timeRead ev with
  | none =>
    rw [List.filterMap_cons_none hread, List.filterMap_nil, List.map_nil, List.append_nil]
    exact ⟨hordered, hlater⟩
  | some p =>
    rw [List.filterMap_cons_some hread, List.filterMap_nil, List.map_singleton, hev p hread]
    constructor
    · exact List.pairwise_append.mpr ⟨hordered, List.pairwise_singleton _ _, fun t ht u hu =>
        List.mem_singleton.mp hu ▸ hpast t ht⟩
    · intro t ht
      rcases List.mem_append.mp ht with ht | ht
      · exact hlater t ht
      · exact List.mem_singleton.mp ht ▸ hnow

lemma Kept.step {t : system.Transition} (h : Kept s₀ roomCode t.before)
    (hf : FindsOpening roomCode s₀ t) (hc : ClockForward t) : Kept s₀ roomCode t.after := by
  obtain ⟨c, a⟩ := t
  change Kept s₀ roomCode (Machine.step a c)
  replace h : Kept s₀ roomCode c := h
  replace hc : State.now c.world.state ≤ State.now (Machine.step a c).world.state := hc
  have hclock : ((timesRead (Machine.step a c).world.history).map Prod.snd).Pairwise (· ≤ ·) ∧
      ∀ t ∈ (timesRead (Machine.step a c).world.history).map Prod.snd,
        t ≤ State.now (Machine.step a c).world.state := by
    have hm := step_moves a c
    generalize Machine.step a c = d at hm hc
    cases hm with
    | idle | spawn | env => exact ⟨h.ordered, fun t ht => (h.past t ht).trans hc⟩
    | run i call o k pending ready =>
      exact ordered_append h.ordered h.past hc fun p => timeRead_perform
    | fault i e call o k pending =>
      refine ordered_append h.ordered h.past hc fun p hp => ?_
      cases o <;> cases hp
  refine ⟨h.traced.step h.labelled code_follows a, h.clocked.step h.labelled Rebuilt.code_clocked a,
    h.labelled.step a, h.confined.step Rebuilt.code_dealt a,
    h.checked.step a ?_ ?_, hclock.1, hclock.2⟩
  · rintro i call β o k rfl pending hsubmits
    have hsteady : Submits roomCode call → Rebuilt.OpSteady s₀ c.world.state
        c.world.history i o := by
      simpa only [FindsOpening, pending] using hf
    exact Rebuilt.checked_perform (hsteady hsubmits)
  · exact fun i e call β o _ _ => Rebuilt.checked_fail s₀ _ o e

lemma mem_accepted {x : ℕ × GamePlayerAnswer} : x ∈ accepted roomCode c ↔
    ∃ ev ∈ c.world.history, (∃ call, c.calls[ev.pid]? = some call ∧ Submits roomCode call) ∧
      answerCommitted ev = some x.2 ∧ x.1 = ev.pid := by
  obtain ⟨i, a⟩ := x
  simp only [accepted, List.mem_filterMap, Option.bind_eq_some_iff, Option.filter_eq_some_iff,
    decide_eq_true_eq, Option.map_eq_some_iff, Prod.mk.injEq]
  constructor
  · rintro ⟨ev, hev, call, hcall, b, hb, rfl, rfl⟩
    exact ⟨ev, hev, ⟨call, hcall⟩, hb, rfl⟩
  · rintro ⟨ev, hev, ⟨call, hcall⟩, ha, rfl⟩
    exact ⟨ev, hev, call, hcall, a, ha, rfl, rfl⟩

lemma Kept.checked_own (h : Kept s₀ roomCode c) {before after : List Ev}
    (hh : c.world.history = before ++ after) (hcall : c.calls[i]? = some call)
    (hsubmits : Submits roomCode call) {l r : List Ev} {ev : Ev}
    (hown : own i before = l ++ ev :: r) :
    ∃ b, b <+: c.world.history ∧ own i b = l ∧ Rebuilt.Checked s₀ roomCode b ev := by
  obtain ⟨b, rest, rfl, hb, rfl⟩ := exists_of_own hown
  obtain ⟨call', hcall', hchecked⟩ := h.checked b ev (rest ++ after) (by rw [hh]; simp)
  cases hcall.symm.trans hcall'
  exact ⟨b, hh ▸ (List.prefix_append _ _).trans (List.prefix_append _ _), hb, hchecked hsubmits⟩

lemma Kept.answered (h : Kept s₀ roomCode c) {x : ℕ × GamePlayerAnswer}
    (hx : x ∈ accepted roomCode c) :
    ∃ question start now, s₀.db.question? x.2.questionId = some question ∧
      openedAt roomCode c.world.history x.2.questionId = some start ∧
      (timesRead c.world.history).lookup x.1 = some now ∧
      x.2.timeTakenMs = (now - start).tdiv 1000 ∧
      x.2.pointsEarned = calculateScore x.2.timeTakenMs question.timeLimit x.2.isCorrect := by
  obtain ⟨ev, hev, ⟨call, hcall, hsubmits⟩, hcommitted, hpid⟩ := mem_accepted.mp hx
  obtain ⟨i, a⟩ := x
  dsimp only at hpid hcommitted ⊢
  subst hpid
  obtain ⟨before, after, hh⟩ := List.append_of_mem hev
  obtain ⟨call', hcall', hruled⟩ := h.traced.history before ev after hh
  cases hcall.symm.trans hcall'
  obtain ⟨room, playerId, data, rfl, hu⟩ : ∃ room playerId data, call =
    .playerFrame room playerId data ∧
      Runtime.upper room = Runtime.upper roomCode := by
    cases call with
    | playerFrame room playerId data => exact ⟨room, playerId, data, rfl, hsubmits⟩
    | _ => exact hsubmits.elim
  have hsubmission : Submission ev.pid room playerId (own ev.pid before) a := by
    obtain ⟨i, o, r⟩ := ev
    cases o with
    | commit changes =>
      cases r with
      | ok => exact hruled room playerId data rfl a hcommitted
      | error => cases hcommitted
    | _ => cases hcommitted
  obtain ⟨first, second, ids, question, start, clock, row, hown, hindex, hid, htimed, hpoints⟩ :=
    hsubmission
  have hprefix : before <+: c.world.history := ⟨_, hh.symm⟩
  -- the order that is read
  obtain ⟨b₁, hb₁, -, hchecked₁⟩ := h.checked_own hh hcall hsubmits (l := [_, _, _]) hown
  have horder : (ordersStored roomCode c.world.history).head? = some ids :=
    Rebuilt.head?_of_prefix (hchecked₁.order ids (by simp [orderRead, hu])) (hb₁.filterMap _)
  -- the question
  obtain ⟨b₂, -, -, hchecked₂⟩ := h.checked_own hh hcall hsubmits (l := [_, _, _, _]) hown
  have hquestion : s₀.db.question? a.questionId = some question := (hchecked₂.question _ _ rfl).symm
  -- its start
  obtain ⟨b₃, hb₃, hown₃, hchecked₃⟩ := h.checked_own hh hcall hsubmits (l := [_, _, _, _, _]) hown
  obtain ⟨k, hk, t, rfl, hlookup⟩ := hchecked₃.start room start rfl hu
  have hbuilding : Rebuilt.building (own ev.pid b₃) = some second.session.currentQuestionIndex := by
    rw [hown₃]
    rfl
  cases hbuilding.symm.trans hk
  have hposition : ids.idxOf a.questionId + 1 = second.session.currentQuestionIndex := by
    have hnodup : ids.Nodup := Rebuilt.nodup_of_stored (fun ev hev => by
      obtain ⟨_, -, hdealt⟩ := h.confined.history ev hev
      exact hdealt) (List.mem_of_mem_head? horder)
    obtain ⟨hlt, hget⟩ := List.getElem?_eq_some_iff.mp hid
    rw [← hget, hnodup.idxOf_getElem]
    omega
  obtain ⟨now, rfl, htime⟩ := htimed
  refine ⟨question, t, now, hquestion, ?_, ?_, htime, hpoints⟩
  · rw [openedAt, horder, Option.bind_some, hposition]
    exact (gather_grows _ hb₃).lookup_eq_some hlookup
  · have hread : ((own ev.pid before).filterMap timeRead).head? = some (ev.pid, now) := by
      rw [hown]
      rfl
    have hgrows : own ev.pid before <+: own ev.pid c.world.history := hprefix.filter _
    rw [lookup_timesRead, Rebuilt.head?_of_prefix hread (hgrows.filterMap _)]
    rfl

omit [Runtime] in
lemma le_of_idxOf_lt {readings : List (ℕ × Time)} (h : (readings.map Prod.snd).Pairwise (· ≤ ·))
    {i j : ℕ} {t u : Time} (ht : readings.lookup i = some t) (hu : readings.lookup j = some u)
    (hij : (readings.map Prod.fst).idxOf i < (readings.map Prod.fst).idxOf j) : t ≤ u := by
  induction readings with
  | nil => cases ht
  | cons p readings ih =>
    obtain ⟨k, v⟩ := p
    rw [List.map_cons, List.pairwise_cons] at h
    rw [List.map_cons, List.idxOf_cons, List.idxOf_cons] at hij
    rw [List.lookup_cons] at ht hu
    by_cases hj : k = j
    · simp [hj] at hij
    rw [beq_eq_false_iff_ne.mpr (Ne.symm hj)] at hu
    by_cases hi : k = i
    · rw [beq_iff_eq.mpr hi.symm] at ht
      cases ht
      obtain ⟨l, r, rfl, -⟩ := List.lookup_eq_some_iff.mp hu
      exact h.1 u (List.mem_map.mpr ⟨(j, u), by simp, rfl⟩)
    · rw [beq_eq_false_iff_ne.mpr (Ne.symm hi)] at ht
      rw [beq_eq_false_iff_ne.mpr hi, beq_eq_false_iff_ne.mpr hj] at hij
      exact ih h.2 ht hu (Nat.lt_of_succ_lt_succ hij)

lemma Kept.fairlyTimed (h : Kept s₀ roomCode c) : FairlyTimed roomCode c where
  fair x hx y hy hquestion hcorrect hcorrect' hlt := by
    obtain ⟨question, start, now, hq, hopened, hnow, htime, hpoints⟩ := h.answered hx
    obtain ⟨question', start', now', hq', hopened', hnow', htime', hpoints'⟩ := h.answered hy
    rw [hquestion] at hq hopened
    cases hq.symm.trans hq'
    cases hopened.symm.trans hopened'
    have hle : now ≤ now' := le_of_idxOf_lt h.ordered hnow hnow' hlt
    have htimes : x.2.timeTakenMs ≤ y.2.timeTakenMs := by
      rw [htime, htime']
      exact Int.tdiv_le_tdiv (by decide) (Int.sub_le_sub_right hle start)
    rw [hpoints, hpoints', hcorrect, hcorrect']
    exact calculateScore_antitone (Int.natCast_nonneg _) htimes
  timed x hx := by
    obtain ⟨question, start, now, -, hopened, hnow, htime, -⟩ := h.answered hx
    exact ⟨start, hopened, now, hnow, htime⟩
  clocked := Rebuilt.openings_clocked fun before ev after hh => by
    obtain ⟨_, -, hclocked⟩ := h.clocked.history before ev after hh
    exact hclocked

end Run

end Fairness

/-- Where every submission finds the opening of its question, answers are timed from it and no later
answer earns more than an earlier one. -/
theorem answers_fairly_timed (roomCode : String) (s₀ : State) (acts : List system.Act)
    (hclock : ∀ t ∈ transitions (start s₀) acts, ClockForward t)
    (hfinds : ∀ t ∈ transitions (start s₀) acts, FindsOpening roomCode s₀ t) :
    FairlyTimed roomCode (run acts (start s₀)) :=
  (invariant (I := fun c : system.Config => Fairness.Kept s₀ roomCode c)
    (P := fun t => FindsOpening roomCode s₀ t ∧ ClockForward t) (fun _ ht hk => hk.step ht.1 ht.2)
    (Fairness.kept_start s₀ roomCode) acts fun t ht => ⟨hfinds t ht, hclock t ht⟩).2.fairlyTimed

end

section Sample

attribute [local instance] Runtime.ascii

/-- Both players answer the first question, one after the other. -/
def answeredInOrder : List system.Act :=
  .spawn (Call.hostFrames "ABCDEF" "host" [.startGame]) :: runs 0 22 ++
    .env (Env.clock 5000000) :: .spawn (Call.playerFrame "ABCDEF" "p1" (.answer "q1" ["q1a"]))
      :: runs 1 12 ++
    .env (Env.clock 6000000) :: .spawn
      (Call.playerFrame "ABCDEF" "p2" (.answer "q1" ["q1a"])) :: runs 2 12

theorem answers_fairly_timed_in_order :
    FairlyTimed "ABCDEF" (run answeredInOrder (start Sample.state)) :=
  answers_fairly_timed "ABCDEF" Sample.state answeredInOrder (by decide +kernel) (by decide +kernel)

def answeredBeforeStart : List system.Act :=
  .spawn (Call.hostFrames "ABCDEF" "host" [.startGame, .nextQuestion, .nextQuestion])
    :: runs 0 39 ++
    .env (Env.clock 5000000) :: .spawn (Call.playerFrame "ABCDEF" "p1" (.answer "q2" ["q2a"]))
      :: runs 1 12 ++
    runs 0 7 ++
    .env (Env.clock 6000000) :: .spawn
      (Call.playerFrame "ABCDEF" "p2" (.answer "q2" ["q2a"])) :: runs 2 12

/-- Timed from the start of the first question, that answer earns less than one that comes a second
later. -/
theorem answer_before_start_unfair :
    (∀ t ∈ transitions (start (M := system) Sample.state) answeredBeforeStart, ClockForward t) ∧
      (∀ a ∈ answeredBeforeStart, Faithful a) ∧
      ¬FairlyTimed "ABCDEF" (run answeredBeforeStart (start Sample.state)) := by
  decide +kernel

end Sample

end Askit.Game

import Askit.Interleaving.Trace
import Askit.Quizzes.System

/-! What an edit has read before it commits. -/

namespace Askit.Quizzes

open Interleaving Machine Coro Tables
open Game (UUID Time Runtime Dirty changed)

def Call.questionsFor (quizId : UUID) : Call → Option (List QuizQuestionCreate)
  | createQuiz _ data => some data.questions
  | updateQuiz id _ data => if id = quizId then data.questions else none
  | setQuizStatus .. => none

/-- The questions of a quiz are those of one body, numbered from one. -/
structure Sound (calls : List Call) (d : Db) (quiz : Quiz) : Prop where
  positions : (d.questionsOf quiz.quizId).map QuizQuestion.position =
    List.range' 1 (d.questionsOf quiz.quizId).length
  fromBody : ∃ call ∈ calls,
    call.questionsFor quiz.quizId = some ((d.questionsOf quiz.quizId).map QuizQuestion.content)
  correct : ∀ q ∈ d.questionsOf quiz.quizId, ∃ a ∈ q.answers, a.isCorrect = true
  nonempty : quiz.status = .published → d.questionsOf quiz.quizId ≠ []

def Db.content (d : Db) (quizId : UUID) : Option (Quiz × List QuizQuestion) :=
  (d.quizzes.get? quizId).map fun q =>
    ({ q with status := .draft, updatedAt := 0 }, d.questionsOf quizId)

def LeavesPublished (d e : Db) : Prop :=
  ∀ quizId quiz, d.quizzes.get? quizId = some quiz → quiz.status = .published →
    e.content quizId = d.content quizId

def quizRead : Event Op Exn → Option Quiz
  | ⟨_, .selectQuiz _, .ok quiz⟩ => quiz
  | _ => none

def quizzesRead (events : List (Event Op Exn)) : List Quiz := events.filterMap quizRead

def rowsRead : Event Op Exn → Option (UUID × List QuizQuestion)
  | ⟨_, .selectQuestions quizId, .ok rows⟩ => some (quizId, rows)
  | _ => none

def idsRead (ev : Event Op Exn) : List UUID :=
  ((rowsRead ev).map fun r => r.2.map QuizQuestion.questionId).getD []

def questionsRead (events : List (Event Op Exn)) : List UUID := events.flatMap idsRead

/-- The commit is not stale: the status that an update has read is still that of the quiz, and where
it replaces the questions the quiz has none that it has not read; where a publication has read
questions, the quiz still has some. -/
def Call.Undisturbed (events : List (Event Op Exn)) (d : Db) : Call → Prop
  | createQuiz .. => True
  | updateQuiz quizId _ data =>
    (∀ quiz ∈ d.quizzes.rows, quiz.quizId = quizId → ∀ read ∈ quizzesRead events,
      quiz.status = read.status) ∧
      (data.questions.isSome → ∀ q ∈ d.questionsOf quizId, q.questionId ∈ questionsRead events)
  | setQuizStatus quizId newStatus _ =>
    newStatus = .published → questionsRead events ≠ [] → d.questionsOf quizId ≠ []

instance (events : List (Event Op Exn)) (d : Db) : DecidablePred (Call.Undisturbed events d)
  | .createQuiz .. => isTrue trivial
  | .updateQuiz .. => inferInstanceAs (Decidable (_ ∧ _))
  | .setQuizStatus .. => inferInstanceAs (Decidable (_ → _))

def Op.commits : {β : Type} → Op β → Bool
  | _, .commit _ => true
  | _, _ => false

section

variable [Platform]

/-- The step is not a stale commit. -/
def Undisturbed : system.Transition → Prop
  | ⟨c, .run i⟩ =>
    match c.procs[i]? with
    | some ⟨call, .await o _⟩ => o.commits → Call.Undisturbed (own i c.world.history)
        (State.db c.world.state) call
    | _ => True
  | _ => True

instance : DecidablePred Undisturbed
  | ⟨c, .run i⟩ =>
    match h : c.procs[i]? with
    | some ⟨call, .await o _⟩ =>
      have : Decidable (Call.Undisturbed (own i c.world.history) (State.db c.world.state) call) :=
        (inferInstance : DecidablePred (Call.Undisturbed _ _)) call
      decidable_of_iff (o.commits → Call.Undisturbed (own i c.world.history)
        (State.db c.world.state) call)
        (by simp [Undisturbed, h])
    | some ⟨_, .done _⟩ | none => isTrue (by simp [Undisturbed, h])
  | ⟨_, .spawn _⟩ | ⟨_, .fault _ _⟩ | ⟨_, .env _⟩ => isTrue trivial

namespace Edits

abbrev Ev := Event Op Exn

def Fine (call : Call) (l : List Ev) : Ev → Prop
  | ⟨_, .selectQuestions id, _⟩ =>
    match call with
    | .createQuiz .. => True
    | .updateQuiz quizId .. | .setQuizStatus quizId .. => id = quizId
  | ⟨_, .insertQuiz quiz _, _⟩ => ∃ userId data, call = .createQuiz userId data ∧
      newQuestions 1 data.questions = .ok quiz.questions
  | ⟨_, .commit c, _⟩ =>
    match call with
    | .createQuiz .. => False
    | .updateQuiz quizId _ data => c.quiz.loaded.quizId = quizId ∧
        c.quiz.current.status = c.quiz.loaded.status ∧
        (∃ read ∈ quizzesRead l, read.status ≠ .published) ∧
        match data.questions with
        | none => c.removed = [] ∧ c.added = []
        | some questions => c.removed = questionsRead l ∧ newQuestions 1 questions = .ok c.added
    | .setQuizStatus quizId newStatus _ => (newStatus = .published → questionsRead l ≠ []) ∧
        ∃ quiz now, quiz.quizId = quizId ∧
          c = ⟨⟨quiz, { quiz with status := newStatus, updatedAt := now }⟩, [], [], []⟩
  | _ => True

variable {call : Call} {i : ℕ} {l : List Ev} {α β : Type}

abbrev Follows (i : ℕ) (call : Call) (Q : Except Exn α → List Ev → Prop) (x : Handler α)
    (l : List Ev) :
    Prop :=
  x.Follows system.Answers i (Fine call) Q l

section Reads

omit [Platform]

lemma questionsRead_append (l : List Ev) (ev : Ev) :
    questionsRead (l ++ [ev]) = questionsRead l ++ idsRead ev := by
  simp [questionsRead]

lemma quizzesRead_append (l : List Ev) (ev : Ev) :
    quizzesRead (l ++ [ev]) = quizzesRead l ++ (quizRead ev).toList := by
  rw [quizzesRead, List.filterMap_append, quizzesRead]
  cases h : quizRead ev <;> simp [h]

end Reads

structure HasRead (quiz : LoadedQuiz) (l : List Ev) : Prop where
  status : ∃ read ∈ quizzesRead l, read.status = quiz.quiz.status
  questions : questionsRead l = quiz.questions.map QuizQuestion.questionId

omit [Platform] in
lemma HasRead.append {quiz : LoadedQuiz} (h : HasRead quiz l) {ev : Ev} (hev : idsRead ev = []) :
    HasRead quiz (l ++ [ev]) := by
  obtain ⟨read, hread, hstatus⟩ := h.status
  refine ⟨⟨read, ?_, hstatus⟩, ?_⟩
  · rw [quizzesRead_append]
    exact List.mem_append_left _ hread
  · rw [questionsRead_append, hev, List.append_nil]
    exact h.questions

def Reads (call : Call) (quizId : UUID) : Prop :=
  ∀ r : Except Exn (List QuizQuestion), Fine call [] ⟨0, .selectQuestions quizId, r⟩

lemma fetchQuiz_follows {quizId : UUID} (hcall : Reads call quizId) :
    Follows i call (fun r l' => ∀ quiz, r = .ok (some quiz) → quiz.quiz.quizId = quizId ∧
      HasRead quiz l')
      (fetchQuiz quizId) [] := by
  apply Follows.perform_bind
  · exact fun _ _ => trivial
  · intro found hfound
    cases found with
    | none => exact fun quiz h => (by cases h)
    | some quiz =>
      obtain ⟨s, hs⟩ := hfound
      have hid : quiz.quizId = quizId := Table.key_get? (Except.ok.inj hs)
      apply Follows.perform_bind
      · exact fun r _ => hcall r
      · intro questions _
        apply Follows.perform_bind
        · exact fun _ _ => trivial
        · intro tags _ loaded h
          cases h
          refine ⟨hid, ⟨quiz, List.mem_cons_self, rfl⟩, ?_⟩
          rw [questionsRead_append, questionsRead_append, questionsRead_append]
          simp [questionsRead, idsRead, rowsRead]
        · exact fun e quiz h => (by cases h)
      · exact fun e quiz h => (by cases h)
  · exact fun e quiz h => (by cases h)

lemma respond_follows {held : LoadedQuiz} (hcall : Reads call held.quiz.quizId) :
    Follows i call (fun _ _ => True) (do
      let some quiz ← refetchQuiz held | throw .quizNotFoundError
      Coro.done (quizToResponse quiz false)) l := by
  apply Follows.bind (S := fun _ _ => True)
  · apply Follows.perform_bind
    · exact fun _ _ => trivial
    · rintro (_ | quiz) -
      · trivial
      · apply Follows.perform_bind
        · exact fun r _ => hcall r
        · intro _ _
          apply Follows.perform_bind
          · exact fun _ _ => trivial
          · exact fun _ _ => trivial
          · exact fun _ => trivial
        · exact fun _ => trivial
    · exact fun _ => trivial
  · rintro (_ | quiz) l - <;> trivial
  · exact fun _ _ _ => trivial

lemma getOrCreateTags_follows {quiz : LoadedQuiz} (created tagNames : List String)
    (h : HasRead quiz l) :
    Follows i call (fun _ => HasRead quiz) (getOrCreateTags created tagNames) l := by
  induction tagNames generalizing created l with
  | nil => exact h
  | cons name tagNames ih =>
    have hread (r : Except Exn (Option String)) : HasRead quiz (l ++ [⟨i, .selectTag name, r⟩]) :=
      h.append (by cases r <;> rfl)
    apply Follows.perform_bind
    · exact fun _ _ => trivial
    · rintro (_ | tag) -
      · exact ih _ (hread _)
      · exact ih _ (hread _)
    · exact fun e => hread _

lemma replaceQuestions_follows {quiz : LoadedQuiz} (given : Option (List QuizQuestionCreate))
    (h : HasRead quiz l) :
    Follows i call (fun r l' => HasRead quiz l' ∧ ∀ v, r = .ok v →
      match given with
      | none => v = ([], [])
      | some questions => v.1 = questionsRead l' ∧ newQuestions 1 questions = .ok v.2)
      (replaceQuestions quiz.questions given) l := by
  cases given with
  | none => exact ⟨h, fun v hv => (by cases hv; rfl)⟩
  | some questions =>
    apply Follows.perform_bind
    · exact fun _ _ => trivial
    · intro _ _
      have hflushed : HasRead quiz (l ++ [⟨i, .flush, .ok ()⟩]) := h.append rfl
      cases hn : newQuestions 1 questions with
      | error e => exact ⟨hflushed, fun v hv => (by cases hv)⟩
      | ok added =>
        refine ⟨hflushed, fun v hv => ?_⟩
        cases hv
        exact ⟨hflushed.questions.symm, hn⟩
    · exact fun e => ⟨h.append rfl, fun v hv => (by cases hv)⟩

lemma createQuiz_follows (userId : UUID) (data : QuizCreate) :
    Follows i (.createQuiz userId data) (fun _ _ => True) (createQuiz userId data) l := by
  apply Follows.bind (S := fun _ _ => True)
  · generalize ([] : List String) = created
    induction data.tags generalizing created l with
    | nil => trivial
    | cons name tagNames ih =>
      apply Follows.perform_bind
      · exact fun _ _ => trivial
      · rintro (_ | tag) - <;> exact ih _
      · exact fun _ => trivial
  · intro newTags l _
    cases hq : newQuestions 1 data.questions with
    | error e => trivial
    | ok questions =>
      apply Follows.perform_bind
      · exact fun _ _ => ⟨userId, data, rfl, hq⟩
      · exact fun quiz _ => respond_follows fun _ => trivial
      · exact fun _ => trivial
  · exact fun _ _ _ => trivial

lemma updateQuiz_follows (quizId userId : UUID) (data : QuizUpdate) :
    Follows i (.updateQuiz quizId userId data) (fun _ _ => True)
      (updateQuiz quizId userId data) [] := by
  have hcall : Reads (.updateQuiz quizId userId data) quizId := fun _ => rfl
  apply Follows.bind (fetchQuiz_follows hcall)
  swap
  · exact fun _ _ _ => trivial
  rintro (_ | quiz) l hquiz
  · trivial
  obtain ⟨hid, hread⟩ := hquiz quiz rfl
  apply Follows.require_bind
  swap
  · exact fun _ => trivial
  intro _
  apply Follows.require_bind
  swap
  · exact fun _ => trivial
  intro hdraft
  apply Follows.bind (getOrCreateTags_follows _ _ hread)
  swap
  · exact fun _ _ _ => trivial
  intro newTags l₁ h₁
  apply Follows.bind (replaceQuestions_follows data.questions h₁)
  swap
  · exact fun _ _ _ => trivial
  rintro ⟨removed, added⟩ l₂ ⟨h₂, hadded⟩
  replace hadded := hadded _ rfl
  apply Follows.perform_bind
  · exact fun _ _ => trivial
  swap
  · exact fun _ => trivial
  intro now _
  have h₃ : HasRead quiz (l₂ ++ [⟨i, .now, .ok now⟩]) := h₂.append rfl
  apply Follows.perform_bind
  · refine fun _ _ => ⟨hid, status_applyUpdate data quiz.quiz, ?_, ?_⟩
    · obtain ⟨read, hmem, hstatus⟩ := h₃.status
      exact ⟨read, hmem, hstatus ▸ hdraft⟩
    · cases hq : data.questions with
      | none =>
        rw [hq] at hadded
        cases hadded
        exact ⟨rfl, rfl⟩
      | some questions =>
        rw [hq] at hadded
        exact ⟨hadded.1.trans (h₂.questions.trans h₃.questions.symm), hadded.2⟩
  swap
  · exact fun _ => trivial
  refine fun flushed _ => respond_follows ?_
  rw [quizId_applyUpdate, hid]
  exact hcall

lemma setQuizStatus_follows (quizId userId : UUID) (newStatus : QuizStatus) :
    Follows i (.setQuizStatus quizId newStatus userId) (fun _ _ => True)
      (setQuizStatus quizId newStatus userId) [] := by
  have hcall : Reads (.setQuizStatus quizId newStatus userId) quizId := fun _ => rfl
  apply Follows.bind (fetchQuiz_follows hcall)
  swap
  · exact fun _ _ _ => trivial
  rintro (_ | quiz) l hquiz
  · trivial
  obtain ⟨hid, hread⟩ := hquiz quiz rfl
  apply Follows.require_bind
  swap
  · exact fun _ => trivial
  intro _
  apply Follows.require_bind
  swap
  · exact fun _ => trivial
  intro hsome
  apply Follows.perform_bind
  · exact fun _ _ => trivial
  swap
  · exact fun _ => trivial
  intro now _
  have h₁ : HasRead quiz (l ++ [⟨i, .now, .ok now⟩]) := hread.append rfl
  apply Follows.perform_bind
  · refine fun _ _ => ⟨fun hp hnone => hsome ⟨hp, ?_⟩, quiz.quiz, now, hid, rfl⟩
    rw [h₁.questions] at hnone
    exact List.map_eq_nil_iff.mp hnone
  swap
  · exact fun _ => trivial
  exact fun _ _ => respond_follows (hid.symm ▸ hcall)

lemma code_follows (i : ℕ) (call : Call) : Follows i call (fun _ _ => True) (code call) [] := by
  cases call with
  | createQuiz userId data => exact createQuiz_follows userId data
  | updateQuiz quizId userId data => exact updateQuiz_follows quizId userId data
  | setQuizStatus quizId newStatus userId => exact setQuizStatus_follows quizId userId newStatus

end Edits

end

end Askit.Quizzes

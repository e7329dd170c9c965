import Askit.Quizzes.Operations
import Mathlib.Algebra.Ring.Int.Defs

/-! `QuizService`. -/

namespace Askit.Quizzes

open Interleaving Coro
open Game (UUID Time Runtime Dirty)

def fetchQuiz (uuidVal : UUID) : Handler (Option LoadedQuiz) := do
  let some quiz ← await (.selectQuiz uuidVal) | pure none
  let questions ← await (.selectQuestions uuidVal)
  let tags ← await (.selectTags uuidVal)
  pure (some ⟨{ quiz with tags := tags }, questions⟩)

/-- The session holds the quiz with its questions and tags after a commit too: when it selects the
quiz again, what it finds does not replace what it holds. -/
def refetchQuiz (held : LoadedQuiz) : Handler (Option LoadedQuiz) := do
  let some _ ← await (.selectQuiz held.quiz.quizId) | pure none
  let _ ← await (.selectQuestions held.quiz.quizId)
  let _ ← await (.selectTags held.quiz.quizId)
  pure (some held)

/-- The column `max_participants` may be null, the field of the response may not. -/
def quizToResponse (quiz : LoadedQuiz) (isFavorited : Bool) : Except Exn QuizOut :=
  match quiz.quiz.maxParticipants with
  | none => .error .validationError
  | some maxParticipants => .ok {
      quizId := quiz.quiz.quizId
      creatorId := quiz.quiz.creatorId
      title := quiz.quiz.title
      description := quiz.quiz.description
      tags := quiz.quiz.tags
      status := quiz.quiz.status
      settings := ⟨quiz.quiz.defaultTimePerQuestion, quiz.quiz.visibility, maxParticipants⟩
      questions := quiz.questions.map fun q =>
        ⟨q.questionId, q.text, q.position, q.timeLimit, q.allowMultipleAnswers, q.answers⟩
      estimatedTime := (quiz.questions.map QuizQuestion.timeLimit).sum
      createdAt := quiz.quiz.createdAt
      updatedAt := quiz.quiz.updatedAt
      isFavorited := isFavorited }

lemma quizToResponse_filled {quiz : LoadedQuiz} (h : quiz.quiz.maxParticipants.isSome)
    (isFavorited : Bool) :
    ∃ out, quizToResponse quiz isFavorited = .ok out ∧ out.quizId = quiz.quiz.quizId := by
  obtain ⟨maxParticipants, hmax⟩ := Option.isSome_iff_exists.mp h
  rw [quizToResponse, hmax]
  exact ⟨_, rfl, rfl⟩

/-- The names that have no tag yet; `created` are those the request has added itself, which a query
of the same session finds. -/
def getOrCreateTags (created : List String) : List String → Handler (List String)
  | [] => pure created
  | name :: tagNames => do
    match ← await (.selectTag name) with
    | some _ => getOrCreateTags created tagNames
    | none => getOrCreateTags (if name ∈ created then created else created ++ [name]) tagNames

def noCorrectAnswer (position : ℕ) : Exn :=
  .invalidQuizDataError ("Question " ++ toString position ++
    " must have at least one correct answer.")

/-- The loop over the questions of a body, which are numbered from `position`. -/
def newQuestions (position : ℕ) : List QuizQuestionCreate → Except Exn (List NewQuestion)
  | [] => .ok []
  | data :: questions =>
    if data.answers.any QuizAnswerCreate.isCorrect then
      (newQuestions (position + 1) questions).map fun rest =>
        ⟨data.text, position, data.timeLimit, data.allowMultipleAnswers, data.answers⟩ :: rest
    else .error (noCorrectAnswer position)

def createQuiz (userId : UUID) (data : QuizCreate) : Handler QuizOut := do
  let newTags ← getOrCreateTags [] data.tags
  let questions ← Coro.done (newQuestions 1 data.questions)
  let quiz ← await (.insertQuiz ⟨userId, data.title, data.description,
    data.settings.defaultTimePerQuestion, data.settings.visibility,
    some data.settings.maxParticipants, data.tags, questions⟩ newTags)
  let some created ← refetchQuiz quiz | throw .quizNotFoundError
  Coro.done (quizToResponse created false)

def applySettings (settings : QuizSettingsCreate) (quiz : Quiz) : Quiz :=
  { quiz with
    defaultTimePerQuestion := settings.defaultTimePerQuestion
    visibility := settings.visibility
    maxParticipants := some settings.maxParticipants }

def applyUpdate (data : QuizUpdate) (quiz : Quiz) : Quiz :=
  data.settings.elim id applySettings
    { quiz with
      title := data.title.getD quiz.title
      description := data.description.or quiz.description
      tags := data.tags.getD quiz.tags }

section Fields

variable (data : QuizUpdate) (quiz : Quiz)

@[simp] lemma quizId_applyUpdate : (applyUpdate data quiz).quizId = quiz.quizId := by
  unfold applyUpdate
  cases data.settings <;> rfl

@[simp] lemma status_applyUpdate : (applyUpdate data quiz).status = quiz.status := by
  unfold applyUpdate
  cases data.settings <;> rfl

@[simp] lemma tags_applyUpdate : (applyUpdate data quiz).tags = data.tags.getD quiz.tags := by
  unfold applyUpdate
  cases data.settings <;> rfl

@[simp] lemma maxParticipants_applyUpdate : (applyUpdate data quiz).maxParticipants =
    (data.settings.map QuizSettingsCreate.maxParticipants).or quiz.maxParticipants := by
  unfold applyUpdate
  cases data.settings <;> rfl

end Fields

def replaceQuestions (loaded : List QuizQuestion) :
    Option (List QuizQuestionCreate) → Handler (List UUID × List NewQuestion)
  | none => pure ([], [])
  | some questions => do
    await .flush
    let added ← Coro.done (newQuestions 1 questions)
    pure (loaded.map QuizQuestion.questionId, added)

def updateQuiz (quizId userId : UUID) (data : QuizUpdate) : Handler QuizOut := do
  let some quiz ← fetchQuiz quizId | throw .quizNotFoundError
  require (quiz.quiz.creatorId = userId) .quizAccessDeniedError
  require (quiz.quiz.status ≠ .published) .quizPublishedError
  let newTags ← getOrCreateTags [] (data.tags.getD [])
  let (removed, added) ← replaceQuestions quiz.questions data.questions
  let now ← await .now
  let current := { applyUpdate data quiz.quiz with updatedAt := now }
  let flushed ← await (.commit ⟨⟨quiz.quiz, current⟩, newTags, removed, added⟩)
  let questions := data.questions.elim quiz.questions fun _ => flushed
  let some updated ← refetchQuiz ⟨current, questions⟩ | throw .quizNotFoundError
  Coro.done (quizToResponse updated false)

def setQuizStatus (quizId : UUID) (newStatus : QuizStatus) (userId : UUID) : Handler QuizOut := do
  let some quiz ← fetchQuiz quizId | throw .quizNotFoundError
  require (quiz.quiz.creatorId = userId) .quizAccessDeniedError
  require (¬(newStatus = .published ∧ quiz.questions = []))
    (.invalidQuizDataError "Cannot publish a quiz that has no questions.")
  let now ← await .now
  let current := { quiz.quiz with status := newStatus, updatedAt := now }
  let _ ← await (.commit ⟨⟨quiz.quiz, current⟩, [], [], []⟩)
  let some refreshed ← refetchQuiz ⟨current, quiz.questions⟩ | throw .quizNotFoundError
  Coro.done (quizToResponse refreshed false)

end Askit.Quizzes

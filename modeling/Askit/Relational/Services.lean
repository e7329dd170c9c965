import Askit.Quizzes.Services
import Askit.Relational.Statements

/-! `QuizService` over its tables. A request has the database to itself. -/

namespace Askit.Relational

open Interleaving Coro Tables
open Game (UUID Time Runtime GameSession)
open Quizzes (Platform QuizStatus QuizAnswerCreate QuizCreate QuizUpdate QuizOut NewQuestion
  Exn newQuestions)

structure LoadedQuestion where
  question : QuizQuestion
  answers : List QuizAnswer
  deriving DecidableEq, Repr

structure LoadedQuiz where
  quiz : Quiz
  questions : List LoadedQuestion
  tags : List String
  deriving DecidableEq, Repr

structure FavoriteActionResponse where
  quizId : UUID
  isFavorited : Bool
  deriving DecidableEq, Repr

/-- `draws` are the identifiers that have been drawn. -/
structure World where
  draws : ℕ
  now : Time

instance : Preorder World := .lift World.draws

abbrev Handler := Coro (Action Database Exn World) Exn

variable [Platform]

/-! A query returns the rows in any order but the questions, which the relationship orders by
position. -/

namespace Rows

def questionsOf (d : Rows) (quizId : UUID) : List QuizQuestion := d.questions.rows.filter fun q =>
    q.quizId = quizId

def answersOf (d : Rows) (questionId : UUID) : List QuizAnswer :=
  d.answers.rows.filter fun a => a.questionId = questionId

def tagsOf (d : Rows) (quizId : UUID) : List String :=
  (d.quizTags.rows.filter fun l => l.quizId = quizId).map QuizTag.tag

def loadQuestion (d : Rows) (q : QuizQuestion) : LoadedQuestion :=
    ⟨q, Platform.arrange (d.answersOf q.questionId)⟩

def loadQuestions (d : Rows) (quizId : UUID) : List LoadedQuestion :=
  ((Platform.arrange (d.questionsOf quizId)).insertionSort fun a b => a.position ≤ b.position).map
    d.loadQuestion

def load (d : Rows) (q : Quiz) :
    LoadedQuiz := ⟨q, d.loadQuestions q.quizId, Platform.arrange (d.tagsOf q.quizId)⟩

def fetchQuiz (d : Rows) (quizId : UUID) : Option LoadedQuiz := (d.quizzes.get? quizId).map d.load

end Rows

def utcnow : Handler Time := perform (.world fun w => (w.now, w))

/-- The column default of an identifier. No one sees that it is drawn at the flush of its object. -/
def uuid4 : Handler UUID := perform
    (.world fun w => (Runtime.uuid4 w.draws, { w with draws := w.draws + 1 }))

/-- The response of a quiz whose bound on its participants is `maxParticipants`. -/
def quizOut (quiz : LoadedQuiz) (maxParticipants : ℤ) (isFavorited : Bool) : QuizOut where
  quizId := quiz.quiz.quizId
  creatorId := quiz.quiz.creatorId
  title := quiz.quiz.title
  description := quiz.quiz.description
  tags := quiz.tags
  status := quiz.quiz.status
  settings := ⟨quiz.quiz.defaultTimePerQuestion, quiz.quiz.visibility, maxParticipants⟩
  questions := quiz.questions.map fun q =>
    ⟨q.question.questionId, q.question.text, q.question.position, q.question.timeLimit,
      q.question.allowMultipleAnswers, q.answers.map fun a => ⟨a.answerId, a.text, a.isCorrect⟩⟩
  estimatedTime := (quiz.questions.map fun q => q.question.timeLimit).sum
  createdAt := quiz.quiz.createdAt
  updatedAt := quiz.quiz.updatedAt
  isFavorited := isFavorited

/-- The column may be null, the field of the response may not. -/
def quizToResponse (quiz : LoadedQuiz) (isFavorited : Bool) : Except Exn QuizOut :=
  match quiz.quiz.maxParticipants with
  | none => .error .validationError
  | some maxParticipants => .ok (quizOut quiz maxParticipants isFavorited)

section Response

omit [Platform]

variable {quiz : LoadedQuiz} {isFavorited : Bool}

lemma quizToResponse_eq_ok {out : QuizOut} : quizToResponse quiz isFavorited = .ok out ↔
    ∃ n, quiz.quiz.maxParticipants = some n ∧ quizOut quiz n isFavorited = out := by
  unfold quizToResponse
  cases quiz.quiz.maxParticipants <;> simp

lemma quizToResponse_filled (h : quiz.quiz.maxParticipants.isSome) (isFavorited : Bool) :
    ∃ out, quizToResponse quiz isFavorited = .ok out := by
  obtain ⟨n, hn⟩ := Option.isSome_iff_exists.mp h
  exact ⟨_, quizToResponse_eq_ok.mpr ⟨n, hn, rfl⟩⟩

lemma mapM_quizToResponse {quizzes : List LoadedQuiz}
    (h : ∀ quiz ∈ quizzes, quiz.quiz.maxParticipants.isSome) (isFavorited : LoadedQuiz → Bool) :
    (quizzes.mapM fun quiz => quizToResponse quiz (isFavorited quiz)) =
      .ok (quizzes.map fun quiz => quizOut quiz (quiz.quiz.maxParticipants.getD 0)
        (isFavorited quiz)) := by
  induction quizzes with
  | nil => rfl
  | cons quiz quizzes ih =>
    obtain ⟨hquiz, hrest⟩ := List.forall_mem_cons.mp h
    obtain ⟨n, hn⟩ := Option.isSome_iff_exists.mp hquiz
    rw [List.mapM_cons, ih hrest, quizToResponse, hn, List.map_cons, hn]
    rfl

end Response

/-- Every quiz has a bound on its participants. -/
def Rows.Filled (d : Rows) : Prop := ∀ quiz ∈ d.quizzes.rows, quiz.maxParticipants.isSome

instance (d : Rows) : Decidable d.Filled := inferInstanceAs (Decidable (∀ _ ∈ _, _))

def createTag (name : String) : Option String → Handler Unit
  | some _ => pure ()
  | none => stage (Sql.insertTag name)

def getOrCreateTags : List String → Handler (List String)
  | [] => pure []
  | name :: tagNames => do
    let tag ← select fun d => d.tags.get? name
    createTag name tag
    let tags ← getOrCreateTags tagNames
    pure (name :: tags)

def addAnswers (questionId : UUID) : List QuizAnswerCreate → Handler (List QuizAnswer)
  | [] => pure []
  | data :: rest => do
    let answer : QuizAnswer := ⟨← uuid4, questionId, data.text, data.isCorrect⟩
    stage (Sql.insertAnswer answer)
    let answers ← addAnswers questionId rest
    pure (answer :: answers)

def addQuestions (quizId : UUID) : List NewQuestion → Handler (List LoadedQuestion)
  | [] => pure []
  | data :: rest => do
    let question : QuizQuestion :=
      ⟨← uuid4, quizId, data.text, data.position, data.timeLimit, data.allowMultipleAnswers⟩
    stage (Sql.insertQuestion question)
    let answers ← addAnswers question.questionId data.answers
    let questions ← addQuestions quizId rest
    pure (⟨question, answers⟩ :: questions)

def linkTags (quizId : UUID) : List String → Handler Unit
  | [] => pure ()
  | tag :: tags => do
    stage (Sql.insertQuizTag ⟨quizId, tag⟩)
    linkTags quizId tags

/-- The quiz that is in the session when `create_quiz` comes to its commit. -/
def newQuiz (userId : UUID) (data : QuizCreate) : Handler LoadedQuiz := do
  let tags ← getOrCreateTags data.tags
  let questions ← Coro.done (newQuestions 1 data.questions)
  let now ← utcnow
  let quiz : Quiz := ⟨← uuid4, userId, data.title, data.description,
    data.settings.defaultTimePerQuestion,
    data.settings.visibility, .draft, some data.settings.maxParticipants, now, now⟩
  stage (Sql.insertQuiz quiz)
  let added ← addQuestions quiz.quizId questions
  linkTags quiz.quizId tags
  pure ⟨quiz, added, tags⟩

/-- The query finds the quiz in the session, with the attributes that it has there. -/
def fetchCommitted (quiz : LoadedQuiz) : Handler QuizOut := do
  let some _ ← select fun d => d.fetchQuiz quiz.quiz.quizId | throw .quizNotFoundError
  Coro.done (quizToResponse quiz false)

def commitQuiz (quiz : LoadedQuiz) : Handler QuizOut := do
  commit
  fetchCommitted quiz

def createQuiz (userId : UUID) (data : QuizCreate) : Handler QuizOut := do
  let quiz ← newQuiz userId data
  commitQuiz quiz

/-- A `ValidationError` is a `ValueError`, which makes the quiz count as missing. -/
def getQuiz (quizId : UUID) (owner : Option UUID) : Handler (Option QuizOut) := do
  let some quiz ← select fun d => d.fetchQuiz quizId | pure none
  if owner.any (quiz.quiz.creatorId ≠ ·) then pure none
  else
    let isFav ← match owner with
      | none => pure false
      | some userId => select fun d => (d.favorites.get? ⟨userId, quizId⟩).isSome
    pure (quizToResponse quiz isFav).toOption

def replaceTags (quizId : UUID) (loaded : List String) :
    Option (List String) → Handler (List String)
  | none => pure loaded
  | some tagNames => do
    let tags ← getOrCreateTags tagNames
    stage (Sql.deleteQuizTags fun l => l.quizId = quizId ∧ l.tag ∈ loaded ∧ l.tag ∉ tags)
    linkTags quizId (tags.filter (· ∉ loaded))
    pure tags

def replaceQuestions (quizId : UUID) (loaded : List LoadedQuestion) :
    Option (List Quizzes.QuizQuestionCreate) → Handler (List LoadedQuestion)
  | none => pure loaded
  | some questions => do
    stage (Sql.deleteAnswers fun a => ∃ q ∈ loaded, a.answerId ∈ q.answers.map QuizAnswer.answerId)
    stage (Sql.deleteQuestions fun q => q.questionId ∈ loaded.map fun q => q.question.questionId)
    flush
    let added ← Coro.done (newQuestions 1 questions)
    addQuestions quizId added

def editQuiz (quizId userId : UUID) (data : QuizUpdate) : Handler LoadedQuiz := do
  let some quiz ← select fun d => d.fetchQuiz quizId | throw .quizNotFoundError
  require (quiz.quiz.creatorId = userId) .quizAccessDeniedError
  require (quiz.quiz.status ≠ .published) .quizPublishedError
  stage (Sql.updateQuiz quizId { title := data.title, description := data.description })
  let tags ← replaceTags quizId quiz.tags data.tags
  stage (Sql.updateQuiz quizId { settings := data.settings })
  let questions ← replaceQuestions quizId quiz.questions data.questions
  let now ← utcnow
  stage (Sql.updateQuiz quizId { updatedAt := some now })
  pure ⟨QuizSet.apply ⟨data.title, data.description, data.settings, none, some now⟩ quiz.quiz,
    questions, tags⟩

def updateQuiz (quizId userId : UUID) (data : QuizUpdate) : Handler QuizOut := do
  let quiz ← editQuiz quizId userId data
  commitQuiz quiz

def changeStatus (quizId : UUID) (newStatus : QuizStatus) (userId : UUID) : Handler LoadedQuiz := do
  let some quiz ← select fun d => d.fetchQuiz quizId | throw .quizNotFoundError
  require (quiz.quiz.creatorId = userId) .quizAccessDeniedError
  require (¬(newStatus = .published ∧ quiz.questions = []))
    (.invalidQuizDataError "Cannot publish a quiz that has no questions.")
  let now ← utcnow
  stage (Sql.updateQuiz quizId { status := some newStatus, updatedAt := some now })
  pure { quiz with quiz := { quiz.quiz with status := newStatus, updatedAt := now } }

def setQuizStatus (quizId : UUID) (newStatus : QuizStatus) (userId : UUID) : Handler QuizOut := do
  let quiz ← changeStatus quizId newStatus userId
  commitQuiz quiz

def loadAnswers : List QuizQuestion → Handler (List QuizAnswer)
  | [] => pure []
  | q :: questions => do
    let answers ← select fun d => Platform.arrange (d.answersOf q.questionId)
    let rest ← loadAnswers questions
    pure (answers ++ rest)

def dropQuiz (quizId userId : UUID) : Handler Unit := do
  let some (quiz, questions) ← select fun d => (d.quizzes.get? quizId).map fun q =>
    (q, (Platform.arrange (d.questionsOf quizId)).insertionSort fun a b => a.position ≤ b.position)
    | throw .quizNotFoundError
  require (quiz.creatorId = userId) .quizAccessDeniedError
  execute (Sql.deleteSessions fun g => g.quizId = quizId)
  let answers ← loadAnswers questions
  let tags ← select fun d => Platform.arrange (d.tagsOf quizId)
  let favoritedBy ← select fun d =>
    Platform.arrange ((d.favorites.rows.filter fun f => f.quizId = quizId).map QuizFavorite.userId)
  stage (Sql.deleteQuizTags fun l => l.quizId = quizId ∧ l.tag ∈ tags)
  stage (Sql.deleteFavorites fun f => f.quizId = quizId ∧ f.userId ∈ favoritedBy)
  stage (Sql.deleteAnswers fun a => a.answerId ∈ answers.map QuizAnswer.answerId)
  stage (Sql.deleteQuestions fun q => q.questionId ∈ questions.map QuizQuestion.questionId)
  stage (Sql.deleteQuizzes fun q => q.quizId = quizId)

def deleteQuiz (quizId userId : UUID) : Handler Unit := do
  dropQuiz quizId userId
  commit

def listQuizzes (userId : UUID) : Handler (List QuizOut) := do
  let quizzes ← select fun d =>
    (Platform.arrange (d.quizzes.rows.filter fun q => q.creatorId = userId)).map d.load
  let favoritedIds ← select fun d => (d.favorites.rows.filter fun f => f.userId = userId).map
    QuizFavorite.quizId
  Coro.done (quizzes.mapM fun quiz => quizToResponse quiz (quiz.quiz.quizId ∈ favoritedIds))

def toggleFavorite (quizId userId : UUID) : Handler (Option FavoriteActionResponse) := do
  let quiz ← select fun d => d.quizzes.get? quizId
  if quiz.all (·.creatorId ≠ userId) then pure none
  else
    let isFavorited ← select fun d => (d.favorites.get? ⟨userId, quizId⟩).isSome
    if isFavorited then execute (Sql.deleteFavorites fun f => f.userId = userId ∧ f.quizId = quizId)
    else execute (Sql.insertFavorite ⟨userId, quizId⟩)
    commit
    pure (some ⟨quizId, !isFavorited⟩)

def listFavorites (userId : UUID) : Handler (List QuizOut) := do
  let quizzes ← select fun d =>
    (Platform.arrange ((d.favorites.rows.filter fun f => f.userId = userId).filterMap fun f =>
      d.quizzes.get? f.quizId)).map d.load
  Coro.done (quizzes.mapM fun quiz => quizToResponse quiz true)

end Askit.Relational

import Askit.Game.Store
import Askit.Interleaving.Contract
import Askit.Quizzes.Schemas
import Mathlib.Algebra.Ring.Nat

/-! The database of the quiz service and the statements that its requests await. Under READ
COMMITTED a statement sees what is committed when it runs, so a request is one transaction whose
writes take effect at its commit; the locks that it holds until then only make others wait. -/

namespace Askit.Quizzes

open Interleaving Tables
open Game (UUID Time Runtime Dirty changed)

/-- An ORM object that is not flushed yet, and has no identifier. -/
structure NewQuestion where
  text : String
  position : ℕ
  timeLimit : ℤ
  allowMultipleAnswers : Bool
  answers : List QuizAnswerCreate
  deriving DecidableEq, Repr

def NewQuestion.content (q : NewQuestion) : QuizQuestionCreate :=
  ⟨q.text, q.timeLimit, q.allowMultipleAnswers, q.answers⟩

def QuizQuestion.content (q : QuizQuestion) : QuizQuestionCreate :=
  ⟨q.text, q.timeLimit, q.allowMultipleAnswers, q.answers.map fun a => ⟨a.text, a.isCorrect⟩⟩

structure NewQuiz where
  creatorId : UUID
  title : String
  description : Option String
  defaultTimePerQuestion : ℤ
  visibility : QuizVisibility
  maxParticipants : Option ℤ
  tags : List String
  questions : List NewQuestion
  deriving DecidableEq, Repr

structure Db where
  quizzes : Table Quiz.quizId
  questions : Table QuizQuestion.questionId
  tags : Table (id : String → String)

/-- What the transaction of `update_quiz` or `set_quiz_status` holds when it commits. `removed` are
the questions whose rows it deletes. The flush gives those that it has added their identifiers. -/
structure Changes where
  quiz : Dirty Quiz
  newTags : List String := []
  removed : List UUID := []
  added : List NewQuestion := []

structure State where
  db : Db
  now : Time
  draws : ℕ

inductive Op : Type → Type
  | selectQuiz (quizId : UUID) : Op (Option Quiz)
  | selectQuestions (quizId : UUID) : Op (List QuizQuestion)
  | selectTags (quizId : UUID) : Op (List String)
  | selectTag (name : String) : Op (Option String)
  | now : Op Time
  | flush : Op Unit
  | insertQuiz (quiz : NewQuiz) (newTags : List String) : Op LoadedQuiz
  | commit (changes : Changes) : Op (List QuizQuestion)

abbrev Handler := Coro Op Exn

abbrev await {α : Type} (o : Op α) : Handler α := Coro.perform o

def flushTags (tags : Dirty (List String)) (row : List String) : List String :=
  row.filter (fun t => t ∉ tags.loaded ∨ t ∈ tags.current) ++
    tags.current.filter fun t => t ∉ tags.loaded ∧ t ∉ row

@[simp] lemma flushTags_self (tags row : List String) : flushTags ⟨tags, tags⟩ row = row := by
  have hkept : row.filter (fun t => t ∉ tags ∨ t ∈ tags) = row :=
    List.filter_eq_self.mpr fun t _ => by simp [Decidable.em, or_comm]
  have hnone : tags.filter (fun t => t ∉ tags ∧ t ∉ row) = [] :=
    List.filter_eq_nil_iff.mpr fun t ht => by simp [ht]
  rw [flushTags, hkept, hnone, List.append_nil]

def Quiz.flush (q : Dirty Quiz) (row : Quiz) : Quiz :=
  { row with
    title := changed q.loaded.title q.current.title row.title
    description := changed q.loaded.description q.current.description row.description
    defaultTimePerQuestion := changed q.loaded.defaultTimePerQuestion
      q.current.defaultTimePerQuestion
      row.defaultTimePerQuestion
    visibility := changed q.loaded.visibility q.current.visibility row.visibility
    status := changed q.loaded.status q.current.status row.status
    maxParticipants := changed q.loaded.maxParticipants q.current.maxParticipants
      row.maxParticipants
    updatedAt := changed q.loaded.updatedAt q.current.updatedAt row.updatedAt
    tags := flushTags ⟨q.loaded.tags, q.current.tags⟩ row.tags }

@[simp] lemma Quiz.quizId_flush (q : Dirty Quiz) (row : Quiz) :
    (Quiz.flush q row).quizId = row.quizId := rfl

/-- A row of `quiz_tags` is not inserted twice. -/
def tagsClash (q : Dirty Quiz) (row : Quiz) : Bool :=
  q.current.tags.any fun t => t ∉ q.loaded.tags ∧ t ∈ row.tags

variable [Platform]

/-! The identifiers are column defaults, which are drawn when the rows are flushed. -/

def flushAnswers (draws : ℕ) (answers : List QuizAnswerCreate) : List QuizAnswer :=
  answers.mapIdx fun k a => ⟨Runtime.uuid4 (draws + k), a.text, a.isCorrect⟩

def flushQuestions (quizId : UUID) : ℕ → List NewQuestion → List QuizQuestion
  | _, [] => []
  | draws, q :: questions =>
    ⟨Runtime.uuid4 draws, quizId, q.text, q.position, q.timeLimit, q.allowMultipleAnswers,
      flushAnswers (draws + 1) q.answers⟩ ::
      flushQuestions quizId (draws + 1 + q.answers.length) questions

def flushQuiz (now : Time) (draws : ℕ) (q : NewQuiz) : LoadedQuiz where
  quiz := ⟨Runtime.uuid4 draws, q.creatorId, q.title, q.description,
    q.defaultTimePerQuestion, q.visibility, .draft, q.maxParticipants, now, now, q.tags⟩
  questions := flushQuestions (Runtime.uuid4 draws) (draws + 1) q.questions

@[simp] lemma quizId_flushQuiz (now : Time) (draws : ℕ) (q : NewQuiz) :
    (flushQuiz now draws q).quiz.quizId = Runtime.uuid4 draws := rfl

@[simp] lemma questions_flushQuiz (now : Time) (draws : ℕ) (q : NewQuiz) :
    (flushQuiz now draws q).questions = flushQuestions (Runtime.uuid4 draws)
      (draws + 1) q.questions := rfl

def identifiers (questions : List NewQuestion) :
    ℕ := (questions.map fun q => 1 + q.answers.length).sum

lemma map_flushAnswers (draws : ℕ) (answers : List QuizAnswerCreate) :
    ((flushAnswers draws answers).map fun a => ⟨a.text, a.isCorrect⟩) = answers := by
  apply List.ext_getElem
  · simp [flushAnswers]
  · intro k _ _
    simp [flushAnswers]

section Flush

variable {quizId : UUID} {draws : ℕ} {questions : List NewQuestion} {q : QuizQuestion}

@[simp] lemma position_flushQuestions :
    (flushQuestions quizId draws questions).map QuizQuestion.position =
      questions.map NewQuestion.position := by
  induction questions generalizing draws with
  | nil => rfl
  | cons q questions ih => simp [flushQuestions, ih]

@[simp] lemma content_flushQuestions :
    (flushQuestions quizId draws questions).map QuizQuestion.content =
      questions.map NewQuestion.content := by
  induction questions generalizing draws with
  | nil => rfl
  | cons q questions ih =>
    simp [flushQuestions, ih, QuizQuestion.content, NewQuestion.content, map_flushAnswers]

lemma quizId_of_flushed (h : q ∈ flushQuestions quizId draws questions) : q.quizId = quizId := by
  induction questions generalizing draws with
  | nil => cases h
  | cons n questions ih =>
    rcases List.mem_cons.mp h with rfl | h
    · rfl
    · exact ih h

lemma drawn_of_flushed (h : q ∈ flushQuestions quizId draws questions) :
    ∃ k, draws ≤ k ∧ k < draws + identifiers questions ∧ q.questionId = Runtime.uuid4 k := by
  induction questions generalizing draws with
  | nil => cases h
  | cons n questions ih =>
    simp only [identifiers, List.map_cons, List.sum_cons] at ih ⊢
    rcases List.mem_cons.mp h with rfl | h
    · exact ⟨draws, le_refl _, by omega, rfl⟩
    · obtain ⟨k, hlo, hhi, hk⟩ := ih h
      exact ⟨k, by omega, by omega, hk⟩

end Flush

namespace Db

def questionsOf (d : Db) (quizId : UUID) : List QuizQuestion :=
  d.questions.rows.filter fun q => q.quizId = quizId

/-- The relationship orders the questions by position, and a query returns their answers in any
order. -/
def selectQuestions (d : Db) (quizId : UUID) : List QuizQuestion :=
  ((Platform.arrange (d.questionsOf quizId)).insertionSort fun a b => a.position ≤ b.position).map
    fun q => { q with answers := Platform.arrange q.answers }

def insertQuiz (d : Db) (now : Time) (draws : ℕ) (q : NewQuiz) (newTags : List String) :
    Option Db :=
  (d.tags.insertAll newTags).bind fun tags =>
    (d.quizzes.insert (flushQuiz now draws q).quiz).bind fun quizzes =>
      (d.questions.insertAll (flushQuiz now draws q).questions).map fun questions =>
        ⟨quizzes, questions, tags⟩

/-- An `UPDATE` that finds no row is refused, a `DELETE` is not. -/
def commit (d : Db) (draws : ℕ) (c : Changes) : Except Exn Db :=
  match d.quizzes.get? c.quiz.loaded.quizId with
  | none => .error .staleDataError
  | some row =>
    if tagsClash c.quiz row then .error .integrityError
    else
      match d.tags.insertAll c.newTags,
        ((d.questions.remove fun q => q.questionId ∈ c.removed).insertAll
          (flushQuestions c.quiz.loaded.quizId draws c.added)) with
      | some tags, some questions =>
        .ok ⟨d.quizzes.modify c.quiz.loaded.quizId (Quiz.flush c.quiz) (Quiz.quizId_flush c.quiz),
          questions, tags⟩
      | _, _ => .error .integrityError

variable {d e : Db} {draws : ℕ}

structure Committed (d : Db) (draws : ℕ) (c : Changes) (e : Db) : Prop where
  found : (d.quizzes.get? c.quiz.loaded.quizId).isSome
  quizzes : e.quizzes = d.quizzes.modify c.quiz.loaded.quizId (Quiz.flush c.quiz)
    (Quiz.quizId_flush c.quiz)
  questions : e.questions.rows = (d.questions.rows.filter fun q => q.questionId ∉ c.removed) ++
    flushQuestions c.quiz.loaded.quizId draws c.added

lemma committed_of_commit {c : Changes} (h : d.commit draws c = .ok e) : Committed d draws c e := by
  simp only [commit] at h
  split at h
  · cases h
  case h_2 row hrow =>
    split_ifs at h
    split at h
    case h_1 tags questions htags hquestions =>
      cases h
      exact ⟨by simp [hrow], rfl, by simpa using Table.rows_insertAll hquestions⟩
    · cases h

structure Inserted (d : Db) (now : Time) (draws : ℕ) (q : NewQuiz) (e : Db) : Prop where
  fresh : Runtime.uuid4 draws ∉ d.quizzes.rows.map Quiz.quizId
  quizzes : e.quizzes.rows = d.quizzes.rows ++ [(flushQuiz now draws q).quiz]
  questions : e.questions.rows = d.questions.rows ++ (flushQuiz now draws q).questions

lemma inserted_of_insertQuiz {now : Time} {q : NewQuiz} {newTags : List String}
    (h : d.insertQuiz now draws q newTags = some e) : Inserted d now draws q e := by
  simp only [insertQuiz, Option.bind_eq_some_iff, Option.map_eq_some_iff] at h
  obtain ⟨tags, -, quizzes, hquizzes, questions, hquestions, rfl⟩ := h
  exact ⟨Table.fresh_of_insert hquizzes, Table.rows_insert hquizzes,
    Table.rows_insertAll hquestions⟩

omit [Platform] in
lemma questionsOf_of_rows {p : QuizQuestion → Bool} {added : List QuizQuestion} {quizId : UUID}
    (h : e.questions.rows = d.questions.rows.filter p ++ added) :
    e.questionsOf quizId = (d.questionsOf quizId).filter p ++ added.filter fun q =>
      q.quizId = quizId := by
  simp only [questionsOf, h, List.filter_append, List.filter_filter]
  congr 1
  exact List.filter_congr fun q _ => Bool.and_comm _ _

end Db

def exec {β : Type} : Op β → State → Except Exn β × State
  | .selectQuiz quizId, s => (.ok (s.db.quizzes.get? quizId), s)
  | .selectQuestions quizId, s => (.ok (s.db.selectQuestions quizId), s)
  | .selectTags quizId, s =>
    (.ok (Platform.arrange (((s.db.quizzes.get? quizId).map Quiz.tags).getD [])), s)
  | .selectTag name, s => (.ok (s.db.tags.get? name), s)
  | .now, s => (.ok s.now, s)
  | .flush, s => (.ok (), s)
  | .insertQuiz quiz newTags, s =>
    match s.db.insertQuiz s.now s.draws quiz newTags with
    | some db =>
      (.ok (flushQuiz s.now s.draws quiz),
        { s with db := db, draws := s.draws + 1 + identifiers quiz.questions })
    | none => (.error .integrityError, s)
  | .commit changes, s =>
    match s.db.commit s.draws changes with
    | .ok db =>
      (.ok (flushQuestions changes.quiz.loaded.quizId s.draws changes.added),
        { s with db := db, draws := s.draws + identifiers changes.added })
    | .error e => (.error e, s)

lemma exec_insertQuiz {s : State} {quiz : NewQuiz} {newTags : List String} {db : Db}
    (h : s.db.insertQuiz s.now s.draws quiz newTags = some db) :
    exec (.insertQuiz quiz newTags) s = (.ok (flushQuiz s.now s.draws quiz),
      { s with db := db, draws := s.draws + 1 + identifiers quiz.questions }) := by
  simp only [exec, h]

lemma exec_commit {s : State} {changes : Changes} {db : Db}
    (h : s.db.commit s.draws changes = .ok db) :
    exec (.commit changes) s =
      (.ok (flushQuestions changes.quiz.loaded.quizId s.draws changes.added),
      { s with db := db, draws := s.draws + identifiers changes.added }) := by
  simp only [exec, h]

end Askit.Quizzes

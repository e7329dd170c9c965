import Askit.Relational.Storing

/-! What has been stored fits, and what is refused for the widths alone. -/

namespace Askit.Relational

open Interleaving Coro Tables
open Game (UUID Time Runtime)
open Quizzes (Platform QuizAnswerCreate QuizQuestionCreate QuizCreate QuizUpdate QuizOut NewQuestion
  Exn Varchar Integer
  TagName newQuestions)

section Storing

variable [Platform]
variable {p q : Point Database World} {quizId userId questionId : UUID}

lemma fits_of_addAnswers {data : List QuizAnswerCreate} {answers : List QuizAnswer}
    (h : Yields (addAnswers questionId data) p answers q) : ∀ a ∈ data, Varchar 255 a.text := by
  induction data generalizing p q answers with
  | nil => exact List.forall_mem_nil _
  | cons data rest ih =>
    obtain ⟨answerId, r, hr, h⟩ := Yields.bind_iff.mp h
    obtain ⟨rfl, rfl⟩ := Yields.world_iff.mp hr
    obtain ⟨_, s, hs, h⟩ := Yields.bind_iff.mp h
    obtain ⟨d, hd, rfl⟩ := Yields.stage_iff.mp hs
    obtain ⟨more, t, ht, -⟩ := Yields.bind_iff.mp h
    exact List.forall_mem_cons.mpr ⟨(Sql.insertAnswer_ok_iff.mp ⟨d, hd⟩).1, ih ht⟩

lemma fits_of_addQuestions {data : List NewQuestion} {added : List LoadedQuestion}
    (h : Yields (addQuestions quizId data) p added q) : ∀ q ∈ data, NewQuestionFits q := by
  induction data generalizing p q added with
  | nil => exact List.forall_mem_nil _
  | cons data rest ih =>
    obtain ⟨id, r, hr, h⟩ := Yields.bind_iff.mp h
    obtain ⟨rfl, rfl⟩ := Yields.world_iff.mp hr
    obtain ⟨_, s, hs, h⟩ := Yields.bind_iff.mp h
    obtain ⟨d, hd, rfl⟩ := Yields.stage_iff.mp hs
    obtain ⟨answers, t, ht, h⟩ := Yields.bind_iff.mp h
    obtain ⟨more, u, hu, -⟩ := Yields.bind_iff.mp h
    obtain ⟨htext, hposition, htime⟩ := (Sql.insertQuestion_ok_iff.mp ⟨d, hd⟩).1
    exact List.forall_mem_cons.mpr ⟨⟨htext, hposition, htime, fits_of_addAnswers ht⟩, ih hu⟩

lemma fits_of_newQuiz {raw data : QuizCreate} {quiz : LoadedQuiz} (hdata : raw.validate = .ok data)
    (h : Yields (newQuiz userId data) p quiz q) :
    Integer data.settings.defaultTimePerQuestion ∧ QuestionsFit data.questions := by
  obtain ⟨-, -, -, -, hbounds⟩ := QuizCreate.of_validate hdata
  obtain ⟨tags, p₁, hp₁, h⟩ := Yields.bind_iff.mp h
  obtain ⟨questions, p₂, hp₂, h⟩ := Yields.bind_iff.mp h
  obtain ⟨now, p₃, hp₃, h⟩ := Yields.bind_iff.mp h
  obtain ⟨id, p₄, hp₄, h⟩ := Yields.bind_iff.mp h
  obtain ⟨_, p₅, hp₅, h⟩ := Yields.bind_iff.mp h
  obtain ⟨added, p₆, hp₆, -⟩ := Yields.bind_iff.mp h
  obtain ⟨hquestions, rfl⟩ := Yields.done_iff.mp hp₂
  obtain ⟨e, he, rfl⟩ := Yields.stage_iff.mp hp₅
  exact ⟨(Sql.insertQuiz_ok_iff.mp ⟨e, he⟩).1.2.2.1, (questionsFit_iff hquestions hbounds).mp
    (fits_of_addQuestions hp₆)⟩

lemma fits_of_replaceQuestions {loaded questions : List LoadedQuestion}
    {body : List QuizQuestionCreate} (hbounds : ∀ q ∈ body, q.inBounds)
    (h : Yields (replaceQuestions quizId loaded (some body)) p questions q) :
    QuestionsFit body := by
  obtain ⟨_, r, -, h⟩ := Yields.bind_iff.mp h
  obtain ⟨_, s, -, h⟩ := Yields.bind_iff.mp h
  obtain ⟨_, t, -, h⟩ := Yields.bind_iff.mp h
  obtain ⟨data, u, hu, hadded⟩ := Yields.bind_iff.mp h
  obtain ⟨hdata, rfl⟩ := Yields.done_iff.mp hu
  exact (questionsFit_iff hdata hbounds).mp (fits_of_addQuestions hadded)

lemma fits_of_editQuiz {raw data : QuizUpdate} {held : LoadedQuiz} (hdata : raw.validate = .ok data)
    (h : Yields (editQuiz quizId userId data) p held q) : UpdateFits data := by
  obtain ⟨-, -, -, -, hbounds⟩ := QuizUpdate.of_validate hdata
  obtain ⟨found, p₀, hp₀, h⟩ := Yields.bind_iff.mp h
  cases found with
  | none => exact (Yields.throw_iff.mp h).elim
  | some quiz =>
    obtain ⟨_, p₁, -, h⟩ := Yields.bind_iff.mp h
    obtain ⟨_, p₂, -, h⟩ := Yields.bind_iff.mp h
    obtain ⟨_, p₃, -, h⟩ := Yields.bind_iff.mp h
    obtain ⟨tags, p₄, -, h⟩ := Yields.bind_iff.mp h
    obtain ⟨_, p₅, hp₅, h⟩ := Yields.bind_iff.mp h
    obtain ⟨questions, p₆, hp₆, -⟩ := Yields.bind_iff.mp h
    obtain ⟨e, he, rfl⟩ := Yields.stage_iff.mp hp₅
    refine ⟨fun settings hs => ((Sql.updateQuiz_ok_iff.mp ⟨e, he⟩).1.2.2 settings hs).1,
      fun body hbody _ => ?_⟩
    have hgiven : data.questions = some body := hbody
    rw [hgiven] at hp₆
    exact fits_of_replaceQuestions (hbounds body hbody) hp₆

/-! Where the body is not refused for its questions, nothing else is refused as invalid. -/

omit [Platform] in
def Valid (e : Exn) : Prop := ∀ message, e ≠ .invalidQuizDataError message

section Raised

omit [Platform]

lemma valid_insertTag {name : String} : ∀ d e, Sql.insertTag name d = .error e → Valid e := by
  intro d e h
  unfold Sql.insertTag at h
  split_ifs at h <;> cases h <;> exact fun _ => (by simp)

lemma valid_insertQuiz {quiz : Quiz} : ∀ d e, Sql.insertQuiz quiz d = .error e → Valid e := by
  intro d e h
  unfold Sql.insertQuiz at h
  split_ifs at h <;> cases h <;> exact fun _ => (by simp)

lemma valid_updateQuiz {c : QuizSet} : ∀ d e, Sql.updateQuiz quizId c d = .error e → Valid e := by
  intro d e h
  unfold Sql.updateQuiz at h
  split_ifs at h <;> cases h <;> exact fun _ => (by simp)

lemma valid_insertQuestion {question : QuizQuestion} :
    ∀ d e, Sql.insertQuestion question d = .error e → Valid e := by
  intro d e h
  unfold Sql.insertQuestion at h
  split_ifs at h <;> cases h <;> exact fun _ => (by simp)

lemma valid_insertAnswer {answer : QuizAnswer} :
    ∀ d e, Sql.insertAnswer answer d = .error e → Valid e := by
  intro d e h
  unfold Sql.insertAnswer at h
  split_ifs at h <;> cases h <;> exact fun _ => (by simp)

lemma valid_insertQuizTag {link : QuizTag} :
    ∀ d e, Sql.insertQuizTag link d = .error e → Valid e := by
  intro d e h
  unfold Sql.insertQuizTag at h
  split_ifs at h
  cases h
  exact fun _ => (by simp)

lemma valid_deleteQuestions {gone : QuizQuestion → Bool} :
    ∀ d e, Sql.deleteQuestions gone d = .error e → Valid e := by
  intro d e h
  unfold Sql.deleteQuestions at h
  split_ifs at h
  cases h
  exact fun _ => (by simp)

lemma raises_getOrCreateTags (names : List String) : Raises Valid (getOrCreateTags names) := by
  induction names with
  | nil => exact .done_ok _
  | cons name names ih =>
    refine .bind (.perform trivial) fun tag => .bind ?_ fun _ => .bind ih fun _ => .done_ok _
    cases tag with
    | none => exact .perform valid_insertTag
    | some _ => exact .done_ok _

lemma raises_linkTags (tags : List String) : Raises Valid (linkTags quizId tags) := by
  induction tags with
  | nil => exact .done_ok _
  | cons tag tags ih => exact .bind (.perform valid_insertQuizTag) fun _ => ih

lemma raises_replaceTags (loaded : List String) (given : Option (List String)) :
    Raises Valid (replaceTags quizId loaded given) := by
  cases given with
  | none => exact .done_ok _
  | some names =>
    exact .bind (raises_getOrCreateTags names) fun _ =>
      .bind (.perform fun _ _ he => (by cases he)) fun _ =>
      .bind (raises_linkTags _) fun _ => .done_ok _

end Raised

lemma raises_addAnswers (data : List QuizAnswerCreate) :
    Raises Valid (addAnswers questionId data) := by
  induction data with
  | nil => exact .done_ok _
  | cons data rest ih =>
    exact .bind (.perform trivial) fun _ => .bind (.perform valid_insertAnswer) fun _ =>
      .bind ih fun _ => .done_ok _

lemma raises_addQuestions (data : List NewQuestion) : Raises Valid (addQuestions quizId data) := by
  induction data with
  | nil => exact .done_ok _
  | cons data rest ih =>
    exact .bind (.perform trivial) fun _ => .bind (.perform valid_insertQuestion) fun _ =>
      .bind (raises_addAnswers data.answers) fun _ => .bind ih fun _ => .done_ok _

omit [Platform] in
lemma raises_newQuestions {body : List QuizQuestionCreate} (h : Answerable body) :
    Raises Valid (Coro.done (newQuestions 1 body) : Handler (List NewQuestion)) := by
  obtain ⟨data, hdata⟩ := newQuestions_ok h 1
  rw [hdata]
  exact .done_ok _

lemma raises_commitQuiz (quiz : LoadedQuiz) : Raises Valid (commitQuiz quiz) := by
  refine .bind (.perform trivial) fun _ => .bind (.perform trivial) fun found => ?_
  cases found with
  | none => exact .done_error fun _ => (by simp)
  | some _ =>
    dsimp only
    unfold quizToResponse
    cases quiz.quiz.maxParticipants with
    | none => exact .done_error fun _ => (by simp)
    | some _ => exact .done_ok _

lemma raises_createQuiz {data : QuizCreate} (h : Answerable data.questions) :
    Raises Valid (createQuiz userId data) :=
  .bind (.bind (raises_getOrCreateTags _) fun _ => .bind (raises_newQuestions h) fun _ =>
    .bind (.perform trivial) fun _ =>
    .bind (.perform trivial) fun _ => .bind (.perform valid_insertQuiz) fun _ =>
      .bind (raises_addQuestions _) fun _ =>
    .bind (raises_linkTags _) fun _ => .done_ok _) raises_commitQuiz

lemma raises_replaceQuestions (loaded : List LoadedQuestion)
    {given : Option (List QuizQuestionCreate)} (h : ∀ body ∈ given, Answerable body) :
    Raises Valid (replaceQuestions quizId loaded given) := by
  cases given with
  | none => exact .done_ok _
  | some body =>
    exact .bind (.perform fun _ _ he => (by cases he)) fun _ =>
      .bind (.perform valid_deleteQuestions) fun _ =>
      .bind (.perform trivial) fun _ => .bind (raises_newQuestions (h body rfl)) fun _ =>
        raises_addQuestions _

lemma raises_updateQuiz {data : QuizUpdate} (h : ∀ body ∈ data.questions, Answerable body) :
    Raises Valid (updateQuiz quizId userId data) := by
  refine .bind (.bind (.perform trivial) fun found => ?_) raises_commitQuiz
  cases found with
  | none => exact .done_error fun _ => (by simp)
  | some quiz =>
    exact .bind (.require _ fun _ => (by simp)) fun _ =>
      .bind (.require _ fun _ => (by simp)) fun _ =>
      .bind (.perform valid_updateQuiz) fun _ => .bind (raises_replaceTags _ _) fun _ =>
      .bind (.perform valid_updateQuiz) fun _ => .bind (raises_replaceQuestions _ h) fun _ =>
      .bind (.perform trivial) fun _ => .bind (.perform valid_updateQuiz) fun _ => .done_ok _

end Storing

end Askit.Relational

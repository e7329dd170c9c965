import Askit.Relational.Updates

/-! `create_quiz` stores the quiz that its body describes. -/

namespace Askit.Relational

open Interleaving Coro Tables
open Game (UUID Time Runtime)
open Quizzes (Platform QuizCreate QuizQuestionCreate NewQuestion newQuestions)

/-- What the creation has made of the session and of the tables when it comes to its commit. -/
structure Created (userId : UUID) (data : QuizCreate) (quiz : LoadedQuiz) (d e : Database) :
    Prop where
  fields : ∃ now, quiz.quiz = ⟨quiz.quiz.quizId, userId, data.title, data.description,
    data.settings.defaultTimePerQuestion, data.settings.visibility, .draft,
    some data.settings.maxParticipants, now, now⟩
  row : e.quizzes.rows = d.quizzes.rows ++ [quiz.quiz]
  tags : e.tagsOf quiz.quiz.quizId = data.tags
  questions : e.body quiz.quiz.quizId = (List.range' 1 data.questions.length).zip data.questions

/-- The parts of the creation: `s` is where the quiz has been inserted, `t` where its questions
have. -/
structure Assembled (userId : UUID) (data : QuizCreate) (quiz : LoadedQuiz) (d : Database)
    (s t q : Point Database World) : Prop where
  fields : ∃ now, quiz.quiz = ⟨quiz.quiz.quizId, userId, data.title, data.description,
    data.settings.defaultTimePerQuestion, data.settings.visibility, .draft,
    some data.settings.maxParticipants, now, now⟩
  fresh : quiz.quiz.quizId ∉ d.quizzes.keys
  row : s.seen.quizzes.rows = d.quizzes.rows ++ [quiz.quiz]
  unchanged : s.seen.questions = d.questions ∧ s.seen.answers = d.answers ∧
    s.seen.quizTags = d.quizTags
  questions : ∃ questions, newQuestions 1 data.questions = .ok questions ∧
    QuestionsAdded quiz.quiz.quizId questions quiz.questions s t
  links : Linked quiz.quiz.quizId data.tags t q

variable {userId : UUID} {data : QuizCreate} {quiz : LoadedQuiz} {d : Database} {w : World}
  {s t q : Point Database World}

namespace Assembled

lemma tables (h : Assembled userId data quiz d s t q) : q.seen.quizzes = s.seen.quizzes ∧
    q.seen.questions = t.seen.questions ∧ q.seen.answers = t.seen.answers ∧
    t.seen.quizTags = d.quizTags := by
  obtain ⟨questions, -, hadded⟩ := h.questions
  rw [h.links.rows, ← h.unchanged.2.2]
  dsimp only
  rw [hadded.rows]
  exact ⟨rfl, rfl, rfl, rfl⟩

lemma created (h : Assembled userId data quiz d s t q) : Created userId data quiz d q.seen := by
  obtain ⟨hquizzes, hquestions, hanswers, hlinks⟩ := h.tables
  obtain ⟨questions, hbody, hadded⟩ := h.questions
  refine ⟨h.fields, ?_, ?_, ?_⟩
  · rw [hquizzes, h.row]
  · have hold : (d.quizTags.rows.filter fun l => l.quizId = quiz.quiz.quizId) = [] := by
      refine List.filter_eq_nil_iff.mpr fun l hl => ?_
      have hparent := d.intact.link_quiz l hl _ rfl
      rw [decide_eq_true_eq]
      exact fun heq => h.fresh (heq ▸ hparent)
    have hall : ((data.tags.map fun t => (⟨quiz.quiz.quizId, t⟩ : QuizTag)).filter fun l =>
      l.quizId = quiz.quiz.quizId) =
        data.tags.map fun t => ⟨quiz.quiz.quizId, t⟩ :=
      List.filter_eq_self.mpr fun l hl => by
        obtain ⟨t, -, rfl⟩ := List.mem_map.mp hl
        exact decide_eq_true rfl
    rw [Rows.tagsOf, h.links.links, hlinks, List.filter_append, hold, hall,
      List.nil_append, List.map_map]
    exact List.map_id _
  · have hnone : s.seen.questionsOf quiz.quiz.quizId = [] := by
      rw [Rows.questionsOf, h.unchanged.1]
      refine List.filter_eq_nil_iff.mpr fun r hr => ?_
      have hparent := d.intact.question_quiz r hr _ rfl
      rw [decide_eq_true_eq]
      exact fun heq => h.fresh (heq ▸ hparent)
    have hsame : q.seen.body quiz.quiz.quizId = t.seen.body quiz.quiz.quizId := by
      rw [Rows.body, Rows.questionsOf_congr hquestions]
      simp only [Rows.answersOf_congr hanswers]
      rfl
    exact hsame.trans (hadded.body hbody hnone)

lemma others (h : Assembled userId data quiz d s t q) {other : UUID}
    (hother : other ≠ quiz.quiz.quizId) :
    SameQuiz other d.toRows q.seen.toRows := by
  obtain ⟨hquizzes, hquestions, hanswers, hlinks⟩ := h.tables
  obtain ⟨questions, -, hadded⟩ := h.questions
  refine ⟨?_, ?_, fun r hr => ?_, ?_⟩
  · rw [hquizzes, Table.get?, h.row, List.find?_append, Table.get?]
    simp [hother.symm]
  · have hnone : (quiz.questions.map LoadedQuestion.question).filter
        (fun q => q.quizId = other) = [] :=
      List.filter_eq_nil_iff.mpr fun r hr => by
        obtain ⟨l, hl, rfl⟩ := List.mem_map.mp hr
        simpa [hadded.quiz l hl] using hother.symm
    rw [Rows.questionsOf, hquestions, hadded.questions, List.filter_append, hnone, List.append_nil,
      h.unchanged.1, Rows.questionsOf]
  · have hr' : r ∈ s.seen.questions.rows := h.unchanged.1 ▸ (Rows.mem_questionsOf.mp hr).1
    rw [Rows.answersOf_congr hanswers, hadded.answersOf_of_ne (Table.key_mem_keys hr'),
      Rows.answersOf_congr h.unchanged.2.1]
  · have hnone : (data.tags.map fun t => (⟨quiz.quiz.quizId, t⟩ : QuizTag)).filter
        (fun l => l.quizId = other) = [] :=
      List.filter_eq_nil_iff.mpr fun l hl => by
        obtain ⟨t, -, rfl⟩ := List.mem_map.mp hl
        simpa using hother.symm
    rw [Rows.tagsOf, h.links.links, hlinks, List.filter_append, hnone, List.append_nil, Rows.tagsOf]

end Assembled

variable [Platform]

lemma assembled_of_yields (h : Yields (newQuiz userId data) ⟨d, d, w⟩ quiz q) :
    ∃ s t, Assembled userId data quiz d s t q := by
  obtain ⟨tags, p₁, hp₁, h⟩ := Yields.bind_iff.mp h
  obtain ⟨questions, p₂, hp₂, h⟩ := Yields.bind_iff.mp h
  obtain ⟨now, p₃, hp₃, h⟩ := Yields.bind_iff.mp h
  obtain ⟨quizId, p₄, hp₄, h⟩ := Yields.bind_iff.mp h
  obtain ⟨_, p₅, hp₅, h⟩ := Yields.bind_iff.mp h
  obtain ⟨added, p₆, hp₆, h⟩ := Yields.bind_iff.mp h
  obtain ⟨_, p₇, hp₇, h⟩ := Yields.bind_iff.mp h
  obtain ⟨rfl, rfl⟩ := Yields.pure_iff.mp h
  obtain ⟨rfl, hmade⟩ := tagsMade_of_yields hp₁
  obtain ⟨hquestions, rfl⟩ := Yields.done_iff.mp hp₂
  obtain ⟨-, rfl⟩ := Yields.world_iff.mp hp₃
  obtain ⟨-, rfl⟩ := Yields.world_iff.mp hp₄
  obtain ⟨e, he, rfl⟩ := Yields.stage_iff.mp hp₅
  obtain ⟨hfresh, table, htable, hrows⟩ := Sql.eq_of_insertQuiz he
  have hmaderows := hmade.rows
  dsimp only at hfresh htable hrows hmaderows
  rw [hmaderows] at hfresh htable
  rw [hmaderows] at hrows
  refine ⟨_, p₆, ⟨_, rfl⟩, hfresh, ?_, ?_, ⟨questions, hquestions, questionsAdded_of_yields hp₆⟩,
    linked_of_yields hp₇⟩
  · dsimp only
    rw [hrows]
    exact htable
  · dsimp only
    rw [hrows]
    exact ⟨rfl, rfl, rfl⟩

lemma created_of_yields (h : Yields (newQuiz userId data) ⟨d, d, w⟩ quiz q) :
    Created userId data quiz d q.seen := by
  obtain ⟨s, t, hassembled⟩ := assembled_of_yields h
  exact hassembled.created

lemma found_of_newQuiz (quiz : LoadedQuiz) (q : Point Database World)
    (h : Yields (newQuiz userId data) ⟨d, d, w⟩ quiz q) :
    (q.seen.quizzes.get? quiz.quiz.quizId).isSome := by
  rw [Table.isSome_get?, Table.keys, (created_of_yields h).row]
  simp

end Askit.Relational

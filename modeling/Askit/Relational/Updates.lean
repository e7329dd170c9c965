import Askit.Quizzes.Edits
import Askit.Relational.Effects

/-! `update_quiz` changes all that its body gives, or nothing. -/

namespace Askit.Relational

open Interleaving Coro Tables
open Game (UUID Time Runtime GameSession)
open Quizzes (Platform QuizAnswerCreate QuizQuestionCreate QuizSettingsCreate QuizUpdate NewQuestion
  Exn newQuestions)

namespace Rows

/-- A question as a body would give it, with its position. -/
def body (d : Rows) (quizId : UUID) : List (ℕ × QuizQuestionCreate) :=
  (d.questionsOf quizId).map fun q => (q.position, ⟨q.text, q.timeLimit, q.allowMultipleAnswers,
    (d.answersOf q.questionId).map fun a => ⟨a.text, a.isCorrect⟩⟩)

end Rows

structure FieldsUpdated (data : QuizUpdate) (old new : Quiz) : Prop where
  title : new.title = data.title.getD old.title
  description : new.description = data.description.or old.description
  default_time : new.defaultTimePerQuestion =
    (data.settings.map QuizSettingsCreate.defaultTimePerQuestion).getD old.defaultTimePerQuestion
  visibility : new.visibility = (data.settings.map QuizSettingsCreate.visibility).getD
    old.visibility
  max_participants : new.maxParticipants =
    (data.settings.map QuizSettingsCreate.maxParticipants).or old.maxParticipants
  status : new.status = old.status
  creator : new.creatorId = old.creatorId
  created_at : new.createdAt = old.createdAt

structure SameQuiz (quizId : UUID) (d e : Rows) : Prop where
  fields : e.quizzes.get? quizId = d.quizzes.get? quizId
  questions : e.questionsOf quizId = d.questionsOf quizId
  answers : ∀ q ∈ d.questionsOf quizId, e.answersOf q.questionId = d.answersOf q.questionId
  tags : e.tagsOf quizId = d.tagsOf quizId

structure Updated (quizId : UUID) (data : QuizUpdate) (d e : Rows) : Prop where
  fields : ∃ old new, d.quizzes.get? quizId = some old ∧ e.quizzes.get? quizId = some new ∧
    FieldsUpdated data old new
  questions : ∀ questions, data.questions = some questions →
    e.body quizId = (List.range' 1 questions.length).zip questions
  questions_kept : data.questions = none → e.questionsOf quizId = d.questionsOf quizId ∧
    ∀ q ∈ d.questionsOf quizId, e.answersOf q.questionId = d.answersOf q.questionId
  tags : ∀ tags, data.tags = some tags → ∀ t, t ∈ e.tagsOf quizId ↔ t ∈ tags
  tags_kept : data.tags = none → e.tagsOf quizId = d.tagsOf quizId
  favorites : e.favorites = d.favorites
  others : ∀ other, other ≠ quizId → SameQuiz other d e

section Loaded

variable {d : Rows} {quizId : UUID}

namespace Rows

lemma questionsOf_congr {e : Rows} (h : e.questions = d.questions) (id : UUID) :
    e.questionsOf id = d.questionsOf id := by rw [questionsOf, h, questionsOf]

lemma answersOf_congr {e : Rows} (h : e.answers = d.answers) (id : UUID) :
    e.answersOf id = d.answersOf id := by
  rw [answersOf, h, answersOf]

lemma tagsOf_congr {e : Rows} (h : e.quizTags = d.quizTags) (id : UUID) :
    e.tagsOf id = d.tagsOf id := by
  rw [tagsOf, h, tagsOf]

lemma mem_questionsOf {q : QuizQuestion} : q ∈ d.questionsOf quizId ↔ q ∈ d.questions.rows ∧
    q.quizId = quizId := by
  simp [questionsOf]

lemma mem_answersOf {questionId : UUID} {a : QuizAnswer} :
    a ∈ d.answersOf questionId ↔ a ∈ d.answers.rows ∧ a.questionId = questionId := by
  simp [answersOf]

lemma mem_tagsOf {t : String} : t ∈ d.tagsOf quizId ↔ ⟨quizId, t⟩ ∈ d.quizTags.rows := by
  simp only [tagsOf, List.mem_map, List.mem_filter, decide_eq_true_eq]
  constructor
  · rintro ⟨l, ⟨hl, rfl⟩, rfl⟩
    exact hl
  · exact fun h => ⟨_, ⟨h, rfl⟩, rfl⟩

variable [Platform]

lemma mem_loadQuestions {l : LoadedQuestion} :
    l ∈ d.loadQuestions quizId ↔ ∃ q ∈ d.questionsOf quizId, l = d.loadQuestion q := by
  simp only [loadQuestions, List.mem_map]
  constructor
  · rintro ⟨q, hq, rfl⟩
    exact ⟨q, (Platform.arrange_perm _).mem_iff.mp
      ((List.perm_insertionSort _ _).mem_iff.mp hq), rfl⟩
  · rintro ⟨q, hq, rfl⟩
    exact ⟨q, (List.perm_insertionSort _ _).mem_iff.mpr
      ((Platform.arrange_perm _).mem_iff.mpr hq), rfl⟩

lemma mem_loadedAnswers {a : QuizAnswer} (ha : a ∈ d.answers.rows) :
    (∃ l ∈ d.loadQuestions quizId, a.answerId ∈ l.answers.map QuizAnswer.answerId) ↔
      ∃ q ∈ d.questionsOf quizId, a.questionId = q.questionId := by
  constructor
  · rintro ⟨l, hl, hmem⟩
    obtain ⟨q, hq, rfl⟩ := mem_loadQuestions.mp hl
    obtain ⟨b, hb, hid⟩ := List.mem_map.mp hmem
    obtain ⟨hb, hquestion⟩ := mem_answersOf.mp ((Platform.arrange_perm _).mem_iff.mp hb)
    obtain rfl := List.inj_on_of_nodup_map d.answers.unique hb ha hid
    exact ⟨q, hq, hquestion⟩
  · rintro ⟨q, hq, hquestion⟩
    refine ⟨_, mem_loadQuestions.mpr ⟨q, hq, rfl⟩, List.mem_map_of_mem ?_⟩
    exact (Platform.arrange_perm _).mem_iff.mpr (mem_answersOf.mpr ⟨ha, hquestion⟩)

lemma mem_loadedQuestions {q : QuizQuestion} (hq : q ∈ d.questions.rows) :
    q.questionId ∈ (d.loadQuestions quizId).map (fun l => l.question.questionId) ↔
    q.quizId = quizId := by
  rw [List.mem_map]
  constructor
  · rintro ⟨l, hl, hid⟩
    obtain ⟨r, hr, rfl⟩ := mem_loadQuestions.mp hl
    obtain ⟨hr, hquiz⟩ := mem_questionsOf.mp hr
    obtain rfl := List.inj_on_of_nodup_map d.questions.unique hr hq hid
    exact hquiz
  · exact fun h => ⟨_, mem_loadQuestions.mpr ⟨q, mem_questionsOf.mpr ⟨hq, h⟩, rfl⟩, rfl⟩

end Rows

end Loaded

section Update

variable [Platform] {quizId userId : UUID} {p q : Point Database World}

structure TagsReplaced (quizId : UUID) (loaded : List String) (given : Option (List String))
    (tags : List String) (p q : Point Database World) : Prop where
  tags : tags = given.getD loaded
  committed : q.committed = p.committed
  rows : q.seen.toRows = { p.seen.toRows with tags := q.seen.tags, quizTags := q.seen.quizTags }
  links : ∀ names, given = some names → q.seen.quizTags.rows =
    (p.seen.quizTags.rows.filter fun l => !decide (l.quizId = quizId ∧ l.tag ∈ loaded ∧
      l.tag ∉ names)) ++
      (names.filter (· ∉ loaded)).map fun t => ⟨quizId, t⟩
  kept : given = none → q = p

omit [Platform] in
lemma tagsReplaced_of_yields {loaded tags : List String} {given : Option (List String)}
    (h : Yields (replaceTags quizId loaded given) p tags q) :
    TagsReplaced quizId loaded given tags p q := by
  cases given with
  | none =>
    obtain ⟨rfl, rfl⟩ := Yields.pure_iff.mp h
    exact ⟨rfl, rfl, rfl, fun names h => (by cases h), fun _ => rfl⟩
  | some names =>
    obtain ⟨made, r, hr, h⟩ := Yields.bind_iff.mp h
    obtain ⟨_, s, hs, h⟩ := Yields.bind_iff.mp h
    obtain ⟨_, t, ht, h⟩ := Yields.bind_iff.mp h
    obtain ⟨rfl, rfl⟩ := Yields.pure_iff.mp h
    obtain ⟨rfl, hmade⟩ := tagsMade_of_yields hr
    obtain ⟨d, hd, rfl⟩ := Yields.stage_iff.mp hs
    cases hd
    have hlinked := linked_of_yields ht
    refine ⟨rfl, hlinked.committed.trans hmade.committed, ?_, ?_, fun h => (by cases h)⟩
    · have htags := congrArg Rows.tags hlinked.rows
      dsimp only at htags
      refine hlinked.rows.trans ?_
      rw [htags]
      dsimp only
      rw [hmade.rows]
    · intro names h
      obtain rfl := Option.some.inj h
      have hold := congrArg Rows.quizTags hmade.rows
      dsimp only at hold
      rw [hlinked.links]
      dsimp only
      rw [Table.rows_remove, hold]

structure QuestionsReplaced (quizId : UUID) (loaded : List LoadedQuestion)
    (given : Option (List QuizQuestionCreate)) (questions : List LoadedQuestion)
    (p q : Point Database World) : Prop where
  committed : q.committed = p.committed
  rows : q.seen.toRows = { p.seen.toRows with
    questions := q.seen.questions, answers := q.seen.answers, records := q.seen.records }
  added : ∀ body, given = some body → ∃ data r, newQuestions 1 body = .ok data ∧
    QuestionsAdded quizId data questions r q ∧
    r.seen.questions.rows = (p.seen.questions.rows.filter fun q =>
      !decide (q.questionId ∈ loaded.map fun l => l.question.questionId)) ∧
    r.seen.answers.rows = p.seen.answers.rows.filter fun a =>
      !decide (∃ l ∈ loaded, a.answerId ∈ l.answers.map QuizAnswer.answerId)
  kept : given = none → questions = loaded ∧ q = p

lemma questionsReplaced_of_yields {loaded questions : List LoadedQuestion}
    {given : Option (List QuizQuestionCreate)}
    (h : Yields (replaceQuestions quizId loaded given) p questions q) :
    QuestionsReplaced quizId loaded given questions p q := by
  cases given with
  | none =>
    obtain ⟨rfl, rfl⟩ := Yields.pure_iff.mp h
    exact ⟨rfl, rfl, fun body h => (by cases h), fun _ => ⟨rfl, rfl⟩⟩
  | some body =>
    obtain ⟨_, r, hr, h⟩ := Yields.bind_iff.mp h
    obtain ⟨_, s, hs, h⟩ := Yields.bind_iff.mp h
    obtain ⟨_, t, ht, h⟩ := Yields.bind_iff.mp h
    obtain ⟨data, u, hu, h⟩ := Yields.bind_iff.mp h
    obtain ⟨d, hd, rfl⟩ := Yields.stage_iff.mp hr
    cases hd
    obtain ⟨e, he, rfl⟩ := Yields.stage_iff.mp hs
    obtain rfl := Yields.flush_iff.mp ht
    obtain ⟨hdata, rfl⟩ := Yields.done_iff.mp hu
    have hrows := Sql.eq_of_deleteQuestions he
    have hadded := questionsAdded_of_yields h
    refine ⟨hadded.committed, ?_, ?_, fun h => (by cases h)⟩
    · have hrecords := congrArg Rows.records hadded.rows
      dsimp only at hrecords
      refine hadded.rows.trans ?_
      rw [hrecords]
      dsimp only
      rw [hrows]
    · intro other h
      obtain rfl := Option.some.inj h
      exact ⟨data, _, hdata, hadded, congrArg (fun t : Rows => t.questions.rows) hrows,
        congrArg (fun t : Rows => t.answers.rows) hrows⟩

section Added

variable {data : List NewQuestion} {added : List LoadedQuestion}

omit [Platform] in
lemma QuestionsAdded.ids (h : QuestionsAdded quizId data added p q) :
    (added.map fun l => l.question.questionId).Nodup ∧
      ∀ l ∈ added, l.question.questionId ∉ p.seen.questions.keys := by
  have hunique := q.seen.questions.unique
  rw [h.questions, List.map_append, List.nodup_append, List.map_map] at hunique
  obtain ⟨-, hadded, hfresh⟩ := hunique
  exact ⟨hadded, fun l hl hold => hfresh _ hold _ (List.mem_map_of_mem hl) rfl⟩

omit [Platform] in
lemma QuestionsAdded.answersOf (h : QuestionsAdded quizId data added p q) {l : LoadedQuestion}
    (hl : l ∈ added) :
    q.seen.answersOf l.question.questionId = l.answers := by
  have hold : (p.seen.answers.rows.filter fun a => decide (a.questionId = l.question.questionId)) =
      [] := by
    refine List.filter_eq_nil_iff.mpr fun a ha => ?_
    have hparent := p.seen.intact.answer_question a ha _ rfl
    rw [decide_eq_true_eq]
    exact fun heq => h.ids.2 l hl (heq ▸ hparent)
  rw [Rows.answersOf, h.answers, List.filter_append, hold, List.nil_append]
  exact filter_children (g := fun l => l.question.questionId) h.ids.1 h.question hl

omit [Platform] in
lemma QuestionsAdded.answersOf_of_ne (h : QuestionsAdded quizId data added p q)
    {questionId : UUID} (hold : questionId ∈ p.seen.questions.keys) :
    q.seen.answersOf questionId = p.seen.answersOf questionId := by
  have hne : questionId ∉ added.map fun l => l.question.questionId := by
    intro hmem
    obtain ⟨l, hl, rfl⟩ := List.mem_map.mp hmem
    exact h.ids.2 l hl hold
  rw [Rows.answersOf, h.answers, List.filter_append, filter_children_of_notMem h.question hne,
    List.append_nil]
  rfl

omit [Platform] in
lemma QuestionsAdded.questionsOf (h : QuestionsAdded quizId data added p q)
    (hnone : p.seen.questionsOf quizId = []) :
    q.seen.questionsOf quizId = added.map LoadedQuestion.question := by
  have hall : (added.map LoadedQuestion.question).filter (fun q => q.quizId = quizId) =
      added.map LoadedQuestion.question :=
    List.filter_eq_self.mpr fun r hr => by
      obtain ⟨l, hl, rfl⟩ := List.mem_map.mp hr
      exact decide_eq_true (h.quiz l hl)
  have hold : (p.seen.questions.rows.filter fun q => q.quizId = quizId) = [] := hnone
  rw [Rows.questionsOf, h.questions, List.filter_append, hold, hall, List.nil_append]

omit [Platform] in
lemma QuestionsAdded.body {questions : List QuizQuestionCreate}
    (h : QuestionsAdded quizId data added p q) (hdata : newQuestions 1 questions = .ok data)
    (hnone : p.seen.questionsOf quizId = []) :
    q.seen.body quizId = (List.range' 1 questions.length).zip questions := by
  obtain ⟨hpositions, hcontent, -⟩ := Quizzes.Edits.newQuestions_eq_ok hdata
  have hbody : q.seen.body quizId = added.map fun l => (l.question.position, l.content) := by
    rw [Rows.body, h.questionsOf hnone, List.map_map]
    refine List.map_congr_left fun l hl => ?_
    simp only [Function.comp_apply, h.answersOf hl, LoadedQuestion.content]
  rw [hbody, ← hpositions, ← h.positions, ← hcontent, ← h.content, List.zip_map']

end Added

section Replaced

variable {d : Database} {body : List QuizQuestionCreate}

structure Replaced (quizId : UUID) (body : List QuizQuestionCreate) (d e : Rows) : Prop where
  body : e.body quizId = (List.range' 1 body.length).zip body
  questions : ∀ other, other ≠ quizId → e.questionsOf other = d.questionsOf other
  answers : ∀ r ∈ d.questions.rows, r.quizId ≠ quizId →
    e.answersOf r.questionId = d.answersOf r.questionId

structure QuestionsDeleted (quizId : UUID) (d e : Rows) : Prop where
  questions : e.questions.rows = d.questions.rows.filter fun q => q.quizId ≠ quizId
  answers : e.answers.rows = d.answers.rows.filter fun a => ¬∃ q ∈ d.questionsOf quizId,
    a.questionId = q.questionId

lemma questionsDeleted {e : Rows}
    (hquestions : e.questions.rows = d.questions.rows.filter fun q =>
      !decide (q.questionId ∈ (d.loadQuestions quizId).map fun l => l.question.questionId))
    (hanswers : e.answers.rows = d.answers.rows.filter fun a =>
      !decide (∃ l ∈ d.loadQuestions quizId, a.answerId ∈ l.answers.map QuizAnswer.answerId)) :
    QuestionsDeleted quizId d.toRows e := by
  constructor
  · rw [hquestions]
    refine List.filter_congr fun r hr => ?_
    simp only [Rows.mem_loadedQuestions hr, ne_eq, decide_not]
  · rw [hanswers]
    refine List.filter_congr fun a ha => ?_
    simp only [Rows.mem_loadedAnswers ha, decide_not]

omit [Platform] in
lemma QuestionsDeleted.questionsOf {e : Rows} (h : QuestionsDeleted quizId d.toRows e) :
    e.questionsOf quizId = [] := by
  rw [Rows.questionsOf, h.questions, List.filter_filter]
  exact List.filter_eq_nil_iff.mpr fun r _ => by simp

omit [Platform] in
lemma QuestionsDeleted.answersOf {e : Rows} (h : QuestionsDeleted quizId d.toRows e)
    {r : QuizQuestion} (hr : r ∈ d.questions.rows) (hne : r.quizId ≠ quizId) :
    e.answersOf r.questionId = d.answersOf r.questionId := by
  rw [Rows.answersOf, h.answers, List.filter_filter]
  refine List.filter_congr fun a ha => ?_
  have hother : a.questionId = r.questionId → ¬∃ q ∈ d.questionsOf quizId,
      a.questionId = q.questionId := by
    rintro hq ⟨s, hs, hsq⟩
    obtain ⟨hs, hquiz⟩ := Rows.mem_questionsOf.mp hs
    obtain rfl := List.inj_on_of_nodup_map d.questions.unique hs hr (hsq.symm.trans hq)
    exact hne hquiz
  by_cases hq : a.questionId = r.questionId
  · simp only [hq, decide_true, Bool.true_and]
    simpa [hq] using hother hq
  · simp [hq]

omit [Platform] in
lemma replaced_of_added {data : List NewQuestion} {added : List LoadedQuestion}
    (h : QuestionsAdded quizId data added p q) (hdata : newQuestions 1 body = .ok data)
    (hdeleted : QuestionsDeleted quizId d.toRows p.seen.toRows) :
    Replaced quizId body d.toRows q.seen.toRows := by
  constructor
  · exact h.body hdata hdeleted.questionsOf
  · intro other hother
    have hadded : (added.map LoadedQuestion.question).filter (fun q => q.quizId = other) = [] :=
      List.filter_eq_nil_iff.mpr fun r hr => by
        obtain ⟨l, hl, rfl⟩ := List.mem_map.mp hr
        simpa [h.quiz l hl] using hother.symm
    rw [Rows.questionsOf, h.questions, List.filter_append, hadded, List.append_nil,
      hdeleted.questions, List.filter_filter]
    exact List.filter_congr fun r _ => by grind
  · intro r hr hne
    have hr' : r ∈ p.seen.questions.rows := by rw [hdeleted.questions]; simp [hr, hne]
    rw [h.answersOf_of_ne (Table.key_mem_keys hr'), hdeleted.answersOf hr hne]

end Replaced

omit [Platform] in
lemma linksOf_replaced {loaded : List String} {names : List String} {tags : List String}
    (h : TagsReplaced quizId loaded (some names) tags p q)
    (hloaded : ∀ t, t ∈ loaded ↔ t ∈ p.seen.tagsOf quizId) (t : String) :
    t ∈ q.seen.tagsOf quizId ↔ t ∈ names := by
  rw [Rows.mem_tagsOf, h.links names rfl]
  simp only [List.mem_append, List.mem_filter, List.mem_map, QuizTag.mk.injEq, hloaded,
    Rows.mem_tagsOf]
  by_cases hold : (⟨quizId, t⟩ : QuizTag) ∈ p.seen.quizTags.rows
  · simp [hold]
  · simp [hold]

omit [Platform] in
lemma linksOf_other {loaded tags : List String} {given : Option (List String)}
    (h : TagsReplaced quizId loaded given tags p q) {other : UUID} (hother : other ≠ quizId) :
    q.seen.tagsOf other = p.seen.tagsOf other := by
  cases given with
  | none => rw [h.kept rfl]
  | some names =>
    have hadded : ((names.filter (· ∉ loaded)).map fun t => (⟨quizId, t⟩ : QuizTag)).filter
        (fun l => l.quizId = other) = [] :=
      List.filter_eq_nil_iff.mpr fun l hl => by
        obtain ⟨t, -, rfl⟩ := List.mem_map.mp hl
        simpa using hother.symm
    rw [Rows.tagsOf, h.links names rfl, List.filter_append, hadded, List.append_nil,
      List.filter_filter, Rows.tagsOf]
    congr 1
    exact List.filter_congr fun l _ => by grind

/-- What the edits of an update have made of the session and of the tables when it comes to its
commit. -/
structure Edited (quizId userId : UUID) (data : QuizUpdate) (quiz : LoadedQuiz) (d e : Database) :
    Prop where
  fields : ∃ old now, d.quizzes.get? quizId = some old ∧ old.creatorId = userId ∧
    quiz.quiz = QuizSet.apply ⟨data.title, data.description, data.settings, none, some now⟩ old
  row : e.quizzes.get? quizId = some quiz.quiz
  others : ∀ other, other ≠ quizId → e.quizzes.get? other = d.quizzes.get? other
  tags : ∃ p q, TagsReplaced quizId (Platform.arrange (d.tagsOf quizId)) data.tags quiz.tags p q ∧
    p.seen.quizTags = d.quizTags ∧ e.quizTags = q.seen.quizTags
  questions : ∃ p q, QuestionsReplaced quizId (d.loadQuestions quizId) data.questions
    quiz.questions p q ∧
    p.seen.questions = d.questions ∧ p.seen.answers = d.answers ∧ e.questions = q.seen.questions ∧
      e.answers = q.seen.answers
  favorites : e.favorites = d.favorites

lemma edited_of_yields {data : QuizUpdate} {d : Database} {w : World} {quiz : LoadedQuiz}
    (h : Yields (editQuiz quizId userId data) ⟨d, d, w⟩ quiz q) :
    Edited quizId userId data quiz d q.seen := by
  obtain ⟨found, p, hp, h⟩ := Yields.bind_iff.mp h
  obtain ⟨hfound, rfl⟩ := Yields.select_iff.mp hp
  subst hfound
  cases hquiz : d.quizzes.get? quizId with
  | none =>
    simp only [Rows.fetchQuiz, hquiz, Option.map_none] at h
    exact (Yields.throw_iff.mp h).elim
  | some old =>
    simp only [Rows.fetchQuiz, hquiz, Option.map_some] at h
    obtain ⟨_, p, hp, h⟩ := Yields.bind_iff.mp h
    obtain ⟨hcreator, rfl⟩ := Yields.require_iff.mp hp
    obtain ⟨_, p, hp, h⟩ := Yields.bind_iff.mp h
    obtain ⟨-, rfl⟩ := Yields.require_iff.mp hp
    obtain ⟨_, p₁, hp₁, h⟩ := Yields.bind_iff.mp h
    obtain ⟨tags, p₂, hp₂, h⟩ := Yields.bind_iff.mp h
    obtain ⟨_, p₃, hp₃, h⟩ := Yields.bind_iff.mp h
    obtain ⟨questions, p₄, hp₄, h⟩ := Yields.bind_iff.mp h
    obtain ⟨now, p₅, hp₅, h⟩ := Yields.bind_iff.mp h
    obtain ⟨_, p₆, hp₆, h⟩ := Yields.bind_iff.mp h
    obtain ⟨rfl, rfl⟩ := Yields.pure_iff.mp h
    obtain ⟨d₁, hd₁, rfl⟩ := Yields.stage_iff.mp hp₁
    obtain ⟨d₃, hd₃, rfl⟩ := Yields.stage_iff.mp hp₃
    obtain ⟨rfl, rfl⟩ := Yields.world_iff.mp hp₅
    obtain ⟨d₆, hd₆, rfl⟩ := Yields.stage_iff.mp hp₆
    have hid : old.quizId = quizId := Table.key_get? hquiz
    have h₁ := Sql.quizUpdated_of_ok hd₁
    have h₂ := tagsReplaced_of_yields hp₂
    have h₃ := Sql.quizUpdated_of_ok hd₃
    have h₄ := questionsReplaced_of_yields hp₄
    have h₆ := Sql.quizUpdated_of_ok hd₆
    simp only [Rows.load, hid] at h₂ h₄
    have hquizzes₂ : p₂.seen.quizzes = d₁.quizzes := by rw [h₂.rows]
    have hquizzes₄ : p₄.seen.quizzes = d₃.quizzes := by rw [h₄.rows]
    refine ⟨⟨old, _, hquiz, hcreator, rfl⟩, ?_, fun other hother => ?_, ⟨_, _, h₂, h₁.quizTags, ?_⟩,
      ⟨_, _, h₄, ?_, ?_, h₆.questions, h₆.answers⟩, ?_⟩
    · rw [h₆.quizzes, Table.get?_modify_self, hquizzes₄, h₃.quizzes, Table.get?_modify_self,
        hquizzes₂, h₁.quizzes, Table.get?_modify_self, hquiz]
      rfl
    · rw [h₆.quizzes, Table.get?_modify_of_ne _ _ _ hother, hquizzes₄, h₃.quizzes,
        Table.get?_modify_of_ne _ _ _ hother, hquizzes₂, h₁.quizzes,
        Table.get?_modify_of_ne _ _ _ hother]
    · rw [h₆.quizTags, h₄.rows, ← h₃.quizTags]
    · rw [h₃.questions, ← h₁.questions, h₂.rows]
    · rw [h₃.answers, ← h₁.answers, h₂.rows]
    · rw [h₆.favorites, ← h₁.favorites, h₄.rows]
      dsimp only
      rw [h₃.favorites, h₂.rows]

section Edited

variable {data : QuizUpdate} {quiz : LoadedQuiz} {d e : Database}

lemma Edited.id_eq (h : Edited quizId userId data quiz d e) : quiz.quiz.quizId = quizId :=
  Table.key_get? h.row

lemma Edited.replaced (h : Edited quizId userId data quiz d e) {body : List QuizQuestionCreate}
    (hbody : data.questions = some body) : Replaced quizId body d.toRows e.toRows := by
  obtain ⟨p, q, hreplaced, hquestions, hanswers, hq, ha⟩ := h.questions
  obtain ⟨rows, r, hrows, hadded, hkept, hremaining⟩ := hreplaced.added body hbody
  rw [hquestions] at hkept
  rw [hanswers] at hremaining
  have hall := replaced_of_added hadded hrows (questionsDeleted hkept hremaining)
  refine ⟨?_, fun other hother => ?_, fun r hr hne => ?_⟩
  · rw [← hall.body, Rows.body, Rows.body, Rows.questionsOf_congr hq]
    simp only [Rows.answersOf_congr ha]
  · exact (Rows.questionsOf_congr hq other).trans (hall.questions other hother)
  · exact (Rows.answersOf_congr ha _).trans (hall.answers r hr hne)

lemma Edited.questions_kept (h : Edited quizId userId data quiz d e)
    (hnone : data.questions = none) :
    quiz.questions = d.loadQuestions quizId ∧ e.questions = d.questions ∧
    e.answers = d.answers := by
  obtain ⟨p, q, hreplaced, hquestions, hanswers, hq, ha⟩ := h.questions
  obtain ⟨hheld, rfl⟩ := hreplaced.kept hnone
  exact ⟨hheld, hq.trans hquestions, ha.trans hanswers⟩

lemma Edited.tags_given (h : Edited quizId userId data quiz d e) {names : List String}
    (hnames : data.tags = some names) : quiz.tags = names ∧ ∀ t, t ∈ e.tagsOf quizId ↔
    t ∈ names := by
  obtain ⟨p, q, hreplaced, hold, hnew⟩ := h.tags
  rw [hnames] at hreplaced
  refine ⟨hreplaced.tags, fun t => ?_⟩
  rw [Rows.tagsOf_congr hnew]
  refine linksOf_replaced hreplaced (fun t => ?_) t
  rw [(Platform.arrange_perm _).mem_iff, Rows.tagsOf_congr hold]

lemma Edited.tags_kept (h : Edited quizId userId data quiz d e) (hnone : data.tags = none) :
    quiz.tags = Platform.arrange (d.tagsOf quizId) ∧ e.quizTags = d.quizTags := by
  obtain ⟨p, q, hreplaced, hold, hnew⟩ := h.tags
  obtain rfl := hreplaced.kept hnone
  refine ⟨?_, hnew.trans hold⟩
  rw [hreplaced.tags, hnone]
  rfl

lemma Edited.updated (h : Edited quizId userId data quiz d e) :
    Updated quizId data d.toRows e.toRows := by
  obtain ⟨old, now, hold, -, hnew⟩ := h.fields
  have hrow := h.row
  rw [hnew] at hrow
  refine ⟨⟨old, _, hold, hrow, ⟨rfl, rfl, rfl, rfl, rfl, rfl, rfl, rfl⟩⟩, fun body hbody =>
    (h.replaced hbody).body,
    fun hnone => ?_, fun names hnames => (h.tags_given hnames).2,
    fun hnone => Rows.tagsOf_congr (h.tags_kept hnone).2 _, h.favorites, fun other hother => ?_⟩
  · obtain ⟨-, hquestions, hanswers⟩ := h.questions_kept hnone
    exact ⟨Rows.questionsOf_congr hquestions _, fun r _ => Rows.answersOf_congr hanswers _⟩
  · have htags : e.tagsOf other = d.tagsOf other := by
      obtain ⟨p, q, hreplaced, hlinks, hq⟩ := h.tags
      rw [Rows.tagsOf_congr hq, linksOf_other hreplaced hother, Rows.tagsOf_congr hlinks]
    cases hgiven : data.questions with
    | none =>
      obtain ⟨-, hquestions, hanswers⟩ := h.questions_kept hgiven
      exact ⟨h.others other hother, Rows.questionsOf_congr hquestions _,
        fun r _ => Rows.answersOf_congr hanswers _, htags⟩
    | some body =>
      have hreplaced := h.replaced hgiven
      refine ⟨h.others other hother, hreplaced.questions other hother, fun r hr => ?_, htags⟩
      obtain ⟨hr, hof⟩ := Rows.mem_questionsOf.mp hr
      exact hreplaced.answers r hr (hof ▸ hother)

end Edited

omit [Platform] in
lemma uncommitted_replaceTags (loaded : List String) (given : Option (List String)) :
    Uncommitted (replaceTags quizId loaded given) := by
  cases given with
  | none => exact .done _
  | some names =>
    exact .bind (uncommitted_getOrCreateTags names) fun _ => .bind (.perform trivial) fun _ =>
      .bind (uncommitted_linkTags quizId _) fun _ => .done _

lemma uncommitted_replaceQuestions (loaded : List LoadedQuestion)
    (given : Option (List QuizQuestionCreate)) :
    Uncommitted (replaceQuestions quizId loaded given) := by
  cases given with
  | none => exact .done _
  | some body =>
    exact .bind (.perform trivial) fun _ => .bind (.perform trivial) fun _ =>
      .bind (.perform trivial) fun _ =>
      .bind (.done _) fun _ => uncommitted_addQuestions quizId _

lemma uncommitted_editQuiz (data : QuizUpdate) : Uncommitted (editQuiz quizId userId data) := by
  refine .bind (.perform trivial) fun found => ?_
  cases found with
  | none => exact .done _
  | some quiz =>
    exact .bind (.require _ _) fun _ => .bind (.require _ _) fun _ =>
      .bind (.perform trivial) fun _ =>
      .bind (uncommitted_replaceTags _ _) fun _ => .bind (.perform trivial) fun _ =>
      .bind (uncommitted_replaceQuestions _ _) fun _ => .bind uncommitted_utcnow fun _ =>
      .bind (.perform trivial) fun _ => .done _

lemma found_of_editQuiz {data : QuizUpdate} {d : Database} {w : World} (quiz : LoadedQuiz)
    (q : Point Database World) (h : Yields (editQuiz quizId userId data) ⟨d, d, w⟩ quiz q) :
    (q.seen.quizzes.get? quiz.quiz.quizId).isSome := by
  have hedited := edited_of_yields h
  rw [hedited.id_eq, hedited.row]
  rfl

lemma Edited.filled {data : QuizUpdate} {quiz : LoadedQuiz} {d e : Database}
    (h : Edited quizId userId data quiz d e) (hd : d.Filled) :
    quiz.quiz.maxParticipants.isSome := by
  obtain ⟨old, now, hold, -, hnew⟩ := h.fields
  rw [hnew]
  exact QuizSet.filled_apply _ (hd old (Table.mem_get? hold))

/-- An update that raises has changed nothing, and one that returns has changed what its body
gives. -/
theorem updateQuiz_all_or_nothing {d : Database} (hd : d.Filled) (w : World)
    (quizId userId : UUID) (data : QuizUpdate) :
    (∀ err e w', serve (updateQuiz quizId userId data) d w = (.error err, e, w') → e = d) ∧
      ∀ out e w', serve (updateQuiz quizId userId data) d w = (.ok out, e, w') →
        Updated quizId data d.toRows e.toRows := by
  rcases serve_commitQuiz (uncommitted_editQuiz data) found_of_editQuiz with ⟨e, w', -, h⟩ | ⟨quiz,
    q, -, hyields, h⟩
  · rw [updateQuiz, h]
    exact ⟨fun _ _ _ heq => (by cases heq; rfl), fun _ _ _ heq => (by cases heq)⟩
  · have hedited := edited_of_yields hyields
    obtain ⟨out, hout⟩ := quizToResponse_filled (hedited.filled hd) false
    rw [updateQuiz, h, hout]
    exact ⟨fun _ _ _ heq => (by cases heq), fun _ _ _ heq => (by cases heq; exact hedited.updated)⟩

end Update

section

attribute [local instance] Platform.ascii

namespace Sample

def ofItaly : QuizQuestionCreate := ⟨"Of Italy?", 5000, false, [⟨"Rome", true⟩, ⟨"Milan", false⟩]⟩

def retitled : QuizUpdate := ⟨some "Cities", none, some ["europe", "world"], none,
      some [ofItaly, ofItaly]⟩

/-- The second question has no correct answer. -/
def unanswerable : QuizUpdate :=
  { retitled with questions := some [ofItaly, { ofItaly with answers := [⟨"Milan", false⟩] }] }

end Sample

open Sample

theorem updateQuiz_all_or_nothing_geography :
    (∃ out, ∃ e : Database, ∃ w, serve (updateQuiz "capitals" "ada" retitled) geography ⟨0, 7⟩ =
      (.ok out, e, w) ∧
      Updated "capitals" retitled geography.toRows e.toRows) ∧
    ∃ err w, serve (updateQuiz "capitals" "ada" unanswerable) geography ⟨0, 7⟩ =
      (.error err, geography, w) := by
  have hfilled : geography.Filled := by decide +kernel
  have hreturns : (serve (updateQuiz "capitals" "ada" retitled) geography ⟨0, 7⟩).1.isOk =
      true := by decide +kernel
  have hraises : (serve (updateQuiz "capitals" "ada" unanswerable) geography ⟨0, 7⟩).1.isOk =
      false := by decide +kernel
  have hupdated := (updateQuiz_all_or_nothing hfilled ⟨0, 7⟩ "capitals" "ada" retitled).2
  have hsame := (updateQuiz_all_or_nothing hfilled ⟨0, 7⟩ "capitals" "ada" unanswerable).1
  constructor
  · generalize serve (updateQuiz "capitals" "ada" retitled) geography ⟨0, 7⟩ =
      r at hreturns hupdated ⊢
    obtain ⟨_ | out, e, w⟩ := r
    · cases hreturns
    · exact ⟨out, e, w, rfl, hupdated out e w rfl⟩
  · generalize serve (updateQuiz "capitals" "ada" unanswerable) geography ⟨0, 7⟩ =
      r at hraises hsame ⊢
    obtain ⟨err | _, e, w⟩ := r
    · exact ⟨err, w, by rw [hsame err e w rfl]⟩
    · cases hraises

end

end Askit.Relational

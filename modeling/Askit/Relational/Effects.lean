import Askit.Relational.Services

/-! What the statements leave when they are not refused, and what the parts of the services
yield. -/

namespace Askit.Relational

open Interleaving Coro Tables
open Game (UUID Time Runtime GameSession)
open Quizzes (Platform QuizAnswerCreate QuizQuestionCreate QuizOut NewQuestion Exn
  newQuestions TagName)

namespace Sql

variable {d e : Database} {quizId : UUID}

lemma eq_of_insertTag {name : String} (h : insertTag name d = .ok e) :
    name ∉ d.tags.keys ∧ ∃ tags : Table (id : String → String), tags.rows = d.tags.rows ++ [name] ∧
      e.toRows = { d.toRows with tags := tags } := by
  unfold insertTag at h
  split_ifs at h with hfits hnew
  cases h
  exact ⟨hnew, _, rfl, rfl⟩

lemma eq_of_insertQuiz {q : Quiz} (h : insertQuiz q d = .ok e) :
    q.quizId ∉ d.quizzes.keys ∧ ∃ quizzes :
      Table Quiz.quizId, quizzes.rows = d.quizzes.rows ++ [q] ∧
      e.toRows = { d.toRows with quizzes := quizzes } := by
  unfold insertQuiz at h
  split_ifs at h with hfits hnew
  cases h
  exact ⟨hnew.1, _, rfl, rfl⟩

/-- An `UPDATE` of a quiz touches no other table. -/
structure QuizUpdated (quizId : UUID) (c : QuizSet) (d e : Rows) : Prop where
  users : e.users = d.users
  quizzes : e.quizzes = d.quizzes.modify quizId c.apply c.quizId_apply
  questions : e.questions = d.questions
  answers : e.answers = d.answers
  tags : e.tags = d.tags
  quizTags : e.quizTags = d.quizTags
  favorites : e.favorites = d.favorites
  sessions : e.sessions = d.sessions
  players : e.players = d.players
  records : e.records = d.records

lemma quizUpdated_of_ok {quizId : UUID} {c : QuizSet} (h : updateQuiz quizId c d = .ok e) :
    QuizUpdated quizId c d.toRows e.toRows := by
  unfold updateQuiz at h
  split_ifs at h with hfits hfound
  cases h
  exact ⟨rfl, rfl, rfl, rfl, rfl, rfl, rfl, rfl, rfl, rfl⟩

lemma eq_of_insertQuestion {q : QuizQuestion} (h : insertQuestion q d = .ok e) :
    q.questionId ∉ d.questions.keys ∧ ∃ questions : Table QuizQuestion.questionId,
      questions.rows = d.questions.rows ++ [q] ∧
      e.toRows = { d.toRows with questions := questions } := by
  unfold insertQuestion at h
  split_ifs at h with hfits hnew
  cases h
  exact ⟨hnew.1, _, rfl, rfl⟩

lemma eq_of_insertAnswer {a : QuizAnswer} (h : insertAnswer a d = .ok e) :
    ∃ answers : Table QuizAnswer.answerId,
      answers.rows = d.answers.rows ++ [a] ∧ e.toRows = { d.toRows with answers := answers } := by
  unfold insertAnswer at h
  split_ifs at h with hfits hnew
  cases h
  exact ⟨_, rfl, rfl⟩

lemma eq_of_insertQuizTag {l : QuizTag} (h : insertQuizTag l d = .ok e) :
    ∃ links : Table (id : QuizTag → QuizTag),
      links.rows = d.quizTags.rows ++ [l] ∧ e.toRows = { d.toRows with quizTags := links } := by
  unfold insertQuizTag at h
  split_ifs at h with hnew
  cases h
  exact ⟨_, rfl, rfl⟩

lemma eq_of_deleteQuestions {gone : QuizQuestion → Bool} (h : deleteQuestions gone d = .ok e) :
    e.toRows = { d.toRows with
      questions := d.questions.remove gone
      records := d.records.remove fun a => a.questionId ∈ d.questions.removed gone } := by
  unfold deleteQuestions at h
  split_ifs at h with hfree
  cases h
  rfl

/-! When a statement is not refused. -/

lemma insertTag_ok_iff {name : String} : (∃ e, insertTag name d = .ok e) ↔ TagName name ∧
    name ∉ d.tags.keys := by
  unfold insertTag
  split_ifs with hfits hnew <;> simp [*]

lemma insertQuiz_ok_iff {q : Quiz} :
    (∃ e, insertQuiz q d = .ok e) ↔ q.Fits ∧ q.quizId ∉ d.quizzes.keys ∧
    q.creatorId ∈ d.users.keys := by
  unfold insertQuiz
  split_ifs with hfits hnew <;> simp [*]

lemma updateQuiz_ok_iff {c : QuizSet} : (∃ e, updateQuiz quizId c d = .ok e) ↔ c.Fits ∧
    quizId ∈ d.quizzes.keys := by
  unfold updateQuiz
  split_ifs with hfits hfound <;> simp [*]

lemma insertQuestion_ok_iff {q : QuizQuestion} : (∃ e, insertQuestion q d = .ok e) ↔
    q.Fits ∧ q.questionId ∉ d.questions.keys ∧ q.quizId ∈ d.quizzes.keys := by
  unfold insertQuestion
  split_ifs with hfits hnew <;> simp [*]

lemma insertAnswer_ok_iff {a : QuizAnswer} : (∃ e, insertAnswer a d = .ok e) ↔
    a.Fits ∧ a.answerId ∉ d.answers.keys ∧ a.questionId ∈ d.questions.keys := by
  unfold insertAnswer
  split_ifs with hfits hnew <;> simp [*]

lemma insertQuizTag_ok_iff {l : QuizTag} : (∃ e, insertQuizTag l d = .ok e) ↔
    l ∉ d.quizTags.keys ∧ l.quizId ∈ d.quizzes.keys ∧ l.tag ∈ d.tags.keys := by
  unfold insertQuizTag
  split_ifs with hnew <;> simp [*]

end Sql

variable {p q : Point Database World} {quizId questionId : UUID}

section Tags

variable {names tags : List String}

structure TagsMade (names : List String) (p q : Point Database World) : Prop where
  committed : q.committed = p.committed
  world : q.world = p.world
  rows : q.seen.toRows = { p.seen.toRows with tags := q.seen.tags }
  names : ∀ name, name ∈ q.seen.tags.keys ↔ name ∈ p.seen.tags.keys ∨ name ∈ names

lemma tagsMade_of_yields (h : Yields (getOrCreateTags names) p tags q) :
    tags = names ∧ TagsMade names p q := by
  induction names generalizing p tags with
  | nil =>
    obtain ⟨rfl, rfl⟩ := Yields.pure_iff.mp h
    exact ⟨rfl, rfl, rfl, rfl, fun name => by simp⟩
  | cons name names ih =>
    obtain ⟨tag, r, hr, h⟩ := Yields.bind_iff.mp h
    obtain ⟨rfl, hrp⟩ := Yields.select_iff.mp hr
    subst hrp
    obtain ⟨_, s, hs, h⟩ := Yields.bind_iff.mp h
    obtain ⟨rest, t, ht, h⟩ := Yields.bind_iff.mp h
    obtain ⟨rfl, rfl⟩ := Yields.pure_iff.mp h
    obtain ⟨rfl, hmade⟩ := ih ht
    refine ⟨rfl, ?_⟩
    cases htag : r.seen.tags.get? name with
    | none =>
      rw [htag] at hs
      obtain ⟨d, hd, rfl⟩ := Yields.stage_iff.mp hs
      obtain ⟨-, made, hmaderows, hrows⟩ := Sql.eq_of_insertTag hd
      have hmadetags := (congrArg (fun t : Rows => t.tags.rows) hrows).trans hmaderows
      refine ⟨hmade.committed, hmade.world, ?_, fun other => ?_⟩
      · rw [hmade.rows]
        dsimp only
        rw [hrows]
      · rw [hmade.names]
        simp [Table.keys, hmadetags, or_assoc]
    | some found =>
      rw [htag] at hs
      obtain ⟨-, rfl⟩ := Yields.pure_iff.mp hs
      have hfound : name ∈ s.seen.tags.keys := Table.isSome_get?.mp (by rw [htag]; rfl)
      refine ⟨hmade.committed, hmade.world, hmade.rows, fun other => ?_⟩
      rw [hmade.names, List.mem_cons]
      constructor
      · rintro (h | h)
        · exact .inl h
        · exact .inr (.inr h)
      · rintro (h | rfl | h)
        · exact .inl h
        · exact .inl hfound
        · exact .inr h

structure Linked (quizId : UUID) (tags : List String) (p q : Point Database World) : Prop where
  committed : q.committed = p.committed
  world : q.world = p.world
  rows : q.seen.toRows = { p.seen.toRows with quizTags := q.seen.quizTags }
  links : q.seen.quizTags.rows = p.seen.quizTags.rows ++ tags.map fun t => ⟨quizId, t⟩

lemma linked_of_yields {u : Unit} (h : Yields (linkTags quizId tags) p u q) :
    Linked quizId tags p q := by
  induction tags generalizing p with
  | nil =>
    obtain ⟨-, rfl⟩ := Yields.pure_iff.mp h
    exact ⟨rfl, rfl, rfl, (List.append_nil _).symm⟩
  | cons tag tags ih =>
    obtain ⟨_, r, hr, h⟩ := Yields.bind_iff.mp h
    obtain ⟨d, hd, rfl⟩ := Yields.stage_iff.mp hr
    obtain ⟨links, hlinks, hrows⟩ := Sql.eq_of_insertQuizTag hd
    have hadded := (congrArg (fun t : Rows => t.quizTags.rows) hrows).trans hlinks
    have hrest := ih h
    refine ⟨hrest.committed, hrest.world, ?_, ?_⟩
    · rw [hrest.rows]
      dsimp only
      rw [hrows]
    · rw [hrest.links]
      dsimp only
      rw [hadded, List.append_assoc, List.singleton_append, List.map_cons]

end Tags

def LoadedQuestion.content (q : LoadedQuestion) : QuizQuestionCreate :=
  ⟨q.question.text, q.question.timeLimit, q.question.allowMultipleAnswers,
    q.answers.map fun a => ⟨a.text, a.isCorrect⟩⟩

structure AnswersAdded (questionId : UUID) (data : List QuizAnswerCreate)
    (answers : List QuizAnswer) (p q : Point Database World) : Prop where
  committed : q.committed = p.committed
  rows : q.seen.toRows = { p.seen.toRows with answers := q.seen.answers }
  stored : q.seen.answers.rows = p.seen.answers.rows ++ answers
  question : ∀ a ∈ answers, a.questionId = questionId
  content : (answers.map fun a => (⟨a.text, a.isCorrect⟩ : QuizAnswerCreate)) = data

lemma answersAdded_of_yields [Platform] {data : List QuizAnswerCreate} {answers : List QuizAnswer}
    (h : Yields (addAnswers questionId data) p answers q) :
    AnswersAdded questionId data answers p q := by
  induction data generalizing p answers with
  | nil =>
    obtain ⟨rfl, rfl⟩ := Yields.pure_iff.mp h
    exact ⟨rfl, rfl, (List.append_nil _).symm, List.forall_mem_nil _, rfl⟩
  | cons data rest ih =>
    obtain ⟨answerId, r, hr, h⟩ := Yields.bind_iff.mp h
    obtain ⟨rfl, rfl⟩ := Yields.world_iff.mp hr
    obtain ⟨_, s, hs, h⟩ := Yields.bind_iff.mp h
    obtain ⟨d, hd, rfl⟩ := Yields.stage_iff.mp hs
    obtain ⟨more, t, ht, h⟩ := Yields.bind_iff.mp h
    obtain ⟨rfl, rfl⟩ := Yields.pure_iff.mp h
    obtain ⟨table, htable, hrows⟩ := Sql.eq_of_insertAnswer hd
    have hadded := (congrArg (fun t : Rows => t.answers.rows) hrows).trans htable
    have hrest := ih ht
    refine ⟨hrest.committed, ?_, ?_, ?_, ?_⟩
    · rw [hrest.rows]
      dsimp only
      rw [hrows]
    · rw [hrest.stored]
      dsimp only
      rw [hadded, List.append_assoc, List.singleton_append]
    · exact List.forall_mem_cons.mpr ⟨rfl, hrest.question⟩
    · rw [List.map_cons, hrest.content]

structure QuestionsAdded (quizId : UUID) (data : List NewQuestion) (added : List LoadedQuestion)
    (p q : Point Database World) : Prop where
  committed : q.committed = p.committed
  rows : q.seen.toRows =
    { p.seen.toRows with questions := q.seen.questions, answers := q.seen.answers }
  questions : q.seen.questions.rows = p.seen.questions.rows ++ added.map LoadedQuestion.question
  answers : q.seen.answers.rows = p.seen.answers.rows ++ added.flatMap LoadedQuestion.answers
  quiz : ∀ l ∈ added, l.question.quizId = quizId
  question : ∀ l ∈ added, ∀ a ∈ l.answers, a.questionId = l.question.questionId
  positions : added.map (fun l => l.question.position) = data.map NewQuestion.position
  content : added.map LoadedQuestion.content = data.map NewQuestion.content

lemma questionsAdded_of_yields [Platform] {data : List NewQuestion} {added : List LoadedQuestion}
    (h : Yields (addQuestions quizId data) p added q) : QuestionsAdded quizId data added p q := by
  induction data generalizing p added with
  | nil =>
    obtain ⟨rfl, rfl⟩ := Yields.pure_iff.mp h
    exact ⟨rfl, rfl, (List.append_nil _).symm, (List.append_nil _).symm, List.forall_mem_nil _,
      List.forall_mem_nil _, rfl, rfl⟩
  | cons data rest ih =>
    obtain ⟨questionId, r, hr, h⟩ := Yields.bind_iff.mp h
    obtain ⟨rfl, rfl⟩ := Yields.world_iff.mp hr
    obtain ⟨_, s, hs, h⟩ := Yields.bind_iff.mp h
    obtain ⟨d, hd, rfl⟩ := Yields.stage_iff.mp hs
    obtain ⟨answers, t, ht, h⟩ := Yields.bind_iff.mp h
    obtain ⟨more, u, hu, h⟩ := Yields.bind_iff.mp h
    obtain ⟨rfl, rfl⟩ := Yields.pure_iff.mp h
    obtain ⟨-, table, htable, hrows⟩ := Sql.eq_of_insertQuestion hd
    have hadded := (congrArg (fun t : Rows => t.questions.rows) hrows).trans htable
    have hanswers := answersAdded_of_yields ht
    have hrest := ih hu
    have hkept := congrArg Rows.questions hanswers.rows
    have hold := congrArg Rows.answers hrows
    refine ⟨hrest.committed.trans hanswers.committed, ?_, ?_, ?_, ?_, ?_, ?_, ?_⟩
    · rw [hrest.rows, hanswers.rows]
      dsimp only
      rw [hrows]
    · rw [hrest.questions]
      dsimp only at hkept hadded
      rw [hkept, hadded, List.append_assoc, List.singleton_append, List.map_cons]
    · rw [hrest.answers, hanswers.stored]
      dsimp only at hold ⊢
      rw [hold, List.append_assoc, List.flatMap_cons]
    · exact List.forall_mem_cons.mpr ⟨rfl, hrest.quiz⟩
    · exact List.forall_mem_cons.mpr ⟨hanswers.question, hrest.question⟩
    · rw [List.map_cons, List.map_cons, hrest.positions]
    · rw [List.map_cons, List.map_cons, hrest.content, LoadedQuestion.content, hanswers.content]
      rfl

section Requests

variable [Platform]

omit [Platform] in
lemma uncommitted_createTag (name : String) (tag : Option String) :
    Uncommitted (createTag name tag) := by
  cases tag with
  | none => exact .perform trivial
  | some _ => exact .done _

omit [Platform] in
lemma uncommitted_getOrCreateTags (names : List String) : Uncommitted (getOrCreateTags names) := by
  induction names with
  | nil => exact .done _
  | cons name names ih =>
    exact .bind (.perform trivial) fun tag => .bind (uncommitted_createTag name tag) fun _ =>
      .bind ih fun _ => .done _

omit [Platform] in
lemma uncommitted_linkTags (quizId : UUID) (tags : List String) :
    Uncommitted (linkTags quizId tags) := by
  induction tags with
  | nil => exact .done _
  | cons tag tags ih => exact .bind (.perform trivial) fun _ => ih

lemma uncommitted_uuid4 : Uncommitted uuid4 := .perform fun w => Nat.le_succ w.draws

omit [Platform] in
lemma uncommitted_utcnow : Uncommitted utcnow := .perform fun w => Nat.le_refl w.draws

lemma uncommitted_addAnswers (questionId : UUID) (data : List QuizAnswerCreate) :
    Uncommitted (addAnswers questionId data) := by
  induction data with
  | nil => exact .done _
  | cons data rest ih =>
    exact .bind uncommitted_uuid4 fun _ => .bind (.perform trivial) fun _ =>
      .bind ih fun _ => .done _

lemma uncommitted_addQuestions (quizId : UUID) (data : List NewQuestion) :
    Uncommitted (addQuestions quizId data) := by
  induction data with
  | nil => exact .done _
  | cons data rest ih =>
    exact .bind uncommitted_uuid4 fun questionId => .bind (.perform trivial) fun _ =>
      .bind (uncommitted_addAnswers questionId data.answers) fun _ => .bind ih fun _ => .done _

lemma serve_commitQuiz_of_yields {x : Handler LoadedQuiz} {d : Database} {w : World}
    {quiz : LoadedQuiz} {q : Point Database World} (h : Yields x ⟨d, d, w⟩ quiz q)
    (hfound : (q.seen.quizzes.get? quiz.quiz.quizId).isSome) :
    serve (x >>= commitQuiz) d w = (quizToResponse quiz false, q.seen, q.world) := by
  refine (serve_of_yields (f := fetchCommitted) h).trans ?_
  obtain ⟨row, hrow⟩ := Option.isSome_iff_exists.mp hfound
  have hfetch : q.seen.fetchQuiz quiz.quiz.quizId = some (q.seen.load row) := by
    rw [Rows.fetchQuiz, hrow]
    rfl
  have halone : (fetchCommitted quiz).alone View.exec ⟨q.seen, .ok q.seen, q.world⟩ =
      (quizToResponse quiz false, ⟨q.seen, .ok q.seen, q.world⟩) := by
    refine (alone_perform_bind (a := q.seen.fetchQuiz quiz.quiz.quizId) rfl).trans ?_
    rw [hfetch]
    rfl
  rw [halone]

/-- A request that commits its quiz at the end has stored it, or has left the database as it was. -/
theorem serve_commitQuiz {x : Handler LoadedQuiz} (hx : Uncommitted x) {d : Database} {w : World}
    (hfound : ∀ quiz q, Yields x ⟨d, d, w⟩ quiz q → (q.seen.quizzes.get? quiz.quiz.quizId).isSome) :
    (∃ e w', w ≤ w' ∧ serve (x >>= commitQuiz) d w = (.error e, d, w')) ∨
      ∃ quiz q, w ≤ q.world ∧ Yields x ⟨d, d, w⟩ quiz q ∧
        serve (x >>= commitQuiz) d w = (quizToResponse quiz false, q.seen, q.world) := by
  rcases serve_commit (f := fetchCommitted) hx d w with h | ⟨quiz, q, hw, h⟩
  · exact .inl h
  · exact .inr ⟨quiz, q, hw, h, serve_commitQuiz_of_yields h (hfound quiz q h)⟩

lemma yields_of_serve {x : Handler LoadedQuiz} (hx : Uncommitted x) {d e : Database} {w w' : World}
    {out : QuizOut}
    (hfound : ∀ quiz q, Yields x ⟨d, d, w⟩ quiz q → (q.seen.quizzes.get? quiz.quiz.quizId).isSome)
    (h : serve (x >>= commitQuiz) d w = (.ok out, e, w')) :
    ∃ quiz, Yields x ⟨d, d, w⟩ quiz ⟨d, e, w'⟩ ∧ quizToResponse quiz false = .ok out := by
  rcases serve_commitQuiz hx hfound with ⟨err, w'', -, hserve⟩ | ⟨quiz, q, -, hyields, hserve⟩
  · rw [hserve] at h
    cases h
  · rw [hserve] at h
    obtain ⟨hout, hrest⟩ := Prod.mk.inj h
    cases hrest
    have hcommitted : q.committed = d := by
      have hkept := (hx.kept (Point.view ⟨d, d, w⟩)).1
      rwa [hyields] at hkept
    obtain ⟨c, f, v⟩ := q
    obtain rfl : c = d := hcommitted
    exact ⟨quiz, hyields, hout⟩

end Requests

end Askit.Relational

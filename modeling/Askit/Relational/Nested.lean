import Askit.Quizzes.TagRequests
import Askit.Relational.Reachability

/-! The tables of the quizzes, nested: a quiz holds its tags and a question its answers. A request
that has the database to itself does the same to both. -/

namespace Askit.Relational

open Interleaving Coro Tables
open Game (UUID Time Runtime)
open Quizzes (Platform QuizAnswerCreate QuizQuestionCreate QuizCreate QuizUpdate QuizOut QuizStatus
  NewQuestion Exn
  newQuestions flushAnswers flushQuestions identifiers)

def Quiz.nested (q : Quiz) (tags : List String) : Quizzes.Quiz :=
  ⟨q.quizId, q.creatorId, q.title, q.description, q.defaultTimePerQuestion, q.visibility, q.status,
    q.maxParticipants, q.createdAt, q.updatedAt, tags⟩

def QuizAnswer.nested (a : QuizAnswer) : Quizzes.QuizAnswer := ⟨a.answerId, a.text, a.isCorrect⟩

def QuizQuestion.nested (q : QuizQuestion) (answers : List QuizAnswer) : Quizzes.QuizQuestion :=
  ⟨q.questionId, q.quizId, q.text, q.position, q.timeLimit, q.allowMultipleAnswers,
    answers.map QuizAnswer.nested⟩

def LoadedQuestion.nested (l : LoadedQuestion) : Quizzes.QuizQuestion := l.question.nested l.answers

def LoadedQuiz.nested (q : LoadedQuiz) : Quizzes.LoadedQuiz :=
  ⟨q.quiz.nested q.tags, q.questions.map LoadedQuestion.nested⟩

def Rows.nested (d : Rows) : Quizzes.Db where
  quizzes := d.quizzes.map (fun q => q.nested (d.tagsOf q.quizId)) fun _ => rfl
  questions := d.questions.map (fun q => q.nested (d.answersOf q.questionId)) fun _ => rfl
  tags := d.tags

def nested (d : Database) (w : World) : Quizzes.State := ⟨d.nested, w.now, w.draws⟩

lemma quizToResponse_nested (quiz : LoadedQuiz) (isFavorited : Bool) :
    Quizzes.quizToResponse quiz.nested isFavorited = quizToResponse quiz isFavorited := by
  unfold Quizzes.quizToResponse quizToResponse
  cases h : quiz.quiz.maxParticipants with
  | none => simp [LoadedQuiz.nested, Quiz.nested, h]
  | some n =>
    simp [LoadedQuiz.nested, Quiz.nested, LoadedQuestion.nested, QuizQuestion.nested, h, quizOut,
      Function.comp_def, QuizAnswer.nested]

lemma get?_nested (d : Rows) (quizId : UUID) :
    d.nested.quizzes.get? quizId = (d.quizzes.get? quizId).map fun q =>
      q.nested (d.tagsOf quizId) := by
  have hget : d.nested.quizzes.get? quizId = (d.quizzes.get? quizId).map fun q =>
      q.nested (d.tagsOf q.quizId) :=
    Table.get?_map _ _ (fun _ => rfl) _
  rw [hget]
  cases h : d.quizzes.get? quizId with
  | none => rfl
  | some q =>
    obtain rfl := Table.key_get? h
    rfl

lemma questionsOf_nested (d : Rows) (quizId : UUID) : d.nested.questionsOf quizId =
    (d.questionsOf quizId).map fun q => q.nested (d.answersOf q.questionId) := by
  change (d.questions.rows.map _).filter _ = _
  rw [List.filter_map]
  rfl

lemma flush_nested {old new : Quiz} {loaded given row : List String} (hid : new.quizId = old.quizId)
    (hfixed : new.creatorId = old.creatorId ∧ new.createdAt = old.createdAt) :
    Quizzes.Quiz.flush ⟨old.nested loaded, new.nested given⟩ (old.nested row) =
      new.nested (Quizzes.flushTags ⟨loaded, given⟩ row) := by
  simp only [Quizzes.Quiz.flush, Quiz.nested, Game.changed_loaded, hid, hfixed]

lemma applyUpdate_nested (data : QuizUpdate) (old : Quiz) (loaded : List String) (now : Time) :
    ({ Quizzes.applyUpdate data (old.nested loaded) with updatedAt := now } : Quizzes.Quiz) =
      (QuizSet.apply ⟨data.title, data.description, data.settings, none, some now⟩ old).nested
        (data.tags.getD loaded) := by
  unfold Quizzes.applyUpdate QuizSet.apply
  cases data.settings <;> rfl

/-! The questions of an update, in the nested tables. -/

section Questions

variable {quizId : UUID} {p q : Point Database World} {d : Database} {e : Rows}

lemma QuestionsAdded.nested {data : List NewQuestion} {added : List LoadedQuestion}
    (h : QuestionsAdded quizId data added p q) :
    q.seen.nested.questions.rows = p.seen.nested.questions.rows ++
      added.map LoadedQuestion.nested := by
  change q.seen.questions.rows.map _ = p.seen.questions.rows.map _ ++ _
  rw [h.questions, List.map_append, List.map_map]
  congr 1
  · exact List.map_congr_left fun r hr => by rw [h.answersOf_of_ne (Table.key_mem_keys hr)]
  · exact List.map_congr_left fun l hl => by
      rw [Function.comp_apply, h.answersOf hl]
      rfl

lemma QuestionsDeleted.nested (h : QuestionsDeleted quizId d.toRows e) :
    e.nested.questions.rows = d.nested.questions.rows.filter fun q => q.quizId ≠ quizId := by
  change e.questions.rows.map _ = (d.questions.rows.map _).filter _
  rw [List.filter_map, h.questions]
  refine List.map_congr_left fun r hr => ?_
  obtain ⟨hr, hne⟩ := List.mem_filter.mp hr
  rw [h.answersOf hr (by simpa using hne)]

lemma nested_questions_congr {d e : Rows} (hquestions : d.questions = e.questions)
    (hanswers : d.answers = e.answers) :
    d.nested.questions = e.nested.questions :=
  Table.ext_rows (by simp only [Rows.nested, Table.map, Rows.answersOf, hquestions, hanswers])

end Questions

variable [Platform]

section Flush

variable {p q : Point Database World} {quizId questionId : UUID}

lemma flushAnswers_cons (draws : ℕ) (a : QuizAnswerCreate) (answers : List QuizAnswerCreate) :
    flushAnswers draws (a :: answers) = ⟨Runtime.uuid4 draws, a.text, a.isCorrect⟩ :: flushAnswers
      (draws + 1) answers := by
  simp only [flushAnswers, List.mapIdx_cons, Nat.add_zero, Nat.add_assoc, Nat.add_comm 1]

lemma flushAnswers_of_yields {data : List QuizAnswerCreate} {answers : List QuizAnswer}
    (h : Yields (addAnswers questionId data) p answers q) :
    answers.map QuizAnswer.nested = flushAnswers p.world.draws data ∧
      q.world = ⟨p.world.draws + data.length, p.world.now⟩ := by
  induction data generalizing p answers with
  | nil =>
    obtain ⟨rfl, rfl⟩ := Yields.pure_iff.mp h
    exact ⟨rfl, rfl⟩
  | cons data rest ih =>
    obtain ⟨answerId, r, hr, h⟩ := Yields.bind_iff.mp h
    obtain ⟨rfl, rfl⟩ := Yields.world_iff.mp hr
    obtain ⟨_, s, hs, h⟩ := Yields.bind_iff.mp h
    obtain ⟨d, hd, rfl⟩ := Yields.stage_iff.mp hs
    obtain ⟨more, t, ht, h⟩ := Yields.bind_iff.mp h
    obtain ⟨rfl, rfl⟩ := Yields.pure_iff.mp h
    obtain ⟨hmore, hworld⟩ := ih ht
    constructor
    · rw [List.map_cons, hmore, flushAnswers_cons]
      rfl
    · rw [hworld, List.length_cons, Nat.add_comm rest.length 1, ← Nat.add_assoc]

lemma flushQuestions_of_yields {data : List NewQuestion} {added : List LoadedQuestion}
    (h : Yields (addQuestions quizId data) p added q) :
    added.map LoadedQuestion.nested = flushQuestions quizId p.world.draws data ∧
      q.world = ⟨p.world.draws + identifiers data, p.world.now⟩ := by
  induction data generalizing p added with
  | nil =>
    obtain ⟨rfl, rfl⟩ := Yields.pure_iff.mp h
    exact ⟨rfl, rfl⟩
  | cons data rest ih =>
    obtain ⟨_, r, hr, h⟩ := Yields.bind_iff.mp h
    obtain ⟨rfl, rfl⟩ := Yields.world_iff.mp hr
    obtain ⟨_, s, hs, h⟩ := Yields.bind_iff.mp h
    obtain ⟨d, hd, rfl⟩ := Yields.stage_iff.mp hs
    obtain ⟨answers, t, ht, h⟩ := Yields.bind_iff.mp h
    obtain ⟨more, u, hu, h⟩ := Yields.bind_iff.mp h
    obtain ⟨rfl, rfl⟩ := Yields.pure_iff.mp h
    obtain ⟨hanswers, ht⟩ := flushAnswers_of_yields ht
    obtain ⟨hmore, hu⟩ := ih hu
    constructor
    · rw [List.map_cons, hmore, flushQuestions, ht, LoadedQuestion.nested,
        QuizQuestion.nested, hanswers]
    · rw [hu, ht]
      simp only [identifiers, List.map_cons, List.sum_cons]
      congr 1
      omega

end Flush

section Tags

variable {p q : Point Database World} {names tags : List String}

lemma getOrCreateTags_nested {created : List String} {s : Quizzes.State}
    (h : Yields (getOrCreateTags names) p tags q)
    (hs : p.seen.tags.rows = s.db.tags.rows ++ created) :
    ∃ all, (Quizzes.getOrCreateTags created names).alone Quizzes.exec s = (.ok all, s) ∧
      q.seen.tags.rows = s.db.tags.rows ++ all := by
  induction names generalizing p tags created with
  | nil =>
    obtain ⟨-, rfl⟩ := Yields.pure_iff.mp h
    exact ⟨created, rfl, hs⟩
  | cons name names ih =>
    obtain ⟨tag, r, hr, h⟩ := Yields.bind_iff.mp h
    obtain ⟨rfl, hrp⟩ := Yields.select_iff.mp hr
    subst hrp
    obtain ⟨_, t, ht, h⟩ := Yields.bind_iff.mp h
    obtain ⟨rest, u, hu, h⟩ := Yields.bind_iff.mp h
    obtain ⟨-, rfl⟩ := Yields.pure_iff.mp h
    have hselect : Quizzes.exec (.selectTag name) s = (.ok (s.db.tags.get? name), s) := rfl
    rw [Quizzes.getOrCreateTags, alone_perform_bind hselect]
    have hmem : name ∈ r.seen.tags.keys ↔ name ∈ s.db.tags.keys ∨ name ∈ created := by
      simp [Table.keys, hs]
    cases htag : r.seen.tags.get? name with
    | none =>
      rw [htag] at ht
      obtain ⟨d, hd, rfl⟩ := Yields.stage_iff.mp ht
      obtain ⟨-, made, hmade, hrows⟩ := Sql.eq_of_insertTag hd
      have htags := (congrArg (fun t : Rows => t.tags.rows) hrows).trans hmade
      have hnew := mt hmem.mpr (Table.get?_eq_none.mp htag)
      rw [not_or] at hnew
      rw [Table.get?_eq_none.mpr hnew.1]
      dsimp only
      rw [if_neg hnew.2]
      exact ih hu (by rw [htags, hs, List.append_assoc])
    | some found =>
      rw [htag] at ht
      obtain ⟨-, rfl⟩ := Yields.pure_iff.mp ht
      have hfound := hmem.mp (Table.isSome_get?.mp (by rw [htag]; rfl))
      cases hold : s.db.tags.get? name with
      | some row => exact ih hu hs
      | none =>
        have hcreated := hfound.resolve_left (Table.get?_eq_none.mp hold)
        dsimp only
        rw [if_pos hcreated]
        exact ih hu hs

end Tags

/-- The order in which a query returns its rows goes by where they lie, not by what they hold. -/
def ByPlace : Prop :=
  ∀ {ρ τ : Type} (f : ρ → τ) (l : List ρ), Platform.arrange (l.map f) = (Platform.arrange l).map f

example : @ByPlace Platform.ascii := fun _ _ => rfl

section Fetch

variable {d : Database} {w : World} {quizId : UUID}

lemma selectQuestions_nested (hplace : ByPlace) (d : Rows) (quizId : UUID) :
    d.nested.selectQuestions quizId = (d.loadQuestions quizId).map LoadedQuestion.nested := by
  rw [Quizzes.Db.selectQuestions, questionsOf_nested, hplace, Rows.loadQuestions,
    ← List.map_insertionSort (r := fun a b : QuizQuestion => a.position ≤ b.position),
    List.map_map, List.map_map]
  · refine List.map_congr_left fun q _ => ?_
    simp only [Function.comp_apply, QuizQuestion.nested]
    rw [hplace]
    rfl
  · exact fun _ _ _ _ => Iff.rfl

lemma fetchQuiz_nested (hplace : ByPlace) (d : Database) (w : World) (quizId : UUID) :
    (Quizzes.fetchQuiz quizId).alone Quizzes.exec (nested d w) =
      (.ok ((d.fetchQuiz quizId).map LoadedQuiz.nested), nested d w) := by
  rw [Quizzes.SharedTags.fetchQuiz_alone, nested, get?_nested, Rows.fetchQuiz]
  cases h : d.quizzes.get? quizId with
  | none => rfl
  | some q =>
    obtain rfl := Table.key_get? h
    simp only [Option.map_some, selectQuestions_nested hplace]
    rfl

lemma refetchQuiz_nested (held : LoadedQuiz) {row : Quiz}
    (h : d.quizzes.get? held.quiz.quizId = some row) :
    (Quizzes.refetchQuiz held.nested).alone Quizzes.exec (nested d w) =
      (.ok (some held.nested), nested d w) := by
  have hfound : Quizzes.exec (.selectQuiz held.quiz.quizId) (nested d w) =
      (.ok (some (row.nested (d.tagsOf held.quiz.quizId))), nested d w) := by
    rw [Quizzes.exec, nested, get?_nested, h]
    rfl
  exact alone_perform_bind hfound

end Fetch

section Replace

variable {p q : Point Database World} {quizId : UUID}

lemma removed_nested {d : Database} {r : Quizzes.QuizQuestion} (hr : r ∈ d.nested.questions.rows) :
    r.questionId ∈ (d.loadQuestions quizId).map (fun l => l.nested.questionId) ↔
    r.quizId = quizId := by
  obtain ⟨s, hs, rfl⟩ := List.mem_map.mp hr
  exact Rows.mem_loadedQuestions hs

lemma replaceQuestions_nested {questions : List LoadedQuestion}
    {given : Option (List QuizQuestionCreate)}
    (h : Yields (replaceQuestions quizId (p.seen.loadQuestions quizId) given) p questions q)
    (s : Quizzes.State) :
    ∃ removed added,
    (Quizzes.replaceQuestions ((p.seen.loadQuestions quizId).map LoadedQuestion.nested) given).alone
        Quizzes.exec s = (.ok (removed, added), s) ∧
      q.world = ⟨p.world.draws + identifiers added, p.world.now⟩ ∧
      questions.map LoadedQuestion.nested = given.elim
        ((p.seen.loadQuestions quizId).map LoadedQuestion.nested)
        (fun _ => flushQuestions quizId p.world.draws added) ∧
      q.seen.nested.questions.rows = (p.seen.nested.questions.rows.filter fun q =>
        q.questionId ∉ removed) ++
        flushQuestions quizId p.world.draws added := by
  cases given with
  | none =>
    obtain ⟨rfl, rfl⟩ := Yields.pure_iff.mp h
    exact ⟨[], [], rfl, rfl, rfl, by simp [flushQuestions]⟩
  | some body =>
    obtain ⟨_, r, hr, h⟩ := Yields.bind_iff.mp h
    obtain ⟨_, t, ht, h⟩ := Yields.bind_iff.mp h
    obtain ⟨_, u, hu, h⟩ := Yields.bind_iff.mp h
    obtain ⟨data, v, hv, h⟩ := Yields.bind_iff.mp h
    obtain ⟨d, hd, rfl⟩ := Yields.stage_iff.mp hr
    cases hd
    obtain ⟨e, he, rfl⟩ := Yields.stage_iff.mp ht
    obtain rfl := Yields.flush_iff.mp hu
    obtain ⟨hdata, rfl⟩ := Yields.done_iff.mp hv
    have hrows := Sql.eq_of_deleteQuestions he
    have hdeleted : QuestionsDeleted quizId p.seen.toRows e.toRows :=
      questionsDeleted (congrArg (fun t : Rows => t.questions.rows) hrows)
        (congrArg (fun t : Rows => t.answers.rows) hrows)
    obtain ⟨hflushed, hworld⟩ := flushQuestions_of_yields h
    refine ⟨(p.seen.loadQuestions quizId).map fun l => l.nested.questionId, data, ?_,
      hworld, hflushed, ?_⟩
    · refine (alone_perform_bind (a := ()) rfl).trans ?_
      rw [hdata, List.map_map]
      rfl
    · rw [(questionsAdded_of_yields h).nested, hflushed, hdeleted.nested]
      congr 1
      exact List.filter_congr fun r hr => by simp only [removed_nested hr, ne_eq]

end Replace

section Commit

variable {quizId : UUID} {old new : Quiz} {given newTags : List String} {removed : List UUID}
  {added : List NewQuestion} {draws : ℕ} {d e : Rows}

/-- The tables of `e` are those of `d` after the commit of a change of one quiz. -/
structure Rewritten (quizId : UUID) (old new : Quiz) (given newTags : List String)
    (removed : List UUID) (added : List NewQuestion) (draws : ℕ) (d e : Rows) : Prop where
  found : d.quizzes.get? quizId = some old
  row : e.quizzes.get? quizId = some new
  keys : e.quizzes.keys = d.quizzes.keys
  fixed : new.creatorId = old.creatorId ∧ new.createdAt = old.createdAt
  others : ∀ other, other ≠ quizId →
    e.quizzes.get? other = d.quizzes.get? other ∧ e.tagsOf other = d.tagsOf other
  tags : e.tagsOf quizId = Quizzes.flushTags ⟨Platform.arrange (d.tagsOf quizId), given⟩
    (d.tagsOf quizId)
  made : e.tags.rows = d.tags.rows ++ newTags
  questions : e.nested.questions.rows = (d.nested.questions.rows.filter fun q =>
    q.questionId ∉ removed) ++
    flushQuestions quizId draws added

lemma Rewritten.ids (h : Rewritten quizId old new given newTags removed added draws d e) :
    old.quizId = quizId ∧ new.quizId = quizId := ⟨Table.key_get? h.found, Table.key_get? h.row⟩

lemma Rewritten.quizzes (h : Rewritten quizId old new given newTags removed added draws d e) :
    d.nested.quizzes.modify quizId
      (Quizzes.Quiz.flush ⟨old.nested (Platform.arrange (d.tagsOf quizId)), new.nested given⟩)
      (Quizzes.Quiz.quizId_flush _) = e.nested.quizzes := by
  obtain ⟨hold, hnew⟩ := h.ids
  refine Table.ext_get? ?_ fun other => ?_
  · have hkeys : ∀ f : Rows, f.nested.quizzes.keys = f.quizzes.keys := fun f => List.map_map
    rw [Table.keys_modify, hkeys, hkeys, h.keys]
  · rw [Table.get?_modify, get?_nested, get?_nested]
    by_cases hother : other = quizId
    · subst hother
      rw [h.found, h.row, h.tags, Option.map_some, Option.map_some, Option.map_some, if_pos rfl,
        flush_nested (hnew.trans hold.symm) h.fixed]
    · obtain ⟨hrow, htags⟩ := h.others other hother
      simp only [if_neg hother, hrow, htags, Option.map_id']

lemma Rewritten.commit (h : Rewritten quizId old new given newTags removed added draws d e) :
    d.nested.commit draws ⟨⟨old.nested (Platform.arrange (d.tagsOf quizId)), new.nested given⟩,
      newTags, removed, added⟩ =
      .ok e.nested := by
  have hrow : d.nested.quizzes.get? old.quizId = some (old.nested (d.tagsOf quizId)) := by
    rw [h.ids.1, get?_nested, h.found]
    rfl
  have hclash : ¬Quizzes.tagsClash ⟨old.nested (Platform.arrange (d.tagsOf quizId)),
    new.nested given⟩
      (old.nested (d.tagsOf quizId)) = true := by
    simp [Quizzes.tagsClash, Quiz.nested, (Platform.arrange_perm (d.tagsOf quizId)).mem_iff]
  have hmade : d.nested.tags.insertAll newTags = some e.nested.tags := Table.insertAll_eq h.made
  have hquestions : (d.nested.questions.remove fun q => q.questionId ∈ removed).insertAll
      (flushQuestions old.quizId draws added) = some e.nested.questions := by
    refine Table.insertAll_eq ?_
    rw [h.questions, h.ids.1]
    simp only [Table.rows_remove, decide_not]
  have hquizzes := h.quizzes
  obtain rfl := h.ids.1
  unfold Quizzes.Db.commit
  simp only [Quiz.nested] at hrow hclash hquizzes ⊢
  simp only [hrow, hclash, hmade, hquestions, hquizzes]
  rfl

end Commit

section Requests

variable {d e : Database} {w w' : World} {quizId userId : UUID} {out : QuizOut}

lemma rewritten_of_changeStatus {status : QuizStatus} {old : Quiz}
    (hfound : d.quizzes.get? quizId = some old)
    (h : Sql.QuizUpdated quizId { status := some status, updatedAt := some w.now }
      d.toRows e.toRows) :
    Rewritten quizId old { old with status := status, updatedAt := w.now }
      (Platform.arrange (d.tagsOf quizId)) [] [] []
      w.draws d.toRows e.toRows := by
  refine ⟨hfound, ?_, ?_, ⟨rfl, rfl⟩, fun other hother =>
    ⟨?_, Rows.tagsOf_congr h.quizTags other⟩, ?_, ?_, ?_⟩
  · rw [h.quizzes, Table.get?_modify_self, hfound]
    rfl
  · rw [h.quizzes, Table.keys_modify]
  · rw [h.quizzes, Table.get?_modify_of_ne _ _ _ hother]
  · rw [Quizzes.flushTags_self, Rows.tagsOf_congr h.quizTags]
  · rw [h.tags, List.append_nil]
  · rw [nested_questions_congr h.questions h.answers]
    simp [flushQuestions]

theorem setQuizStatus_nested (hplace : ByPlace) {status : QuizStatus}
    (h : serve (setQuizStatus quizId status userId) d w = (.ok out, e, w')) :
    (Quizzes.setQuizStatus quizId status userId).alone Quizzes.exec (nested d w) =
      (.ok out, nested e w') := by
  obtain ⟨held, hyields, hout⟩ := yields_of_serve (Alike.uncommitted_changeStatus status)
    Alike.found_of_changeStatus h
  obtain ⟨old, hquiz, howner, rfl, hupdated, hasked, hw⟩ := Alike.changed_of_yields hyields
  obtain rfl : w' = w := hw
  obtain rfl := Table.key_get? hquiz
  have hrewritten := rewritten_of_changeStatus hquiz hupdated
  have hfetch := fetchQuiz_nested hplace d w' old.quizId
  rw [Rows.fetchQuiz, hquiz] at hfetch
  have hasked' : ¬(status = .published ∧ (d.load old).nested.questions = []) := by
    rwa [LoadedQuiz.nested, List.map_eq_nil_iff]
  rw [Quizzes.setQuizStatus, alone_bind_ok hfetch]
  simp only [Option.map_some, alone_require_bind]
  refine (if_pos howner).trans ((if_pos hasked').trans ?_)
  refine (alone_perform_bind (a := w'.now) rfl).trans ?_
  refine (alone_perform_bind (Quizzes.exec_commit (s := nested d w') hrewritten.commit)).trans ?_
  refine (alone_bind_ok (refetchQuiz_nested
    { d.load old with quiz := { old with status := status, updatedAt := w'.now } }
    hrewritten.row)).trans ?_
  rw [← hout, ← quizToResponse_nested]
  rfl

section Create

variable {data : QuizCreate} {quiz : LoadedQuiz} {s t q : Point Database World}

omit [Platform] in
lemma Assembled.nested (h : Assembled userId data quiz d s t q) :
    q.seen.nested.quizzes.rows = d.nested.quizzes.rows ++ [quiz.quiz.nested data.tags] ∧
      q.seen.nested.questions.rows = d.nested.questions.rows ++
        quiz.questions.map LoadedQuestion.nested := by
  obtain ⟨-, hquestions, hanswers, -⟩ := h.tables
  obtain ⟨questions, -, hadded⟩ := h.questions
  constructor
  · change q.seen.quizzes.rows.map _ = d.quizzes.rows.map _ ++ _
    rw [h.created.row, List.map_append, List.map_singleton, h.created.tags]
    congr 1
    refine List.map_congr_left fun r hr => ?_
    have hother : r.quizId ≠ quiz.quiz.quizId := fun heq => h.fresh (heq ▸ Table.key_mem_keys hr)
    rw [(h.others hother).tags]
  · rw [nested_questions_congr hquestions hanswers, hadded.nested,
      nested_questions_congr h.unchanged.1 h.unchanged.2.1]

/-- The object that a creation puts into its session. -/
def created (userId : UUID) (data : QuizCreate) (questions : List NewQuestion) : Quizzes.NewQuiz :=
  ⟨userId, data.title, data.description, data.settings.defaultTimePerQuestion,
    data.settings.visibility, some data.settings.maxParticipants, data.tags, questions⟩

structure Flushed (userId : UUID) (data : QuizCreate) (questions : List NewQuestion)
    (newTags : List String) (quiz : LoadedQuiz) (d : Database) (w : World)
    (q : Point Database World) : Prop where
  asked : newQuestions 1 data.questions = .ok questions
  made : (Quizzes.getOrCreateTags [] data.tags).alone Quizzes.exec (nested d w) =
    (.ok newTags, nested d w)
  tags : q.seen.tags.rows = d.tags.rows ++ newTags
  quiz : quiz.nested = Quizzes.flushQuiz w.now w.draws (created userId data questions)
  world : q.world = ⟨w.draws + 1 + identifiers questions, w.now⟩

lemma flushed_of_yields (h : Yields (newQuiz userId data) ⟨d, d, w⟩ quiz q) :
    ∃ questions newTags, Flushed userId data questions newTags quiz d w q := by
  obtain ⟨tags, p₁, hp₁, h⟩ := Yields.bind_iff.mp h
  obtain ⟨questions, p₂, hp₂, h⟩ := Yields.bind_iff.mp h
  obtain ⟨now, p₃, hp₃, h⟩ := Yields.bind_iff.mp h
  obtain ⟨quizId, p₄, hp₄, h⟩ := Yields.bind_iff.mp h
  obtain ⟨_, p₅, hp₅, h⟩ := Yields.bind_iff.mp h
  obtain ⟨added, p₆, hp₆, h⟩ := Yields.bind_iff.mp h
  obtain ⟨_, p₇, hp₇, h⟩ := Yields.bind_iff.mp h
  obtain ⟨rfl, rfl⟩ := Yields.pure_iff.mp h
  obtain ⟨newTags, hmadealone, htags⟩ := getOrCreateTags_nested (s := nested d w) hp₁
    (List.append_nil _).symm
  obtain ⟨rfl, hmade⟩ := tagsMade_of_yields hp₁
  obtain ⟨hquestions, rfl⟩ := Yields.done_iff.mp hp₂
  obtain ⟨rfl, rfl⟩ := Yields.world_iff.mp hp₃
  obtain ⟨rfl, rfl⟩ := Yields.world_iff.mp hp₄
  obtain ⟨e, he, rfl⟩ := Yields.stage_iff.mp hp₅
  obtain ⟨-, table, -, hrows⟩ := Sql.eq_of_insertQuiz he
  obtain ⟨hadded, hworld⟩ := flushQuestions_of_yields hp₆
  have hlinked := linked_of_yields hp₇
  have hstart : p₂.world = w := hmade.world
  have hkept : q.seen.tags = p₂.seen.tags := by
    rw [hlinked.rows]
    dsimp only
    rw [(questionsAdded_of_yields hp₆).rows]
    dsimp only
    rw [hrows]
  refine ⟨questions, newTags, hquestions, hmadealone, by rw [hkept]; exact htags, ?_, ?_⟩
  · simp only [LoadedQuiz.nested, Quizzes.flushQuiz, hadded, hstart, created]
    rfl
  · rw [hlinked.world, hworld, hstart]

theorem createQuiz_nested (h : serve (createQuiz userId data) d w = (.ok out, e, w')) :
    (Quizzes.createQuiz userId data).alone Quizzes.exec (nested d w) = (.ok out, nested e w') := by
  obtain ⟨held, hyields, hout⟩ := yields_of_serve (uncommitted_newQuiz data) found_of_newQuiz h
  obtain ⟨s, t, hassembled⟩ := assembled_of_yields hyields
  obtain ⟨questions, newTags, hflushed⟩ := flushed_of_yields hyields
  obtain ⟨hquizzes, hquestions⟩ := hassembled.nested
  have hrow : e.quizzes.get? held.quiz.quizId = some held.quiz :=
    Table.get?_of_mem
      (by rw [hassembled.created.row]; exact List.mem_append_right _ (List.mem_singleton_self _))
  have htags : held.tags = data.tags := congrArg (fun q => q.quiz.tags) hflushed.quiz
  rw [← htags] at hquizzes
  have hinsert : d.nested.insertQuiz w.now w.draws (created userId data questions) newTags =
      some e.nested := by
    have hmade : d.nested.tags.insertAll newTags = some e.nested.tags :=
      Table.insertAll_eq hflushed.tags
    rw [Quizzes.Db.insertQuiz, hmade, Option.bind_some, ← hflushed.quiz]
    refine (congrArg (Option.bind · _) (Table.insert_eq hquizzes)).trans ?_
    rw [Option.bind_some]
    exact congrArg (Option.map _) (Table.insertAll_eq hquestions)
  have hexec : Quizzes.exec (.insertQuiz (created userId data questions) newTags) (nested d w) =
      (.ok held.nested, nested e w') := by
    obtain rfl : w' = _ := hflushed.world
    rw [Quizzes.exec_insertQuiz hinsert, hflushed.quiz]
    rfl
  rw [Quizzes.createQuiz, alone_bind_ok hflushed.made, hflushed.asked]
  refine (alone_bind_ok rfl).trans ((alone_perform_bind hexec).trans ?_)
  rw [alone_bind_ok (refetchQuiz_nested held hrow), ← hout, ← quizToResponse_nested]
  rfl

end Create

section Update

variable {data : QuizUpdate} {quiz : LoadedQuiz} {p q : Point Database World}

lemma replaceTags_nested {loaded tags : List String} {given : Option (List String)}
    {s : Quizzes.State} (h : Yields (replaceTags quizId loaded given) p tags q)
    (hs : p.seen.tags.rows = s.db.tags.rows) :
    ∃ newTags, (Quizzes.getOrCreateTags [] (given.getD [])).alone Quizzes.exec s =
      (.ok newTags, s) ∧
      q.seen.tags.rows = s.db.tags.rows ++ newTags ∧ q.world = p.world := by
  cases given with
  | none =>
    obtain ⟨-, rfl⟩ := Yields.pure_iff.mp h
    exact ⟨[], rfl, by rw [hs, List.append_nil], rfl⟩
  | some names =>
    obtain ⟨made, r, hr, h⟩ := Yields.bind_iff.mp h
    obtain ⟨_, t, ht, h⟩ := Yields.bind_iff.mp h
    obtain ⟨_, u, hu, h⟩ := Yields.bind_iff.mp h
    obtain ⟨-, rfl⟩ := Yields.pure_iff.mp h
    obtain ⟨newTags, hmade, htags⟩ := getOrCreateTags_nested (s := s) hr
      (by rw [hs, List.append_nil])
    obtain ⟨-, hkept⟩ := tagsMade_of_yields hr
    obtain ⟨f, hf, rfl⟩ := Yields.stage_iff.mp ht
    cases hf
    have hlinked := linked_of_yields hu
    refine ⟨newTags, hmade, ?_, hlinked.world.trans hkept.world⟩
    rw [hlinked.rows]
    exact htags

lemma TagsReplaced.flushed {given : Option (List String)} {tags : List String}
    (h : TagsReplaced quizId (Platform.arrange (p.seen.tagsOf quizId)) given tags p q) :
    q.seen.tagsOf quizId =
      Quizzes.flushTags ⟨Platform.arrange (p.seen.tagsOf quizId), tags⟩ (p.seen.tagsOf quizId) := by
  have htags := h.tags
  cases given with
  | none =>
    obtain rfl := h.kept rfl
    obtain rfl : tags = Platform.arrange (q.seen.tagsOf quizId) := htags
    rw [Quizzes.flushTags_self]
  | some names =>
    obtain rfl : tags = names := htags
    have hloaded := fun t => (Platform.arrange_perm (p.seen.tagsOf quizId)).mem_iff (a := t)
    generalize Platform.arrange (p.seen.tagsOf quizId) = loaded at h hloaded ⊢
    rw [Quizzes.flushTags, Rows.tagsOf, h.links tags rfl, List.filter_append, List.filter_filter,
      List.map_append]
    congr 1
    · conv_rhs => rw [Rows.tagsOf, List.filter_map, List.filter_filter]
      congr 1
      exact List.filter_congr fun l _ => by grind
    · rw [List.filter_map, List.map_map, List.filter_filter]
      refine (List.map_id _).trans (List.filter_congr fun t _ => ?_)
      simp [hloaded]

structure Replayed (quizId userId : UUID) (data : QuizUpdate) (old : Quiz) (newTags : List String)
    (removed : List UUID) (added : List NewQuestion) (quiz : LoadedQuiz) (d : Database) (w : World)
    (q : Point Database World) : Prop where
  found : d.quizzes.get? quizId = some old
  owner : old.creatorId = userId
  draft : old.status ≠ .published
  row : quiz.quiz = QuizSet.apply ⟨data.title, data.description, data.settings, none,
    some w.now⟩ old
  keys : q.seen.quizzes.keys = d.quizzes.keys
  made : (Quizzes.getOrCreateTags [] (data.tags.getD [])).alone Quizzes.exec (nested d w) =
    (.ok newTags, nested d w)
  tags : q.seen.tags.rows = d.tags.rows ++ newTags
  replaced : (Quizzes.replaceQuestions ((d.loadQuestions quizId).map LoadedQuestion.nested)
    data.questions).alone
    Quizzes.exec (nested d w) = (.ok (removed, added), nested d w)
  held : quiz.questions.map LoadedQuestion.nested = data.questions.elim
    ((d.loadQuestions quizId).map LoadedQuestion.nested) fun _ =>
      flushQuestions quizId w.draws added
  questions : q.seen.nested.questions.rows = (d.nested.questions.rows.filter fun q =>
    q.questionId ∉ removed) ++
    flushQuestions quizId w.draws added
  world : q.world = ⟨w.draws + identifiers added, w.now⟩

lemma replayed_of_yields (h : Yields (editQuiz quizId userId data) ⟨d, d, w⟩ quiz q) :
    ∃ old newTags removed added, Replayed quizId userId data old newTags removed added
      quiz d w q := by
  obtain ⟨found, p, hp, h⟩ := Yields.bind_iff.mp h
  obtain ⟨hfound, rfl⟩ := Yields.select_iff.mp hp
  subst hfound
  cases hquiz : d.quizzes.get? quizId with
  | none =>
    simp only [Rows.fetchQuiz, hquiz, Option.map_none] at h
    exact (Yields.throw_iff.mp h).elim
  | some old =>
    simp only [Rows.fetchQuiz, hquiz, Option.map_some] at h
    obtain ⟨_, p, hp, h⟩ := Yields.bind_iff.mp h
    obtain ⟨howner, rfl⟩ := Yields.require_iff.mp hp
    obtain ⟨_, p, hp, h⟩ := Yields.bind_iff.mp h
    obtain ⟨hdraft, rfl⟩ := Yields.require_iff.mp hp
    obtain ⟨_, p₁, hp₁, h⟩ := Yields.bind_iff.mp h
    obtain ⟨tags, p₂, hp₂, h⟩ := Yields.bind_iff.mp h
    obtain ⟨_, p₃, hp₃, h⟩ := Yields.bind_iff.mp h
    obtain ⟨questions, p₄, hp₄, h⟩ := Yields.bind_iff.mp h
    obtain ⟨now, p₅, hp₅, h⟩ := Yields.bind_iff.mp h
    obtain ⟨_, p₆, hp₆, h⟩ := Yields.bind_iff.mp h
    obtain ⟨rfl, rfl⟩ := Yields.pure_iff.mp h
    obtain ⟨d₁, hd₁, rfl⟩ := Yields.stage_iff.mp hp₁
    obtain ⟨d₃, hd₃, rfl⟩ := Yields.stage_iff.mp hp₃
    obtain ⟨rfl, rfl⟩ := Yields.world_iff.mp hp₅
    obtain ⟨d₆, hd₆, rfl⟩ := Yields.stage_iff.mp hp₆
    have h₁ := Sql.quizUpdated_of_ok hd₁
    have h₂ := tagsReplaced_of_yields hp₂
    have h₃ := Sql.quizUpdated_of_ok hd₃
    have h₆ := Sql.quizUpdated_of_ok hd₆
    have hquestions₃ : d₃.questions = d.questions := by
      rw [h₃.questions, h₂.rows]; exact h₁.questions
    have hanswers₃ : d₃.answers = d.answers := by rw [h₃.answers, h₂.rows]; exact h₁.answers
    have hloaded : d₃.loadQuestions quizId = d.loadQuestions quizId :=
      Rows.loadQuestions_congr hquestions₃ hanswers₃ quizId
    obtain ⟨newTags, hmade, htags, hworld⟩ := replaceTags_nested (s := nested d w) hp₂
      (congrArg Table.rows h₁.tags)
    obtain rfl := Table.key_get? hquiz
    simp only [Rows.load] at hp₄
    rw [← hloaded] at hp₄
    have h₄ := questionsReplaced_of_yields hp₄
    obtain ⟨removed, added, hreplaced, hdrawn, hheld, hrows⟩ :=
      replaceQuestions_nested (p := ⟨p₂.committed, d₃, p₂.world⟩) hp₄ (nested d w)
    dsimp only at hreplaced hdrawn hheld hrows
    rw [hloaded] at hreplaced hheld
    rw [hworld] at hdrawn hheld hrows
    refine ⟨old, newTags, removed, added, hquiz, howner, hdraft, ?_, ?_, hmade, ?_, hreplaced,
      hheld, ?_, hdrawn⟩
    · dsimp only
      rw [hdrawn]
      rfl
    · rw [h₆.quizzes, Table.keys_modify, h₄.rows]
      dsimp only
      rw [h₃.quizzes, Table.keys_modify, h₂.rows]
      dsimp only
      rw [h₁.quizzes, Table.keys_modify]
    · rw [h₆.tags, h₄.rows]
      dsimp only
      rw [h₃.tags]
      exact htags
    · rw [nested_questions_congr h₆.questions h₆.answers, hrows, nested_questions_congr
        hquestions₃ hanswers₃]

lemma Replayed.rewritten {old : Quiz} {newTags : List String} {removed : List UUID}
    {added : List NewQuestion}
    (h : Replayed quizId userId data old newTags removed added quiz d w q)
    (hedited : Edited quizId userId data quiz d q.seen) :
    Rewritten quizId old quiz.quiz quiz.tags newTags removed added w.draws d.toRows
      q.seen.toRows := by
  obtain ⟨p, r, hreplaced, hold, hnew⟩ := hedited.tags
  refine ⟨h.found, hedited.row, h.keys, by
    rw [h.row]; exact ⟨rfl, rfl⟩, fun other hother => ?_, ?_, h.tags, h.questions⟩
  · exact ⟨hedited.others other hother, (hedited.updated.others other hother).tags⟩
  · have hstored := Rows.tagsOf_congr hold quizId
    rw [← hstored] at hreplaced ⊢
    rw [Rows.tagsOf_congr hnew, hreplaced.flushed]

theorem updateQuiz_nested (hplace : ByPlace)
    (h : serve (updateQuiz quizId userId data) d w = (.ok out, e, w')) :
    (Quizzes.updateQuiz quizId userId data).alone Quizzes.exec (nested d w) =
      (.ok out, nested e w') := by
  obtain ⟨held, hyields, hout⟩ := yields_of_serve (uncommitted_editQuiz data) found_of_editQuiz h
  obtain ⟨old, newTags, removed, added, hreplayed⟩ := replayed_of_yields hyields
  have hedited := edited_of_yields hyields
  have hrewritten := hreplayed.rewritten hedited
  obtain rfl := Table.key_get? hreplayed.found
  have hfetch := fetchQuiz_nested hplace d w old.quizId
  rw [Rows.fetchQuiz, hreplayed.found] at hfetch
  rw [Quizzes.updateQuiz, alone_bind_ok hfetch]
  simp only [Option.map_some, alone_require_bind]
  refine (if_pos hreplayed.owner).trans ((if_pos hreplayed.draft).trans ?_)
  rw [alone_bind_ok hreplayed.made]
  refine (alone_bind_ok hreplayed.replaced).trans ?_
  refine (alone_perform_bind (a := w.now) rfl).trans ?_
  have hheld :
    (⟨{ Quizzes.applyUpdate data (old.nested (Platform.arrange (d.tagsOf old.quizId)))
    with updatedAt := w.now },
      data.questions.elim ((d.loadQuestions old.quizId).map LoadedQuestion.nested)
        fun _ => flushQuestions old.quizId w.draws added⟩ : Quizzes.LoadedQuiz) = held.nested := by
    obtain ⟨p, r, htags, -, -⟩ := hedited.tags
    rw [applyUpdate_nested, ← hreplayed.row, ← hreplayed.held, ← htags.tags]
    rfl
  have hcurrent := congrArg Quizzes.LoadedQuiz.quiz hheld
  dsimp only at hcurrent
  have hcommit :
    Quizzes.exec
    (.commit ⟨⟨old.nested (Platform.arrange (d.tagsOf old.quizId)), held.nested.quiz⟩, newTags,
      removed, added⟩) (nested d w) = (.ok (flushQuestions old.quizId w.draws added),
      nested e w') := by
    obtain rfl : w' = _ := hreplayed.world
    exact Quizzes.exec_commit (s := nested d w) hrewritten.commit
  rw [← hcurrent] at hcommit
  refine (alone_perform_bind hcommit).trans ?_
  refine (congrArg (fun held => ((Quizzes.refetchQuiz held >>= _ : Quizzes.Handler QuizOut).alone
    Quizzes.exec _)) hheld).trans ?_
  have hrow : e.quizzes.get? held.quiz.quizId = some held.quiz := by
    rw [hedited.id_eq]
    exact hedited.row
  rw [alone_bind_ok (refetchQuiz_nested held hrow), ← hout, ← quizToResponse_nested]
  rfl

end Update

end Requests

end Askit.Relational

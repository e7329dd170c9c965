import Askit.Quizzes.Documents
import Askit.Relational.Widths

/-! An exported quiz can be imported, and says the same when it is exported again. -/

namespace Askit.Relational

open Interleaving Coro Tables
open Game (UUID Time Runtime)
open Quizzes (Platform QuizStatus QuizAnswerCreate QuizQuestionCreate QuizSettingsCreate QuizCreate
  QuizUpdate QuizOut
  QuizExportOut QuizQuestionExport Exn Integer StoredTags newQuestions of_getD)

section Export

variable [Platform]

/-- The schema of the settings takes no empty column. -/
def exportQuiz (quizId userId : UUID) : Handler QuizExportOut := do
  let some quiz ← select fun d => d.fetchQuiz quizId | throw .quizNotFoundError
  require (quiz.quiz.creatorId = userId) .quizAccessDeniedError
  let questions : List QuizQuestionExport :=
    (quiz.questions.insertionSort fun q r => q.question.position ≤ r.question.position).map fun q =>
      ⟨q.question.text, q.question.timeLimit, q.question.allowMultipleAnswers,
        q.answers.map fun a => ⟨a.text, a.isCorrect⟩⟩
  let some maxParticipants := quiz.quiz.maxParticipants | throw .validationError
  pure ⟨quiz.quiz.title, quiz.quiz.description, quiz.tags,
    ⟨quiz.quiz.defaultTimePerQuestion, quiz.quiz.visibility, maxParticipants⟩, questions⟩

end Export

def SameQuestion (q r : QuizQuestionCreate) : Prop :=
  { q with answers := [] } = { r with answers := [] } ∧ q.answers.Perm r.answers

lemma SameQuestion.forall_mem {P : QuizQuestionCreate → Prop} {l m : List QuizQuestionCreate}
    (h : List.Forall₂ SameQuestion l m) (hP : ∀ q r, SameQuestion q r → P q → P r)
    (hl : ∀ q ∈ l, P q) :
    ∀ r ∈ m, P r := by
  induction h with
  | nil => exact List.forall_mem_nil _
  | cons hqr _ ih =>
    obtain ⟨hq, hl⟩ := List.forall_mem_cons.mp hl
    exact List.forall_mem_cons.mpr ⟨hP _ _ hqr hq, ih hl⟩

/-- The quiz `copy` is like the quiz, but for its owner, its status and its times. -/
structure Copies (d : Rows) (quiz : Quiz) (e : Rows) (copy : Quiz) : Prop where
  title : copy.title = quiz.title
  description : copy.description = quiz.description
  default_time : copy.defaultTimePerQuestion = quiz.defaultTimePerQuestion
  visibility : copy.visibility = quiz.visibility
  max_participants : copy.maxParticipants = quiz.maxParticipants
  tags : (e.tagsOf copy.quizId).Perm (d.tagsOf quiz.quizId)
  questions : List.Forall₂ (fun q r => q.1 = r.1 ∧ SameQuestion q.2 r.2) (d.body quiz.quizId)
    (e.body copy.quizId)

/-- The documents differ at most in the orders of the tags and of the answers of a question. -/
structure SameDocument (a b : QuizExportOut) : Prop where
  fields : { a with tags := [], questions := [] } = { b with tags := [], questions := [] }
  tags : a.tags.Perm b.tags
  questions : List.Forall₂ (fun q r : QuizQuestionExport => SameQuestion q.content r.content)
    a.questions b.questions

structure Represents (d : Rows) (quiz : Quiz) (data : QuizCreate) : Prop where
  title : quiz.title = data.title
  description : quiz.description = data.description
  default_time : quiz.defaultTimePerQuestion = data.settings.defaultTimePerQuestion
  visibility : quiz.visibility = data.settings.visibility
  max_participants : quiz.maxParticipants = some data.settings.maxParticipants
  tags : (d.tagsOf quiz.quizId).Perm data.tags
  questions : d.body quiz.quizId = (List.range' 1 data.questions.length).zip data.questions

section Rows

variable {d e : Rows} {quiz : Quiz} {data : QuizCreate}

lemma Represents.same (h : Represents d quiz data) (hsame : SameQuiz quiz.quizId d e) :
    Represents e quiz data := by
  refine { h with tags := hsame.tags ▸ h.tags, questions := ?_ }
  rw [← h.questions, Rows.body, Rows.body, hsame.questions]
  refine List.map_congr_left fun q hq => ?_
  rw [hsame.answers q hq]

lemma Represents.positions (h : Represents d quiz data) :
    (d.questionsOf quiz.quizId).map QuizQuestion.position =
      List.range' 1 data.questions.length := by
  have hfst := congrArg (List.map Prod.fst) h.questions
  rwa [Rows.body, List.map_map, List.map_fst_zip (by simp)] at hfst

lemma Represents.contents (h : Represents d quiz data) :
    data.questions = (d.body quiz.quizId).map Prod.snd := by
  rw [h.questions, List.map_snd_zip (by simp)]

variable [Platform]

lemma loadQuestions_of_represents (h : Represents d quiz data) :
    d.loadQuestions quiz.quizId = (d.questionsOf quiz.quizId).map d.loadQuestion := by
  have hpositions := h.positions
  have hsorted : (d.questionsOf quiz.quizId).Pairwise fun q r => q.position < r.position := by
    rw [← List.pairwise_map, hpositions]
    exact List.pairwise_lt_range'
  rw [Rows.loadQuestions, insertionSort_of_positions (Platform.arrange_perm _) hsorted]

def documentOf (d : Rows) (quiz : Quiz) (maxParticipants : ℤ) : QuizExportOut :=
  ⟨quiz.title, quiz.description, Platform.arrange (d.tagsOf quiz.quizId),
    ⟨quiz.defaultTimePerQuestion, quiz.visibility, maxParticipants⟩,
    (d.questionsOf quiz.quizId).map fun q =>
      ⟨q.text, q.timeLimit, q.allowMultipleAnswers,
        (Platform.arrange (d.answersOf q.questionId)).map fun a => ⟨a.text, a.isCorrect⟩⟩⟩

lemma serve_exportQuiz {d : Database} {w : World} {quizId : UUID}
    (hquiz : d.quizzes.get? quizId = some quiz) (h : Represents d.toRows quiz data) :
    serve (exportQuiz quizId quiz.creatorId) d w =
      (.ok (documentOf d.toRows quiz data.settings.maxParticipants), d, w) := by
  obtain rfl := Table.key_get? hquiz
  have hfetch : d.fetchQuiz quiz.quizId = some (d.load quiz) := by
    rw [Rows.fetchQuiz, hquiz]
    rfl
  have hsorted : ((d.load quiz).questions.insertionSort fun q r =>
    q.question.position ≤ r.question.position) =
      (d.questionsOf quiz.quizId).map d.loadQuestion := by
    rw [Rows.load, ← loadQuestions_of_represents h]
    refine List.Pairwise.insertionSort_eq ?_
    rw [Rows.loadQuestions, List.pairwise_map]
    exact List.pairwise_insertionSort _ _
  have halone : (exportQuiz quiz.quizId quiz.creatorId).alone View.exec ⟨d, .ok d, w⟩ =
      (.ok (documentOf d.toRows quiz data.settings.maxParticipants), ⟨d, .ok d, w⟩) := by
    refine (alone_perform_bind (a := d.fetchQuiz quiz.quizId) rfl).trans ?_
    simp only [hfetch, hsorted]
    have howner : (d.load quiz).quiz.creatorId = quiz.creatorId := rfl
    have hmax : (d.load quiz).quiz.maxParticipants = some data.settings.maxParticipants :=
      h.max_participants
    rw [require, if_pos howner, hmax, documentOf, List.map_map]
    rfl
  rw [serve_eq, halone]

lemma sameQuestion_document (h : Represents d quiz data) (n : ℤ) :
    List.Forall₂ SameQuestion data.questions (documentOf d quiz n).content.questions := by
  rw [h.contents, Rows.body, documentOf, QuizExportOut.content, List.map_map, List.map_map,
    List.forall₂_map_left_iff, List.forall₂_map_right_iff, List.forall₂_same]
  intro q _
  refine ⟨rfl, ?_⟩
  rw [Function.comp_apply, Function.comp_apply, QuizQuestionExport.content, List.map_map]
  exact ((Platform.arrange_perm _).map _).symm

lemma sound_document (h : Represents d quiz data) (hdata : data.Sound) :
    (documentOf d quiz data.settings.maxParticipants).content.Sound := by
  have hsettings : (documentOf d quiz data.settings.maxParticipants).content.settings =
      data.settings := by
    simp only [documentOf, QuizExportOut.content, Quizzes.QuizSettingsExport.content,
      h.default_time, h.visibility]
  have hbounds : ∀ q ∈ (documentOf d quiz data.settings.maxParticipants).content.questions,
      q.inBounds := by
    refine SameQuestion.forall_mem (sameQuestion_document h _) (fun q r hsame hq => ?_)
      hdata.bounds.2
    have htime := congrArg QuizQuestionCreate.timeLimit hsame.1
    dsimp only at htime
    rwa [QuizQuestionCreate.inBounds, ← htime]
  refine ⟨?_, ?_, hdata.tags.perm ((Platform.arrange_perm _).trans h.tags), ?_, ?_, hbounds⟩
  · exact (congrArg (fun title => Quizzes.validateTitle title = .ok title) h.title).mpr hdata.title
  · exact (congrArg (fun description => Quizzes.validateDescription description = .ok description)
      h.description).mpr
      hdata.description
  · rw [hsettings]
    exact hdata.settings
  · rw [hsettings]
    exact hdata.bounds.1

lemma accept_document [Codec.Lenient] (h : Represents d quiz data) (hdata : data.Sound) :
    QuizCreate.accept (documentOf d quiz data.settings.maxParticipants).toJson =
      some (documentOf d quiz data.settings.maxParticipants).content := by
  rw [QuizCreate.accept, QuizCreate.read_toJson, Option.bind_some,
    (sound_document h hdata).validate]
  rfl

end Rows

/-- Every quiz is what bodies have made it that have come through their schemas. -/
def Sourced [Platform] (d : Rows) : Prop :=
  ∀ quiz ∈ d.quizzes.rows, ∃ data : QuizCreate, data.Sound ∧ Answerable data.questions ∧
    Represents d quiz data

def Request.Validated [Platform] : Request → Prop
  | createQuiz _ data => ∃ raw : QuizCreate, raw.validate = .ok data
  | updateQuiz _ _ data => ∃ raw : QuizUpdate, raw.validate = .ok data
  | _ => True

/-- The tables in which quizzes are stored are as they were. -/
structure KeepsQuizzes (d e : Rows) : Prop where
  quizzes : e.quizzes = d.quizzes
  questions : e.questions = d.questions
  answers : e.answers = d.answers
  quizTags : e.quizTags = d.quizTags

section Sources

section Creation

variable {d e : Database} {userId : UUID} {data : QuizCreate} {held : LoadedQuiz}

lemma Created.get? (h : Created userId data held d e) :
    e.quizzes.get? held.quiz.quizId = some held.quiz :=
  Table.get?_of_mem (h.row ▸ List.mem_append_right _ (List.mem_singleton_self _))

lemma Created.represents (h : Created userId data held d e) :
    Represents e.toRows held.quiz data := by
  obtain ⟨now, hfields⟩ := h.fields
  refine ⟨?_, ?_, ?_, ?_, ?_, List.Perm.of_eq h.tags, h.questions⟩ <;> rw [hfields]

end Creation

variable {d e : Rows}

lemma KeepsQuizzes.same (h : KeepsQuizzes d e) (quizId : UUID) : SameQuiz quizId d e where
  fields := by rw [h.quizzes]
  questions := Rows.questionsOf_congr h.questions quizId
  answers q _ := Rows.answersOf_congr h.answers q.questionId
  tags := Rows.tagsOf_congr h.quizTags quizId

variable [Platform]

lemma Sourced.kept (h : Sourced d) {quiz : Quiz} (hquiz : d.quizzes.get? quiz.quizId = some quiz)
    (hsame : SameQuiz quiz.quizId d e) :
    ∃ data : QuizCreate, data.Sound ∧ Answerable data.questions ∧ Represents e quiz data := by
  obtain ⟨data, hsound, hcorrect, hrepresents⟩ := h quiz (Table.mem_get? hquiz)
  exact ⟨data, hsound, hcorrect, hrepresents.same hsame⟩

lemma Sourced.of_sub (h : Sourced d) (hquizzes : e.quizzes.rows ⊆ d.quizzes.rows)
    (hsame : ∀ quiz ∈ e.quizzes.rows, SameQuiz quiz.quizId d e) : Sourced e :=
  fun quiz hquiz => h.kept (Table.get?_of_mem (hquizzes hquiz)) (hsame quiz hquiz)

lemma Sourced.keeps (h : Sourced d) (hkept : KeepsQuizzes d e) : Sourced e :=
  h.of_sub (fun _ hquiz => hkept.quizzes ▸ hquiz) fun quiz _ => hkept.same quiz.quizId

variable {d : Database} {w : World} {userId quizId : UUID}

lemma sourced_create (h : Sourced d.toRows) {data : QuizCreate}
    (hdata : ∃ raw : QuizCreate, raw.validate = .ok data) {held : LoadedQuiz}
    {q : Point Database World} (hyields : Yields (newQuiz userId data) ⟨d, d, w⟩ held q) :
    Sourced q.seen.toRows := by
  obtain ⟨raw, hraw⟩ := hdata
  obtain ⟨s, t, hassembled⟩ := assembled_of_yields hyields
  have hcreated := hassembled.created
  intro quiz hquiz
  rw [hcreated.row, List.mem_append, List.mem_singleton] at hquiz
  rcases hquiz with hquiz | rfl
  · have hother : quiz.quizId ≠ held.quiz.quizId :=
      fun heq => hassembled.fresh (heq ▸ Table.key_mem_keys hquiz)
    exact h.kept (Table.get?_of_mem hquiz) (hassembled.others hother)
  · obtain ⟨questions, hquestions, -⟩ := hassembled.questions
    exact ⟨data, QuizCreate.sound_of_validate hraw, answerable_of_newQuestions hquestions,
      hcreated.represents⟩

lemma Edited.answerable {data : QuizUpdate} {held : LoadedQuiz} {e : Database}
    (h : Edited quizId userId data held d e) {questions : List QuizQuestionCreate}
    (hgiven : data.questions = some questions) :
    Answerable questions := by
  obtain ⟨p, q, hreplaced, -⟩ := h.questions
  obtain ⟨rows, r, hrows, -⟩ := hreplaced.added questions hgiven
  exact answerable_of_newQuestions hrows

lemma Represents.updated {d e : Rows} {data : QuizUpdate} {body : QuizCreate} {old new : Quiz}
    (h : Represents d old body) (hdata : data.Sound) (hupdated : Updated old.quizId data d e)
    (hfields : FieldsUpdated data old new) (hid : new.quizId = old.quizId) :
    Represents e new (data.onto body) := by
  refine ⟨?_, ?_, ?_, ?_, ?_, ?_, ?_⟩
  · rw [hfields.title, h.title, QuizUpdate.onto]
  · rw [hfields.description, h.description, QuizUpdate.onto]
  · rw [hfields.default_time, h.default_time, QuizUpdate.onto]
    cases data.settings <;> rfl
  · rw [hfields.visibility, h.visibility, QuizUpdate.onto]
    cases data.settings <;> rfl
  · rw [hfields.max_participants, h.max_participants, QuizUpdate.onto]
    cases data.settings <;> rfl
  · rw [hid, QuizUpdate.onto]
    cases hgiven : data.tags with
    | none =>
      rw [hupdated.tags_kept hgiven]
      exact h.tags
    | some tags =>
      exact (List.perm_ext_iff_of_nodup (Rows.nodup_tagsOf _ _) (hdata.tags tags hgiven).nodup).mpr
        (hupdated.tags tags hgiven)
  · rw [hid, QuizUpdate.onto]
    cases hgiven : data.questions with
    | none =>
      obtain ⟨hquestions, hanswers⟩ := hupdated.questions_kept hgiven
      rw [Option.getD_none, ← h.questions, Rows.body, Rows.body, hquestions]
      refine List.map_congr_left fun q hq => ?_
      rw [hanswers q hq]
    | some questions => exact hupdated.questions questions hgiven

lemma sourced_update (h : Sourced d.toRows) {data : QuizUpdate}
    (hdata : ∃ raw : QuizUpdate, raw.validate = .ok data) {held : LoadedQuiz}
    {q : Point Database World} (hyields : Yields (editQuiz quizId userId data) ⟨d, d, w⟩ held q) :
    Sourced q.seen.toRows := by
  obtain ⟨raw, hraw⟩ := hdata
  have hdata := QuizUpdate.sound_of_validate hraw
  have hedited := edited_of_yields hyields
  have hupdated := hedited.updated
  intro quiz hquiz
  by_cases hother : quiz.quizId = quizId
  · obtain ⟨old, new, hold, hnew, hfields⟩ := hupdated.fields
    have hget := Table.get?_of_mem hquiz
    rw [hother, hnew] at hget
    obtain rfl := Option.some.inj hget
    obtain ⟨body, hbody, hcorrect, hrepresents⟩ := h old (Table.mem_get? hold)
    obtain rfl := Table.key_get? hold
    exact ⟨data.onto body, hdata.onto hbody,
      of_getD (fun questions hgiven => hedited.answerable hgiven) hcorrect,
      hrepresents.updated hdata hupdated hfields hother⟩
  · have hsame := hupdated.others quiz.quizId hother
    exact h.kept (hsame.fields.symm.trans (Table.get?_of_mem hquiz)) hsame

lemma sourced_setStatus (h : Sourced d.toRows) {status : QuizStatus} {held : LoadedQuiz}
    {q : Point Database World}
    (hyields : Yields (changeStatus quizId status userId) ⟨d, d, w⟩ held q) :
    Sourced q.seen.toRows := by
  obtain ⟨old, hold, -, -, hupdated, -⟩ := Alike.changed_of_yields hyields
  intro quiz hquiz
  rw [hupdated.quizzes, Table.rows_modify, List.mem_map] at hquiz
  obtain ⟨row, hrow, rfl⟩ := hquiz
  obtain ⟨data, hsound, hcorrect, hrepresents⟩ := h row hrow
  have hid : (if row.quizId = quizId then QuizSet.apply
    { status := some status, updatedAt := some w.now } row
      else row).quizId = row.quizId := by
    split <;> rfl
  refine ⟨data, hsound, hcorrect, ?_, ?_, ?_, ?_, ?_, ?_, ?_⟩
  · split
    · exact hrepresents.title
    · exact hrepresents.title
  · split
    · exact hrepresents.description
    · exact hrepresents.description
  · split
    · exact hrepresents.default_time
    · exact hrepresents.default_time
  · split
    · exact hrepresents.visibility
    · exact hrepresents.visibility
  · split
    · exact hrepresents.max_participants
    · exact hrepresents.max_participants
  · rw [hid, Rows.tagsOf_congr hupdated.quizTags]
    exact hrepresents.tags
  · rw [hid, Rows.body, Rows.questionsOf_congr hupdated.questions]
    simp only [Rows.answersOf_congr hupdated.answers]
    exact hrepresents.questions

omit [Platform] in
lemma Deleted.same {d e : Rows} (h : Deleted quizId d e) {other : UUID} (hother : other ≠ quizId) :
    SameQuiz other d e := by
  refine ⟨?_, ?_, fun q hq => ?_, ?_⟩
  · rw [Table.get?, h.quizzes, List.find?_filter, Table.get?]
    congr 1
    funext q
    by_cases hq : q.quizId = other
    · simp [hq, hother]
    · simp [hq]
  · rw [Rows.questionsOf, h.questions, List.filter_filter]
    exact List.filter_congr fun q _ => by grind
  · obtain ⟨hq, hof⟩ := Rows.mem_questionsOf.mp hq
    rw [Rows.answersOf, h.answers, List.filter_filter]
    refine List.filter_congr fun a _ => ?_
    have hkept : a.questionId = q.questionId → ¬d.OfQuestion quizId a := by
      rintro ha ⟨r, hr, hquiz, hid⟩
      obtain rfl := List.inj_on_of_nodup_map d.questions.unique hr hq (hid.trans ha)
      exact hother (hof.symm.trans hquiz)
    by_cases ha : a.questionId = q.questionId
    · simpa [ha] using hkept ha
    · simp [ha]
  · rw [Rows.tagsOf, h.quizTags, List.filter_filter, Rows.tagsOf]
    congr 1
    exact List.filter_congr fun l _ => by grind

lemma sourced_delete (h : Sourced d.toRows) {e : Database}
    (hdeleted : Deleted quizId d.toRows e.toRows) :
    Sourced e.toRows := by
  refine h.of_sub (hdeleted.quizzes ▸ List.filter_subset_self _) fun quiz hquiz => hdeleted.same ?_
  rw [hdeleted.quizzes, List.mem_filter, decide_eq_true_eq] at hquiz
  exact hquiz.2

lemma sourced_commitQuiz (h : Sourced d.toRows) {x : Handler LoadedQuiz} (hx : Uncommitted x)
    (hfound : ∀ held q, Yields x ⟨d, d, w⟩ held q → (q.seen.quizzes.get? held.quiz.quizId).isSome)
    (hyields : ∀ held q, Yields x ⟨d, d, w⟩ held q → Sourced q.seen.toRows) :
    Sourced (serve (x >>= commitQuiz) d w).2.1.toRows := by
  rcases serve_commitQuiz hx hfound with ⟨e, w', -, hrun⟩ | ⟨held, q, -, hq, hrun⟩
  · rw [hrun]
    exact h
  · rw [hrun]
    exact hyields held q hq

lemma sourced_request (h : Sourced d.toRows) (hsited : d.Sited) {r : Request} (hr : r.Validated) :
    Sourced (r.run d w).1.toRows := by
  cases r with
  | createQuiz userId data =>
    exact sourced_commitQuiz h (uncommitted_newQuiz data) found_of_newQuiz fun held q =>
      sourced_create h hr
  | updateQuiz quizId userId data =>
    exact sourced_commitQuiz h (uncommitted_editQuiz data) found_of_editQuiz fun held q =>
      sourced_update h hr
  | setQuizStatus quizId newStatus userId =>
    exact sourced_commitQuiz h (Alike.uncommitted_changeStatus newStatus)
      Alike.found_of_changeStatus
      fun held q => sourced_setStatus h
  | deleteQuiz quizId userId =>
    change Sourced (serve (deleteQuiz quizId userId) d w).2.1.toRows
    rcases serve_deleteQuiz quizId userId d w with ⟨err, w', -, hrun⟩ | ⟨quiz, hquiz, howner⟩
    · rw [hrun]
      exact h
    · obtain ⟨e, hrun, hdeleted⟩ := serve_deleteQuiz_of_owner (w := w) hquiz howner hsited
      rw [hrun]
      exact sourced_delete h hdeleted
  | toggleFavorite quizId userId =>
    obtain ⟨r, e, hrun, he⟩ := Site.toggleFavorite_writes quizId userId d w
    change Sourced (serve (toggleFavorite quizId userId) d w).2.1.toRows
    rw [serve_eq, hrun]
    refine h.keeps ⟨?_, ?_, ?_, ?_⟩ <;> dsimp only <;> rw [he]

end Sources

namespace Site

variable [Platform] {s t : Site}

/-- The runs in which the bodies of all quizzes have come through their schemas. -/
inductive Authored : Site → Prop
  | init (now : Time) : Authored ⟨.empty, ⟨0, now⟩, fun _ => none, []⟩
  | request {s : Site} {r : Request} (hr : r.Validated) (hs : Authored s) :
      Authored { s with db := (r.run s.db s.world).1, world := (r.run s.db s.world).2 }
  | other {s t : Site} (hstep : Step s t) (hkept : KeepsQuizzes s.db.toRows t.db.toRows)
      (hs : Authored s) : Authored t

/-- Only the requests of `QuizService` write quizzes. -/
theorem Step.request_or_keeps (h : Step s t) :
    (∃ r : Request, t = { s with db := (r.run s.db s.world).1, world := (r.run s.db s.world).2 }) ∨
      KeepsQuizzes s.db.toRows t.db.toRows := by
  cases h with
  | request r => exact .inl ⟨r, rfl⟩
  | register hid hu =>
    unfold Sql.insertUser at hu
    split_ifs at hu
    cases hu
    exact .inr ⟨rfl, rfl, rfl, rfl⟩
  | account hu =>
    obtain rfl := Except.ok.inj hu
    exact .inr ⟨rfl, rfl, rfl, rfl⟩
  | createRoom hquiz howner hstatus hg =>
    unfold Sql.insertSession at hg
    split_ifs at hg
    cases hg
    exact .inr ⟨rfl, rfl, rfl, rfl⟩
  | joinRoom hroom hstatus hhost hp =>
    unfold Sql.insertPlayer at hp
    split_ifs at hp
    cases hp
    exact .inr ⟨rfl, rfl, rfl, rfl⟩
  | connect hroom hp hsession => exact .inr ⟨rfl, rfl, rfl, rfl⟩
  | startGame hroom hhost hstatus hg hids =>
    obtain rfl := Except.ok.inj hg
    exact .inr ⟨rfl, rfl, rfl, rfl⟩
  | progress hg =>
    obtain rfl := Except.ok.inj hg
    exact .inr ⟨rfl, rfl, rfl, rfl⟩
  | submitAnswer hroom hstatus hadmitted horder hstarted hcurrent hscore hrecord =>
    obtain rfl := Except.ok.inj hscore
    unfold Sql.insertRecord at hrecord
    split_ifs at hrecord
    cases hrecord
    exact .inr ⟨rfl, rfl, rfl, rfl⟩
  | setPlayerConnected hp =>
    obtain rfl := Except.ok.inj hp
    exact .inr ⟨rfl, rfl, rfl, rfl⟩
  | expire roomCode => exact .inr ⟨rfl, rfl, rfl, rfl⟩
  | idle hw => exact .inr ⟨rfl, rfl, rfl, rfl⟩

lemma Authored.reachable (h : Authored s) : s.Reachable := by
  induction h with
  | init now => exact .init now
  | request _ _ ih => exact .step ih (.request _ _)
  | other hstep _ _ ih => exact .step ih hstep

lemma Authored.sourced (h : Authored s) : Sourced s.db.toRows := by
  induction h with
  | init now => exact List.forall_mem_nil _
  | request hr hs ih => exact sourced_request ih hs.reachable.inv.sited hr
  | other hstep hkept _ ih => exact ih.keeps hkept

end Site

section Import

variable [Platform] {d : Database} {quiz : Quiz} {data : QuizCreate}

lemma createFits_document (h : Represents d.toRows quiz data) (hquiz : quiz ∈ d.quizzes.rows)
    (n : ℤ) :
    Integer quiz.defaultTimePerQuestion ∧
    QuestionsFit (documentOf d.toRows quiz n).content.questions := by
  refine ⟨(d.intact.quizzes_fit quiz hquiz).2.2.1, ?_, fun q hq => ?_⟩
  · rw [← (sameQuestion_document h n).length_eq]
    apply integer_of_range'
    rw [← h.positions]
    exact List.forall_mem_map.mpr fun q hq =>
      (d.intact.questions_fit q (Rows.mem_questionsOf.mp hq).1).2.1
  · simp only [documentOf, QuizExportOut.content, List.map_map, List.mem_map,
      Function.comp_apply] at hq
    obtain ⟨r, hr, rfl⟩ := hq
    refine ⟨(d.intact.questions_fit r (Rows.mem_questionsOf.mp hr).1).1, fun a ha => ?_⟩
    simp only [QuizQuestionExport.content, List.map_map, List.mem_map, Function.comp_apply] at ha
    obtain ⟨b, hb, rfl⟩ := ha
    exact d.intact.answers_fit b (Rows.mem_answersOf.mp ((Platform.arrange_perm _).mem_iff.mp hb)).1

omit [Platform] in
lemma Answerable.same {l m : List QuizQuestionCreate} (h : Answerable l)
    (hsame : List.Forall₂ SameQuestion l m) :
    Answerable m :=
  SameQuestion.forall_mem hsame (fun _ _ hqr hq => hqr.2.any_eq ▸ hq) h

variable {e : Database} {userId : UUID} {held : LoadedQuiz}

omit [Platform] in
lemma forall₂_zip {positions : List ℕ} {l m : List QuizQuestionCreate}
    (h : List.Forall₂ SameQuestion l m) :
    List.Forall₂ (fun q r => q.1 = r.1 ∧ SameQuestion q.2 r.2) (positions.zip l)
      (positions.zip m) := by
  induction h generalizing positions with
  | nil => simp
  | cons hqr _ ih =>
    cases positions with
    | nil => exact .nil
    | cons p positions => exact .cons ⟨rfl, hqr⟩ ih

lemma copies_of_created {t : Database} (h : Represents d.toRows quiz data)
    (hcreated : Created userId (documentOf d.toRows quiz data.settings.maxParticipants).content held
      t e) :
    Copies d.toRows quiz e.toRows held.quiz := by
  obtain ⟨now, hfields⟩ := hcreated.fields
  have hsame := sameQuestion_document h data.settings.maxParticipants
  refine ⟨?_, ?_, ?_, ?_, ?_, ?_, ?_⟩
  · rw [hfields]
    rfl
  · rw [hfields]
    rfl
  · rw [hfields]
    rfl
  · rw [hfields]
    rfl
  · rw [hfields, h.max_participants]
    rfl
  · rw [hcreated.tags]
    exact Platform.arrange_perm _
  · rw [h.questions, hcreated.questions, ← hsame.length_eq]
    exact forall₂_zip hsame

lemma Copies.sameDocument {d e : Rows} {copy : Quiz} (h : Copies d quiz e copy) (n : ℤ) :
    SameDocument (documentOf d quiz n) (documentOf e copy n) := by
  refine ⟨?_, (Platform.arrange_perm _).trans
    (h.tags.symm.trans (Platform.arrange_perm _).symm), ?_⟩
  · rw [documentOf, documentOf, h.title, h.description, h.default_time, h.visibility]
  · have hquestions := h.questions
    rw [Rows.body, Rows.body, List.forall₂_map_left_iff, List.forall₂_map_right_iff] at hquestions
    rw [documentOf, documentOf, List.forall₂_map_left_iff, List.forall₂_map_right_iff]
    refine hquestions.imp fun q r hqr => ⟨hqr.2.1, ?_⟩
    rw [QuizQuestionExport.content, QuizQuestionExport.content, List.map_map, List.map_map]
    exact ((Platform.arrange_perm _).map _).trans
      (hqr.2.2.trans ((Platform.arrange_perm _).map _).symm)

end Import

/-- A stored quiz can be exported, the document imported at any later or earlier state of a site,
and the import exported again, which gives the same document. -/
theorem export_import [Platform] [Codec.Lenient] {s t : Site} (hs : s.Authored) (ht : t.Reachable)
    {quizId userId : UUID} {quiz : Quiz} (hquiz : s.db.quizzes.get? quizId = some quiz)
    (huser : userId ∈ t.db.users.keys) :
    ∃ document body, serve (exportQuiz quizId quiz.creatorId) s.db s.world =
      (.ok document, s.db, s.world) ∧
      QuizCreate.accept document.toJson = some body ∧
      ∃ out, ∃ e : Database, ∃ w copy, serve (createQuiz userId body) t.db t.world =
        (.ok out, e, w) ∧
        e.quizzes.get? out.quizId = some copy ∧ copy.creatorId = userId ∧
        Copies s.db.toRows quiz e.toRows copy ∧
        ∃ again, serve (exportQuiz out.quizId userId) e w = (.ok again, e, w) ∧
        SameDocument document again := by
  obtain ⟨data, hsound, hcorrect, hrepresents⟩ := hs.sourced quiz (Table.mem_get? hquiz)
  have hknown : Known ⟨t.db, t.db, t.world⟩ := ⟨ht.inv.quizzes, ht.inv.questions, ht.inv.answers⟩
  obtain ⟨htime, hfits⟩ := createFits_document hrepresents (Table.mem_get? hquiz)
    data.settings.maxParticipants
  obtain ⟨held, q, hyields⟩ := newQuiz_yields hknown huser
    (sound_document hrepresents hsound).validate
    (hcorrect.same (sameQuestion_document hrepresents _)) htime hfits
  have hcreated := created_of_yields hyields
  have hcopies := copies_of_created hrepresents hcreated
  obtain ⟨now, hfields⟩ := hcreated.fields
  have howner : held.quiz.creatorId = userId := by rw [hfields]
  have hagain := serve_exportQuiz (w := q.world) hcreated.get? hcreated.represents
  rw [howner] at hagain
  have hserve := serve_commitQuiz_of_yields hyields (found_of_newQuiz held q hyields)
  rw [quizToResponse_eq_ok.mpr ⟨_, by rw [hfields], rfl⟩] at hserve
  exact ⟨_, _, serve_exportQuiz hquiz hrepresents, accept_document hrepresents hsound, _, q.seen,
    q.world, held.quiz, hserve, hcreated.get?, howner, hcopies, _, hagain, hcopies.sameDocument _⟩

section

attribute [local instance] Platform.ascii Codec.Lenient.strict

open Sample

namespace Sample

lemma stocked_authored : stocked.Authored :=
  .request (s := registered) (r := .createQuiz member.id oceans) ⟨oceans, by decide +kernel⟩
    (.other (s := ⟨.empty, ⟨0, 7⟩, fun _ => none, []⟩) (.register (u := member) rfl rfl)
      ⟨rfl, rfl, rfl, rfl⟩ (.init 7))

end Sample

theorem export_import_stocked :
    ∃ document body, serve (exportQuiz (Runtime.uuid4 1) member.id) stocked.db stocked.world =
        (.ok document, stocked.db, stocked.world) ∧
      QuizCreate.accept document.toJson = some body ∧
      ∃ out, ∃ e : Database, ∃ w copy, serve (createQuiz member.id body) stocked.db stocked.world =
        (.ok out, e, w) ∧
        e.quizzes.get? out.quizId = some copy ∧ copy.creatorId = member.id ∧
        Copies stocked.db.toRows
          ⟨Runtime.uuid4 1, member.id, "Oceans", none, 30000, .private_, .draft, some 5, 7, 7⟩
            e.toRows copy ∧
        ∃ again, serve (exportQuiz out.quizId member.id) e w = (.ok again, e, w) ∧
        SameDocument document again := by
  have hquiz : stocked.db.quizzes.get? (Runtime.uuid4 1) =
      some ⟨Runtime.uuid4 1, member.id, "Oceans", none, 30000, .private_, .draft, some 5, 7,
        7⟩ := by decide +kernel
  exact export_import stocked_authored stocked_reachable hquiz (by decide +kernel)

end

end Askit.Relational

import Askit.Relational.Reachability

/-! The writes of a body that fits are not refused. -/

namespace Askit.Relational

open Interleaving Coro Tables
open Game (UUID Time Runtime)
open Quizzes (Platform QuizAnswerCreate QuizQuestionCreate QuizCreate QuizUpdate QuizOut NewQuestion
  Exn Varchar Integer
  TagName newQuestions)

def Answerable (questions : List QuizQuestionCreate) : Prop :=
  ∀ q ∈ questions, q.answers.any QuizAnswerCreate.isCorrect = true

def QuestionsFit (questions : List QuizQuestionCreate) : Prop :=
  Integer questions.length ∧ ∀ q ∈ questions, Varchar 255 q.text ∧ ∀ a ∈ q.answers,
    Varchar 255 a.text

/-- A body without a correct answer to one of its questions is refused before anything is
written. -/
def CreateFits (data : QuizCreate) : Prop :=
  Answerable data.questions → Integer data.settings.defaultTimePerQuestion ∧
    QuestionsFit data.questions

/-- The settings of an update are written before its questions are looked at. -/
def UpdateFits (data : QuizUpdate) : Prop :=
  (∀ settings ∈ data.settings, Integer settings.defaultTimePerQuestion) ∧
    ∀ questions ∈ data.questions, Answerable questions → QuestionsFit questions

section Storing

variable [Platform]

structure Known (p : Point Database World) : Prop where
  quizzes : ∀ k ∈ p.seen.quizzes.keys, Drawn 0 p.world.draws k
  questions : ∀ q ∈ p.seen.questions.rows, Drawn 0 p.world.draws q.questionId
  answers : ∀ a ∈ p.seen.answers.rows, Drawn 0 p.world.draws a.answerId

variable {p q : Point Database World} {quizId userId questionId : UUID}

lemma Known.edits (h : Known p) (he : Edits p q) : Known q :=
  ⟨he.quizzes.drawn h.quizzes he.draws, he.questions.drawn h.questions he.draws, he.answers.drawn
    h.answers he.draws⟩

lemma Known.fresh {ρ : Type} {key : ρ → UUID} {rows : List ρ} {n : ℕ}
    (h : ∀ r ∈ rows, Drawn 0 n (key r)) :
    Runtime.uuid4 n ∉ rows.map key := by
  intro hmem
  obtain ⟨r, hr, hid⟩ := List.mem_map.mp hmem
  have hnext := Drawn.next n
  rw [← hid] at hnext
  exact (h r hr).disjoint hnext

lemma addAnswers_yields {data : List QuizAnswerCreate} (h : Known p)
    (hquestion : questionId ∈ p.seen.questions.keys) (hfits : ∀ a ∈ data, Varchar 255 a.text) :
    ∃ answers q, Yields (addAnswers questionId data) p
      answers q := by
  induction data generalizing p with
  | nil => exact ⟨_, _, .pure _ _⟩
  | cons data rest ih =>
    obtain ⟨hdata, hrest⟩ := List.forall_mem_cons.mp hfits
    obtain ⟨d, hd⟩ := Sql.insertAnswer_ok_iff (d := p.seen)
      (a := ⟨Runtime.uuid4 p.world.draws, questionId, data.text,
      data.isCorrect⟩).mpr ⟨hdata, Known.fresh h.answers, hquestion⟩
    have hedits := Edits.insertAnswer hd
    obtain ⟨table, -, hrows⟩ := Sql.eq_of_insertAnswer hd
    obtain ⟨answers, q, hq⟩ := ih (p := ⟨p.committed, d, p.world.draw⟩) (h.edits hedits)
      (by rw [hrows]; exact hquestion) hrest
    exact ⟨_, q, .bind (.world _ _) (.bind (.stage (p := ⟨p.committed, p.seen, p.world.draw⟩) hd)
      (.bind hq (.pure _ _)))⟩

section Questions

variable {body : List QuizQuestionCreate}

omit [Platform] in
lemma newQuestions_ok (h : Answerable body) (position : ℕ) :
    ∃ data, newQuestions position body = .ok data := by
  induction body generalizing position with
  | nil => exact ⟨[], rfl⟩
  | cons q body ih =>
    obtain ⟨hq, hbody⟩ := List.forall_mem_cons.mp h
    obtain ⟨data, hdata⟩ := ih hbody (position + 1)
    rw [newQuestions, if_pos hq, hdata]
    exact ⟨_, rfl⟩

omit [Platform] in
lemma newQuestions_refused (h : ¬Answerable body) (position : ℕ) :
    ∃ message, newQuestions position body = .error (.invalidQuizDataError message) := by
  induction body generalizing position with
  | nil => exact (h (List.forall_mem_nil _)).elim
  | cons q body ih =>
    by_cases hq : q.answers.any QuizAnswerCreate.isCorrect = true
    · obtain ⟨message, hrest⟩ := ih (fun hbody => h (List.forall_mem_cons.mpr ⟨hq, hbody⟩))
        (position + 1)
      rw [newQuestions, if_pos hq, hrest]
      exact ⟨message, rfl⟩
    · rw [newQuestions, if_neg hq]
      exact ⟨_, rfl⟩

omit [Platform] in
lemma answerable_of_newQuestions {data : List NewQuestion} {position : ℕ}
    (h : newQuestions position body = .ok data) :
    Answerable body := by
  by_contra hbody
  obtain ⟨message, hrefused⟩ := newQuestions_refused hbody position
  rw [h] at hrefused
  cases hrefused

def NewQuestionFits (data : NewQuestion) : Prop :=
  Varchar 255 data.text ∧ Integer data.position ∧ Integer data.timeLimit ∧ ∀ a ∈ data.answers,
    Varchar 255 a.text

omit [Platform] in
lemma integer_of_range' {n : ℕ} (h : ∀ position ∈ List.range' 1 n, Integer position) :
    Integer n := by
  rcases Nat.eq_zero_or_pos n with rfl | hpos
  · decide
  · exact h n (List.mem_range'_1.mpr (by omega))

omit [Platform] in
lemma questionsFit_iff {data : List NewQuestion} (hdata : newQuestions 1 body = .ok data)
    (hbounds : ∀ q ∈ body, q.inBounds) : (∀ q ∈ data, NewQuestionFits q) ↔ QuestionsFit body := by
  obtain ⟨hpositions, rfl, -⟩ := Quizzes.Edits.newQuestions_eq_ok hdata
  rw [List.length_map] at hpositions
  constructor
  · intro h
    refine ⟨?_, fun q hq => ?_⟩
    · rw [List.length_map]
      apply integer_of_range'
      rw [← hpositions]
      exact List.forall_mem_map.mpr fun q hq => (h q hq).2.1
    · obtain ⟨r, hr, rfl⟩ := List.mem_map.mp hq
      exact ⟨(h r hr).1, (h r hr).2.2.2⟩
  · rintro ⟨hlength, hfits⟩ q hq
    have hcontent := hfits q.content (List.mem_map_of_mem hq)
    have hlimit : 5000 ≤ q.timeLimit ∧ q.timeLimit ≤ 300000 :=
      hbounds q.content (List.mem_map_of_mem hq)
    have hposition : q.position ∈ data.map NewQuestion.position := List.mem_map_of_mem hq
    rw [hpositions, List.mem_range'_1] at hposition
    rw [List.length_map] at hlength
    refine ⟨hcontent.1, ?_, ?_, hcontent.2⟩
    · unfold Integer at hlength ⊢
      omega
    · unfold Integer
      omega

end Questions

lemma addQuestions_yields {data : List NewQuestion} (h : Known p)
    (hquiz : quizId ∈ p.seen.quizzes.keys) (hfits : ∀ q ∈ data, NewQuestionFits q) :
    ∃ added q, Yields (addQuestions quizId data) p added q := by
  induction data generalizing p with
  | nil => exact ⟨_, _, .pure _ _⟩
  | cons data rest ih =>
    obtain ⟨⟨htext, hposition, htime, hanswers⟩, hrest⟩ := List.forall_mem_cons.mp hfits
    obtain ⟨d, hd⟩ := Sql.insertQuestion_ok_iff (d := p.seen)
      (q := ⟨Runtime.uuid4 p.world.draws, quizId, data.text,
      data.position, data.timeLimit, data.allowMultipleAnswers⟩).mpr
        ⟨⟨htext, hposition, htime⟩, Known.fresh h.questions, hquiz⟩
    have hknown := h.edits (Edits.insertQuestion hd)
    obtain ⟨-, table, htable, hrows⟩ := Sql.eq_of_insertQuestion hd
    have hfound : Runtime.uuid4 p.world.draws ∈ d.questions.keys := by
      rw [hrows, Table.keys, htable]
      simp
    obtain ⟨answers, r, hr⟩ := addAnswers_yields hknown hfound hanswers
    have hkept : quizId ∈ r.seen.quizzes.keys := by
      rw [(answersAdded_of_yields hr).rows]
      dsimp only
      rw [hrows]
      exact hquiz
    obtain ⟨added, q, hq⟩ := ih (hknown.edits (within_addAnswers _ _ _ _ hr)) hkept hrest
    exact ⟨_, q, .bind (.world _ _)
      (.bind (.stage (p := ⟨p.committed, p.seen, p.world.draw⟩) hd) (.bind hr
      (.bind hq (.pure _ _))))⟩

omit [Platform] in
lemma getOrCreateTags_yields {names : List String} (hfits : ∀ name ∈ names, TagName name) :
    ∃ q, Yields (getOrCreateTags names) p names q := by
  induction names generalizing p with
  | nil => exact ⟨_, .pure _ _⟩
  | cons name names ih =>
    obtain ⟨hname, hrest⟩ := List.forall_mem_cons.mp hfits
    cases htag : p.seen.tags.get? name with
    | some tag =>
      obtain ⟨q, hq⟩ := ih (p := p) hrest
      refine ⟨q, .bind (.select _ _) ?_⟩
      rw [htag]
      exact .bind (.pure _ _) (.bind hq (.pure _ _))
    | none =>
      have hnew : name ∉ p.seen.tags.keys := fun hk => by
        have hsome := Table.isSome_get?.mpr hk
        rw [htag] at hsome
        cases hsome
      obtain ⟨d, hd⟩ := Sql.insertTag_ok_iff.mpr ⟨hname, hnew⟩
      obtain ⟨q, hq⟩ := ih (p := { p with seen := d }) hrest
      refine ⟨q, .bind (.select _ _) ?_⟩
      rw [htag]
      exact .bind (.stage hd) (.bind hq (.pure _ _))

omit [Platform] in
lemma linkTags_yields {tags : List String} (hquiz : quizId ∈ p.seen.quizzes.keys)
    (htags : ∀ t ∈ tags, t ∈ p.seen.tags.keys) (hnodup : tags.Nodup)
    (hnew : ∀ t ∈ tags, ⟨quizId, t⟩ ∉ p.seen.quizTags.rows) :
    ∃ q, Yields (linkTags quizId tags) p () q := by
  induction tags generalizing p with
  | nil => exact ⟨_, .pure _ _⟩
  | cons tag tags ih =>
    obtain ⟨hkey, hkeys⟩ := List.forall_mem_cons.mp htags
    obtain ⟨hfirst, hnodup⟩ := List.nodup_cons.mp hnodup
    obtain ⟨hlink, hlinks⟩ := List.forall_mem_cons.mp hnew
    obtain ⟨d, hd⟩ := Sql.insertQuizTag_ok_iff (d := p.seen) (l := ⟨quizId, tag⟩).mpr
      ⟨by simpa [Table.keys] using hlink, hquiz, hkey⟩
    obtain ⟨links, hadded, hrows⟩ := Sql.eq_of_insertQuizTag hd
    obtain ⟨q, hq⟩ := ih (p := { p with seen := d }) (by rw [hrows]; exact hquiz)
      (by rw [hrows]; exact hkeys) hnodup
      fun t ht => by
        rw [hrows]
        dsimp only
        rw [hadded]
        simpa [hlinks t ht] using fun heq : t = tag => hfirst (heq ▸ ht)
    exact ⟨q, .bind (.stage hd) hq⟩

omit [Platform] in
lemma integer_of_inBounds {settings : Quizzes.QuizSettingsCreate} (h : settings.inBounds) :
    Integer settings.maxParticipants := by
  obtain ⟨hlower, hupper⟩ : 1 ≤ settings.maxParticipants ∧ settings.maxParticipants ≤ 30 := h
  unfold Integer
  omega

lemma newQuiz_yields {d : Database} {w : World} {raw data : QuizCreate} (h : Known ⟨d, d, w⟩)
    (huser : userId ∈ d.users.keys) (hdata : raw.validate = .ok data)
    (hcorrect : Answerable data.questions) (htime : Integer data.settings.defaultTimePerQuestion)
    (hfits : QuestionsFit data.questions) :
    ∃ quiz q, Yields (newQuiz userId data) ⟨d, d, w⟩ quiz q := by
  obtain ⟨htitle, hdescription, htags, hsettings, hbounds⟩ := QuizCreate.of_validate hdata
  obtain ⟨rows, hrows⟩ := newQuestions_ok hcorrect 1
  obtain ⟨r, hr⟩ := getOrCreateTags_yields (p := ⟨d, d, w⟩) (Quizzes.tagName_of_validateTags htags)
  obtain ⟨-, hmade⟩ := tagsMade_of_yields hr
  have hknown := h.edits (within_getOrCreateTags _ _ _ _ hr)
  have hquiz : Quiz.Fits ⟨Runtime.uuid4 r.world.draws, userId, data.title, data.description,
      data.settings.defaultTimePerQuestion, data.settings.visibility, .draft,
      some data.settings.maxParticipants, r.world.now, r.world.now⟩ := by
    refine ⟨Quizzes.varchar_of_validateTitle htitle, Quizzes.varchar_of_validateDescription
      hdescription, htime, ?_⟩
    rintro n ⟨⟩
    exact integer_of_inBounds hsettings
  have hseen := hmade.rows
  dsimp only at hseen
  have hfresh : Runtime.uuid4 r.world.draws ∉ r.seen.quizzes.keys := by
    simpa using Known.fresh hknown.quizzes
  have hnew : Runtime.uuid4 r.world.draws ∉ d.quizzes.keys := by
    rw [hseen] at hfresh
    exact hfresh
  obtain ⟨e, he⟩ := Sql.insertQuiz_ok_iff.mpr ⟨hquiz, hfresh, by rw [hseen]; exact huser⟩
  obtain ⟨-, table, htable, hinserted⟩ := Sql.eq_of_insertQuiz he
  have hfound : Runtime.uuid4 r.world.draws ∈ e.quizzes.keys := by
    rw [hinserted, Table.keys, htable]
    simp
  obtain ⟨added, q₁, hq₁⟩ := addQuestions_yields (p := ⟨r.committed, e, r.world.draw⟩)
    (hknown.edits (Edits.insertQuiz he rfl rfl)) hfound ((questionsFit_iff hrows hbounds).mpr hfits)
  have hadded := (questionsAdded_of_yields hq₁).rows
  dsimp only at hadded
  have hquizzes : q₁.seen.quizzes = e.quizzes := by rw [hadded]
  have htagged : q₁.seen.tags = r.seen.tags := by rw [hadded, hinserted]
  have hlinks : q₁.seen.quizTags = d.quizTags := by rw [hadded, hinserted, hseen]
  obtain ⟨q₂, hq₂⟩ := linkTags_yields (p := q₁) (hquizzes ▸ hfound)
    (fun t ht => by rw [htagged]; exact (hmade.names t).mpr (.inr ht))
      (Quizzes.nodup_of_validateTags htags)
    (fun t _ hlink => hnew (d.intact.link_quiz _ (hlinks ▸ hlink) _ rfl))
  refine ⟨_, q₂, .bind hr (.bind (hrows ▸ .done _ _) (.bind (.world _ _) (.bind (.world _ _)
    (.bind (.stage (p := ⟨r.committed, r.seen, r.world.draw⟩) he)
      (.bind hq₁ (.bind hq₂ (.pure _ _)))))))⟩

omit [Platform] in
lemma replaceTags_yields {loaded : List String} {given : Option (List String)}
    (hquiz : quizId ∈ p.seen.quizzes.keys)
    (hloaded : ∀ t, ⟨quizId, t⟩ ∈ p.seen.quizTags.rows → t ∈ loaded)
    (hfits : ∀ names ∈ given, names.Nodup ∧ ∀ name ∈ names, TagName name) :
    ∃ tags q, Yields (replaceTags quizId loaded given) p tags q := by
  cases given with
  | none => exact ⟨_, _, .pure _ _⟩
  | some names =>
    obtain ⟨hnodup, hnames⟩ := hfits names rfl
    obtain ⟨r, hr⟩ := getOrCreateTags_yields (p := p) hnames
    obtain ⟨-, hmade⟩ := tagsMade_of_yields hr
    have hseen := hmade.rows
    obtain ⟨e, he, hrows⟩ := Sql.deleteQuizTags_eq (d := r.seen) fun l => l.quizId = quizId ∧
      l.tag ∈ loaded ∧ l.tag ∉ names
    obtain ⟨q, hq⟩ : ∃ q, Yields (linkTags quizId (names.filter (· ∉ loaded)))
        { r with seen := e } () q :=
      linkTags_yields (by rw [hrows, hseen]; exact hquiz)
      (fun t ht => by rw [hrows]; exact (hmade.names t).mpr (.inr (List.mem_filter.mp ht).1))
      (hnodup.filter _) fun t ht hlink => by
        rw [hrows, hseen] at hlink
        exact of_decide_eq_true (List.mem_filter.mp ht).2 (hloaded t (List.mem_filter.mp hlink).1)
    exact ⟨_, q, .bind hr (.bind (.stage he) (.bind hq (.pure _ _)))⟩

lemma questionsDropped_ok {loaded : List LoadedQuestion} (h : Known p)
    (hloaded : ∀ a ∈ p.seen.answers.rows, a.questionId ∈ loaded.map
      (fun l => l.question.questionId) →
      ∃ l ∈ loaded, a.answerId ∈ l.answers.map QuizAnswer.answerId) :
    ∃ d e, Sql.deleteAnswers (fun a => ∃ q ∈ loaded, a.answerId ∈ q.answers.map QuizAnswer.answerId)
    p.seen = .ok d ∧
      Sql.deleteQuestions (fun q => q.questionId ∈ loaded.map fun q => q.question.questionId) d =
      .ok e ∧
        Known { p with seen := e } ∧ e.quizzes = p.seen.quizzes := by
  obtain ⟨d, hd, hrows⟩ := Sql.deleteAnswers_eq (d := p.seen) fun a =>
    ∃ q ∈ loaded, a.answerId ∈ q.answers.map QuizAnswer.answerId
  have hfree : ∀ a ∈ d.answers.rows, a.questionId ∉
      d.questions.removed fun q => q.questionId ∈ loaded.map fun l => l.question.questionId := by
    intro a ha hk
    obtain ⟨q, hq, hmem, hid⟩ := Table.mem_removed.mp hk
    rw [hrows] at ha
    obtain ⟨ha, hkept⟩ := List.mem_filter.mp ha
    rw [Bool.not_eq_true', decide_eq_false_iff_not] at hkept
    exact hkept (hloaded a ha (hid ▸ of_decide_eq_true hmem))
  obtain ⟨e, he, hrows'⟩ := Sql.deleteQuestions_eq hfree
  have hedits : Edits p { p with seen := e } := by
    refine .of_seen ?_ ?_ ?_ ?_ ?_ ?_ ?_ <;> rw [hrows', hrows]
    · exact List.Subset.refl _
    · exact List.filter_subset_self _
    · exact List.filter_subset_self _
    · exact List.filter_subset_self _
    · exact id
  refine ⟨d, e, hd, he, h.edits hedits, ?_⟩
  rw [hrows', hrows]

lemma replaceQuestions_yields {loaded : List LoadedQuestion}
    {given : Option (List QuizQuestionCreate)} (h : Known p) (hquiz : quizId ∈ p.seen.quizzes.keys)
    (hloaded : ∀ a ∈ p.seen.answers.rows, a.questionId ∈ loaded.map
      (fun l => l.question.questionId) →
      ∃ l ∈ loaded, a.answerId ∈ l.answers.map QuizAnswer.answerId)
    (hfits : ∀ body ∈ given, Answerable body ∧ (∀ q ∈ body, q.inBounds) ∧ QuestionsFit body) :
    ∃ questions q, Yields (replaceQuestions quizId loaded given) p questions q := by
  cases given with
  | none => exact ⟨_, _, .pure _ _⟩
  | some body =>
    obtain ⟨hcorrect, hbounds, hfits⟩ := hfits body rfl
    obtain ⟨data, hdata⟩ := newQuestions_ok hcorrect 1
    obtain ⟨d, e, hd, he, hknown, hquizzes⟩ := questionsDropped_ok h hloaded
    obtain ⟨added, q, hq⟩ := addQuestions_yields (p := { p with seen := e }) hknown
      (hquizzes ▸ hquiz)
      ((questionsFit_iff hdata hbounds).mpr hfits)
    exact ⟨added, q, .bind (.stage hd)
      (.bind (.stage he) (.bind (.flush _) (.bind (hdata ▸ .done _ _) hq)))⟩

lemma replaceQuestions_refused {loaded : List LoadedQuestion}
    {body : List QuizQuestionCreate} (h : Known p)
    (hloaded : ∀ a ∈ p.seen.answers.rows, a.questionId ∈ loaded.map
      (fun l => l.question.questionId) →
      ∃ l ∈ loaded, a.answerId ∈ l.answers.map QuizAnswer.answerId) (hbody : ¬Answerable body) :
    ∃ message, Refused (replaceQuestions quizId loaded (some body)) p
      (.invalidQuizDataError message) := by
  obtain ⟨message, hrefused⟩ := newQuestions_refused hbody 1
  obtain ⟨d, e, hd, he, -, -⟩ := questionsDropped_ok h hloaded
  exact ⟨message, .of_yields (.stage hd)
    (.of_yields (.stage he) (.of_yields (.flush _) (.bind (hrefused ▸ .done _ _))))⟩

section Editing

variable {d : Database} {w : World} {raw data : QuizUpdate} {quiz : Quiz}

structure Retagged (quizId : UUID) (data : QuizUpdate) (d : Database) (w : World) (d₁ : Database)
    (tags : List String) (p : Point Database World) : Prop where
  fields : Sql.updateQuiz quizId { title := data.title, description := data.description } d = .ok d₁
  replaced : Yields (replaceTags quizId (Platform.arrange (d.tagsOf quizId)) data.tags)
    ⟨d, d₁, w⟩ tags p
  known : Known p
  found : quizId ∈ p.seen.quizzes.keys
  answers : p.seen.answers = d.answers

lemma exists_retagged (h : Known ⟨d, d, w⟩) (hquiz : d.quizzes.get? quizId = some quiz)
    (hdata : raw.validate = .ok data) :
    ∃ d₁ tags p, Retagged quizId data d w d₁ tags p := by
  obtain ⟨htitle, hdescription, htags, -, -⟩ := QuizUpdate.of_validate hdata
  have hfields : QuizSet.Fits { title := data.title, description := data.description } := by
    refine ⟨fun title ht => ?_, Quizzes.varchar_of_validateDescription hdescription, fun _ hs =>
      (by cases hs)⟩
    have hvalidated : data.title = some title := ht
    rw [hvalidated] at htitle
    obtain ⟨v, hv⟩ := Quizzes.of_optional htitle
    exact Quizzes.varchar_of_validateTitle hv
  have hkey : quizId ∈ d.quizzes.keys := Table.isSome_get?.mp (by rw [hquiz]; rfl)
  obtain ⟨d₁, hd₁⟩ : ∃ e, Sql.updateQuiz quizId
      { title := data.title, description := data.description } d = .ok e :=
    Sql.updateQuiz_ok_iff.mpr ⟨hfields, hkey⟩
  have h₁ := Sql.quizUpdated_of_ok hd₁
  have hknown₁ := h.edits (within_updateQuiz _ _ _ _ (.stage hd₁))
  have hkey₁ : quizId ∈ d₁.quizzes.keys := by
    rw [h₁.quizzes, Table.keys_modify]
    exact hkey
  obtain ⟨tags, p, hp⟩ : ∃ tags p,
    Yields (replaceTags quizId (Platform.arrange (d.tagsOf quizId)) data.tags)
      ⟨d, d₁, w⟩ tags p := by
    refine replaceTags_yields hkey₁ (fun t ht => ?_) fun names hnames => ?_
    · rw [(Platform.arrange_perm _).mem_iff, Rows.mem_tagsOf, ← h₁.quizTags]
      exact ht
    · have hvalidated : data.tags = some names := hnames
      rw [hvalidated] at htags
      obtain ⟨v, hv⟩ := Quizzes.of_optional htags
      exact ⟨Quizzes.nodup_of_validateTags hv, Quizzes.tagName_of_validateTags hv⟩
  have hreplaced := (tagsReplaced_of_yields hp).rows
  refine ⟨d₁, tags, p, hd₁, hp, hknown₁.edits (within_replaceTags _ _ _ _ _ hp), ?_, ?_⟩
  · rw [hreplaced]
    exact hkey₁
  · rw [hreplaced]
    exact h₁.answers

structure Configured (quizId : UUID) (data : QuizUpdate) (p : Point Database World) (e : Database) :
    Prop where
  settings : Sql.updateQuiz quizId { settings := data.settings } p.seen = .ok e
  known : Known { p with seen := e }
  found : quizId ∈ e.quizzes.keys
  answers : e.answers = p.seen.answers

lemma exists_configured (hdata : raw.validate = .ok data) (hknown : Known p)
    (hfound : quizId ∈ p.seen.quizzes.keys)
    (htime : ∀ settings ∈ data.settings, Integer settings.defaultTimePerQuestion) :
    ∃ e, Configured quizId data p e := by
  obtain ⟨-, -, -, hsettings, -⟩ := QuizUpdate.of_validate hdata
  have hset : QuizSet.Fits { settings := data.settings } :=
    ⟨fun _ ht => (by cases ht), fun _ hd => (by cases hd), fun s hs =>
      ⟨htime s hs, integer_of_inBounds (hsettings s hs)⟩⟩
  obtain ⟨e, he⟩ : ∃ e, Sql.updateQuiz quizId { settings := data.settings } p.seen = .ok e :=
    Sql.updateQuiz_ok_iff.mpr ⟨hset, hfound⟩
  have hupdated := Sql.quizUpdated_of_ok he
  refine ⟨e, he, hknown.edits (within_updateQuiz _ _ _ _ (.stage he)), ?_, hupdated.answers⟩
  rw [hupdated.quizzes, Table.keys_modify]
  exact hfound

lemma fetchQuiz_yields (hquiz : d.quizzes.get? quizId = some quiz) :
    Yields (select fun e => e.fetchQuiz quizId : Handler (Option LoadedQuiz)) ⟨d, d, w⟩
      (some (d.load quiz)) ⟨d, d, w⟩ :=
  Yields.select_iff.mpr ⟨by rw [Rows.fetchQuiz, hquiz]; rfl, rfl⟩

lemma answers_loaded {e : Rows} (h : e.answers = d.answers) : ∀ a ∈ e.answers.rows,
    a.questionId ∈ (d.loadQuestions quizId).map (fun l => l.question.questionId) →
      ∃ l ∈ d.loadQuestions quizId, a.answerId ∈ l.answers.map QuizAnswer.answerId := by
  intro a ha hmem
  obtain ⟨l, hl, hid⟩ := List.mem_map.mp hmem
  obtain ⟨q, hq, rfl⟩ := Rows.mem_loadQuestions.mp hl
  exact (Rows.mem_loadedAnswers (h ▸ ha)).mpr ⟨q, hq, hid.symm⟩

lemma editQuiz_yields (h : Known ⟨d, d, w⟩) (hquiz : d.quizzes.get? quizId = some quiz)
    (howner : quiz.creatorId = userId) (hstatus : quiz.status ≠ .published)
    (hdata : raw.validate = .ok data)
    (htime : ∀ settings ∈ data.settings, Integer settings.defaultTimePerQuestion)
    (hfits : ∀ body ∈ data.questions, Answerable body ∧ QuestionsFit body) :
    ∃ held q, Yields (editQuiz quizId userId data) ⟨d, d, w⟩ held q := by
  obtain ⟨-, -, -, -, hbounds⟩ := QuizUpdate.of_validate hdata
  obtain ⟨d₁, tags, p, hp⟩ := exists_retagged h hquiz hdata
  obtain ⟨e, he⟩ := exists_configured hdata hp.known hp.found htime
  obtain ⟨questions, q, hq⟩ : ∃ questions q,
    Yields (replaceQuestions quizId (d.loadQuestions quizId) data.questions)
      { p with seen := e } questions q :=
    replaceQuestions_yields he.known he.found (answers_loaded (he.answers.trans hp.answers))
      fun body hbody =>
      ⟨(hfits body hbody).1, hbounds body hbody, (hfits body hbody).2⟩
  have hkey : quizId ∈ q.seen.quizzes.keys := by
    rw [(questionsReplaced_of_yields hq).rows]
    exact he.found
  obtain ⟨f, hf⟩ : ∃ f, Sql.updateQuiz quizId { updatedAt := some q.world.now } q.seen = .ok f :=
    Sql.updateQuiz_ok_iff.mpr ⟨by simp [QuizSet.Fits], hkey⟩
  obtain rfl := Table.key_get? hquiz
  exact ⟨_, _, .bind (fetchQuiz_yields hquiz)
    (.bind (.require _ howner _) (.bind (.require _ hstatus _)
    (.bind (.stage hp.fields) (.bind hp.replaced
      (.bind (.stage he.settings) (.bind hq (.bind (.world _ _)
    (.bind (.stage hf) (.pure _ _)))))))))⟩

lemma editQuiz_refused (h : Known ⟨d, d, w⟩) (hquiz : d.quizzes.get? quizId = some quiz)
    (howner : quiz.creatorId = userId) (hstatus : quiz.status ≠ .published)
    (hdata : raw.validate = .ok data)
    (htime : ∀ settings ∈ data.settings, Integer settings.defaultTimePerQuestion)
    {body : List QuizQuestionCreate} (hgiven : data.questions = some body)
    (hbody : ¬Answerable body) :
    ∃ message, Refused (editQuiz quizId userId data) ⟨d, d, w⟩ (.invalidQuizDataError message) := by
  obtain ⟨d₁, tags, p, hp⟩ := exists_retagged h hquiz hdata
  obtain ⟨e, he⟩ := exists_configured hdata hp.known hp.found htime
  obtain ⟨message, hrefused⟩ : ∃ message,
    Refused (replaceQuestions quizId (d.loadQuestions quizId) (some body))
      { p with seen := e } (.invalidQuizDataError message) :=
    replaceQuestions_refused he.known (answers_loaded (he.answers.trans hp.answers)) hbody
  rw [← hgiven] at hrefused
  obtain rfl := Table.key_get? hquiz
  exact ⟨message, .of_yields (fetchQuiz_yields hquiz)
    (.of_yields (.require _ howner _) (.of_yields (.require _ hstatus _)
    (.of_yields (.stage hp.fields)
      (.of_yields hp.replaced (.of_yields (.stage he.settings) (.bind hrefused))))))⟩

end Editing

end Storing

end Askit.Relational

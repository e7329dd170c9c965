import Askit.Relational.Router
import Askit.Tables.TwoRuns

/-! Two databases that differ in the quizzes of others, and the statements on both. -/

namespace Askit.Relational

open Interleaving Coro Tables
open Game (UUID Time Runtime)
open Auth (User)
open Quizzes (Platform QuizStatus QuizAnswerCreate QuizQuestionCreate QuizCreate QuizUpdate
  QuizOut QuizExportOut
  NewQuestion Exn TagName newQuestions)

structure Like (userId : UUID) (d e : Rows) : Prop where
  user : userId ∈ e.users.keys ↔ userId ∈ d.users.keys
  ids : ∀ quizId, quizId ∈ e.quizzes.keys ↔ quizId ∈ d.quizzes.keys
  listed : (e.quizzes.rows.filter fun q => q.creatorId = userId) = d.quizzes.rows.filter fun q =>
    q.creatorId = userId
  own : ∀ quiz ∈ d.quizzes.rows, quiz.creatorId = userId → SameQuiz quiz.quizId d e
  favorites : (e.favorites.rows.filter fun f => f.userId = userId) = d.favorites.rows.filter
    fun f => f.userId = userId

section Rows

variable {userId quizId : UUID} {d e d' e' : Rows}

lemma SameQuiz.symm (h : SameQuiz quizId d e) : SameQuiz quizId e d where
  fields := h.fields.symm
  questions := h.questions.symm
  answers q hq := (h.answers q (h.questions ▸ hq)).symm
  tags := h.tags.symm

namespace Like

lemma mem_own (h : Like userId d e) {quiz : Quiz} (howner : quiz.creatorId = userId) :
    quiz ∈ e.quizzes.rows ↔ quiz ∈ d.quizzes.rows := by
  have hmem := congrArg (quiz ∈ ·) h.listed
  simpa [howner] using hmem

lemma symm (h : Like userId d e) : Like userId e d where
  user := h.user.symm
  ids quizId := (h.ids quizId).symm
  listed := h.listed.symm
  own quiz hquiz howner := (h.own quiz ((h.mem_own howner).mp hquiz) howner).symm
  favorites := h.favorites.symm

lemma get?_own (h : Like userId d e) {quiz : Quiz} (hquiz : d.quizzes.get? quizId = some quiz)
    (howner : quiz.creatorId = userId) : e.quizzes.get? quizId = some quiz := by
  obtain rfl := Table.key_get? hquiz
  exact Table.get?_of_mem ((h.mem_own howner).mpr (Table.mem_get? hquiz))

lemma of_same (h : Like userId d e) (husers : d'.users = d.users) (husers' : e'.users = e.users)
    (hquizzes : d'.quizzes = d.quizzes) (hquizzes' : e'.quizzes = e.quizzes)
    (hfavorites : d'.favorites = d.favorites) (hfavorites' : e'.favorites = e.favorites)
    (hown : ∀ quiz ∈ d.quizzes.rows, quiz.creatorId = userId → SameQuiz quiz.quizId d e →
      SameQuiz quiz.quizId d' e') :
    Like userId d' e' := by
  refine ⟨?_, ?_, ?_, fun quiz hquiz howner => ?_, ?_⟩
  · rw [husers, husers']
    exact h.user
  · rw [hquizzes, hquizzes']
    exact h.ids
  · rw [hquizzes, hquizzes']
    exact h.listed
  · rw [hquizzes] at hquiz
    exact hown quiz hquiz howner (h.own quiz hquiz howner)
  · rw [hfavorites, hfavorites']
    exact h.favorites

end Like

end Rows

section Runs

variable [Platform]

structure Ready (userId : UUID) (quizIds questionIds : List UUID) (tags : List String) (w : World)
    (d e : Database) :
    Prop where
  like : Like userId d.toRows e.toRows
  known : Known ⟨d, d, w⟩
  known' : Known ⟨e, e, w⟩
  quizzes : ∀ k ∈ quizIds, ∃ quiz ∈ d.quizzes.rows, quiz.quizId = k ∧ quiz.creatorId = userId
  questions : ∀ k ∈ questionIds, ∃ q ∈ d.questions.rows, q.questionId = k ∧
    ∃ quiz ∈ d.quizzes.rows, quiz.quizId = q.quizId ∧ quiz.creatorId = userId
  tags : ∀ t ∈ tags, t ∈ d.tags.keys ∧ t ∈ e.tags.keys

structure New (id : UUID) (w : World) (d : Rows) : Prop where
  drawn : Drawn 0 w.draws id
  quizzes : id ∉ d.quizzes.keys
  questions : id ∉ d.questions.keys
  answers : id ∉ d.answers.keys

/-- What `get_or_create` does for a name. -/
def made (name : String) : Option String → Write
  | some _ => .ok
  | none => Sql.insertTag name

section Statements

variable {userId : UUID} {ks qs : List UUID} {ts : List String} {w : World} {d e d' e' : Database}

lemma Known.of_rows (h : Known ⟨d, d, w⟩)
    (hquizzes : ∀ k ∈ d'.quizzes.keys, k ∈ d.quizzes.keys ∨ Drawn 0 w.draws k)
    (hquestions : ∀ q ∈ d'.questions.rows, q ∈ d.questions.rows ∨ Drawn 0 w.draws q.questionId)
    (hanswers : ∀ a ∈ d'.answers.rows, a ∈ d.answers.rows ∨ Drawn 0 w.draws a.answerId) :
    Known ⟨d', d', w⟩ where
  quizzes k hk := (hquizzes k hk).elim (h.quizzes k) id
  questions q hq := (hquestions q hq).elim (h.questions q) id
  answers a ha := (hanswers a ha).elim (h.answers a) id

namespace Ready

lemma symm (h : Ready userId ks qs ts w d e) : Ready userId ks qs ts w e d where
  like := h.like.symm
  known := h.known'
  known' := h.known
  quizzes k hk := by
    obtain ⟨quiz, hquiz, hid, howner⟩ := h.quizzes k hk
    exact ⟨quiz, (h.like.mem_own howner).mpr hquiz, hid, howner⟩
  questions k hk := by
    obtain ⟨q, hq, hid, quiz, hquiz, hof, howner⟩ := h.questions k hk
    have hsame := (h.like.own quiz hquiz howner).questions
    have hmem : q ∈ e.questionsOf quiz.quizId := hsame.symm ▸ Rows.mem_questionsOf.mpr
      ⟨hq, hof.symm⟩
    exact ⟨q, (Rows.mem_questionsOf.mp hmem).1, hid, quiz, (h.like.mem_own howner).mpr
      hquiz, hof, howner⟩
  tags t ht := (h.tags t ht).symm

lemma mem_quizzes (h : Ready userId ks qs ts w d e) {k : UUID} (hk : k ∈ ks) :
    k ∈ d.quizzes.keys := by
  obtain ⟨quiz, hquiz, rfl, -⟩ := h.quizzes k hk
  exact Table.key_mem_keys hquiz

lemma mem_questions (h : Ready userId ks qs ts w d e) {k : UUID} (hk : k ∈ qs) :
    k ∈ d.questions.keys := by
  obtain ⟨q, hq, rfl, -⟩ := h.questions k hk
  exact Table.key_mem_keys hq

lemma of_same (h : Ready userId ks qs ts w d e) {tags' : List String}
    (hd : d'.toRows =
      { d.toRows with answers := d'.answers, tags := d'.tags, quizTags := d'.quizTags })
    (he : e'.toRows =
      { e.toRows with answers := e'.answers, tags := e'.tags, quizTags := e'.quizTags })
    (hanswers : ∀ a ∈ d'.answers.rows, a ∈ d.answers.rows ∨ Drawn 0 w.draws a.answerId)
    (hanswers' : ∀ a ∈ e'.answers.rows, a ∈ e.answers.rows ∨ Drawn 0 w.draws a.answerId)
    (htags : ∀ t ∈ tags', t ∈ d'.tags.keys ∧ t ∈ e'.tags.keys)
    (hown : ∀ quiz ∈ d.quizzes.rows, quiz.creatorId = userId →
      SameQuiz quiz.quizId d.toRows e.toRows →
      (∀ q ∈ d.questionsOf quiz.quizId, e'.answersOf q.questionId = d'.answersOf q.questionId) ∧
        e'.tagsOf quiz.quizId = d'.tagsOf quiz.quizId) : Ready userId ks qs tags' w d' e' := by
  have hquizzes : d'.quizzes = d.quizzes := by rw [hd]
  have hquizzes' : e'.quizzes = e.quizzes := by rw [he]
  have hquestions : d'.questions = d.questions := by rw [hd]
  have hquestions' : e'.questions = e.questions := by rw [he]
  refine ⟨h.like.of_same (by rw [hd]) (by rw [he]) hquizzes hquizzes' (by rw [hd]) (by rw [he])
    fun quiz hquiz howner hsame => ?_, h.known.of_rows ?_ ?_ hanswers, h.known'.of_rows ?_ ?_
      hanswers', ?_, ?_, htags⟩
  · obtain ⟨hanswersOf, htagsOf⟩ := hown quiz hquiz howner hsame
    refine ⟨?_, ?_, fun q hq => hanswersOf q ?_, htagsOf⟩
    · rw [hquizzes, hquizzes']
      exact hsame.fields
    · rw [Rows.questionsOf_congr hquestions, Rows.questionsOf_congr hquestions']
      exact hsame.questions
    · rwa [Rows.questionsOf_congr hquestions] at hq
  · exact fun k hk => .inl (hquizzes ▸ hk)
  · exact fun q hq => .inl (hquestions ▸ hq)
  · exact fun k hk => .inl (hquizzes' ▸ hk)
  · exact fun q hq => .inl (hquestions' ▸ hq)
  · rw [hquizzes]
    exact h.quizzes
  · rw [hquestions, hquizzes]
    exact h.questions

lemma mem_snoc {a b : QuizAnswer} {rows : List QuizAnswer} (h : New a.answerId w d.toRows)
    (hb : b ∈ rows ++ [a]) :
    b ∈ rows ∨ Drawn 0 w.draws b.answerId := by
  refine (List.mem_append.mp hb).imp_right fun hb => ?_
  rw [List.mem_singleton.mp hb]
  exact h.drawn

lemma insertAnswer (h : Ready userId ks qs ts w d e) {a : QuizAnswer}
    (hd : New a.answerId w d.toRows) (he : New a.answerId w e.toRows)
    (hquestion : a.questionId ∈ qs) :
    Twin.Seen (Ready userId ks qs ts w) (Sql.insertAnswer a d) (Sql.insertAnswer a e) := by
  by_cases hfits : a.Fits
  · rw [Sql.insertAnswer, Sql.insertAnswer, dif_pos hfits, dif_pos hfits,
      dif_pos ⟨hd.answers, h.mem_questions hquestion⟩,
      dif_pos ⟨he.answers, h.symm.mem_questions hquestion⟩]
    refine .ok (h.of_same rfl rfl (fun b hb => mem_snoc hd hb) (fun b hb => mem_snoc he hb) h.tags
      fun quiz hquiz howner hsame => ⟨fun q hq => ?_, hsame.tags⟩)
    have hold := hsame.answers q hq
    rw [Rows.answersOf, Rows.answersOf] at hold
    rw [Rows.answersOf, Rows.answersOf, Table.rows_add, Table.rows_add, List.filter_append,
      List.filter_append, hold]
  · rw [Sql.insertAnswer, Sql.insertAnswer, dif_neg hfits, dif_neg hfits]
    exact .error _

lemma insertQuizTag (h : Ready userId ks qs ts w d e) {quizId : UUID} {t : String}
    (hquiz : quizId ∈ ks) (ht : t ∈ ts) :
    Twin.Seen (Ready userId ks qs ts w) (Sql.insertQuizTag ⟨quizId, t⟩ d)
      (Sql.insertQuizTag ⟨quizId, t⟩ e) := by
  obtain ⟨quiz, hmem, rfl, howner⟩ := h.quizzes quizId hquiz
  have hlinked : (⟨quiz.quizId, t⟩ : QuizTag) ∈ e.quizTags.rows ↔
      ⟨quiz.quizId, t⟩ ∈ d.quizTags.rows := by
    rw [← Rows.mem_tagsOf, ← Rows.mem_tagsOf, (h.like.own quiz hmem howner).tags]
  by_cases hnew : (⟨quiz.quizId, t⟩ : QuizTag) ∈ d.quizTags.rows
  · have hkey : (⟨quiz.quizId, t⟩ : QuizTag) ∈ d.quizTags.keys := by rwa [Table.keys, List.map_id]
    have hkey' : (⟨quiz.quizId, t⟩ : QuizTag) ∈ e.quizTags.keys := by
      rwa [Table.keys, List.map_id, hlinked]
    rw [Sql.insertQuizTag, Sql.insertQuizTag, dif_neg fun h => h.1 hkey, dif_neg fun h => h.1 hkey']
    exact .error _
  · have hkey : (⟨quiz.quizId, t⟩ : QuizTag) ∉ d.quizTags.keys := by rwa [Table.keys, List.map_id]
    have hkey' : (⟨quiz.quizId, t⟩ : QuizTag) ∉ e.quizTags.keys := by
      rwa [Table.keys, List.map_id, hlinked]
    rw [Sql.insertQuizTag, Sql.insertQuizTag, dif_pos ⟨hkey, h.mem_quizzes hquiz, (h.tags t ht).1⟩,
      dif_pos ⟨hkey', h.symm.mem_quizzes hquiz, (h.tags t ht).2⟩]
    refine .ok (h.of_same rfl rfl (fun b => .inl) (fun b => .inl) h.tags
      fun other hother howner hsame => ⟨hsame.answers, ?_⟩)
    have hold := hsame.tags
    rw [Rows.tagsOf, Rows.tagsOf] at hold
    rw [Rows.tagsOf, Rows.tagsOf, Table.rows_add, Table.rows_add, List.filter_append,
      List.filter_append, List.map_append, List.map_append, hold]

lemma deleteQuizTags (h : Ready userId ks qs ts w d e) (gone : QuizTag → Bool) :
    Twin.Seen (Ready userId ks qs ts w) (Sql.deleteQuizTags gone d)
      (Sql.deleteQuizTags gone e) := by
  refine .ok (h.of_same rfl rfl (fun b => .inl) (fun b => .inl) h.tags
    fun quiz hquiz howner hsame => ⟨hsame.answers, ?_⟩)
  have hlinks (f : Rows) : (f.quizTags.rows.filter fun l => l.quizId = quiz.quizId) =
      (f.tagsOf quiz.quizId).map fun t => ⟨quiz.quizId, t⟩ := by
    rw [Rows.tagsOf, List.map_map]
    refine ((List.map_congr_left fun l hl => ?_).trans (List.map_id _)).symm
    have hof := of_decide_eq_true (List.mem_filter.mp hl).2
    rw [Function.comp_apply, ← hof]
    rfl
  rw [Rows.tagsOf, Rows.tagsOf, Table.rows_remove, Table.rows_remove, List.filter_comm, hlinks,
    hsame.tags, ← hlinks, List.filter_comm]

lemma deleteAnswers (h : Ready userId ks qs ts w d e) (gone : QuizAnswer → Bool) :
    Twin.Seen (Ready userId ks qs ts w) (Sql.deleteAnswers gone d) (Sql.deleteAnswers gone e) := by
  refine .ok (h.of_same rfl rfl (fun b hb => .inl (List.mem_of_mem_filter hb))
    (fun b hb => .inl (List.mem_of_mem_filter hb)) h.tags
    fun quiz hquiz howner hsame => ⟨fun q hq => ?_, hsame.tags⟩)
  have hold := hsame.answers q hq
  rw [Rows.answersOf, Rows.answersOf] at hold
  rw [Rows.answersOf, Rows.answersOf, Table.rows_remove, Table.rows_remove, List.filter_comm, hold,
    List.filter_comm]

lemma insertQuestion (h : Ready userId ks qs ts w d e) {q : QuizQuestion}
    (hd : New q.questionId w d.toRows) (he : New q.questionId w e.toRows) (hquiz : q.quizId ∈ ks) :
    Twin.Seen (Ready userId ks (q.questionId :: qs) ts w) (Sql.insertQuestion q d)
      (Sql.insertQuestion q e) := by
  by_cases hfits : q.Fits
  · rw [Sql.insertQuestion, Sql.insertQuestion, dif_pos hfits, dif_pos hfits,
      dif_pos ⟨hd.questions, h.mem_quizzes hquiz⟩, dif_pos ⟨he.questions, h.symm.mem_quizzes hquiz⟩]
    have hnone {f : Database} (hf : New q.questionId w f.toRows) :
        f.answersOf q.questionId = [] := by
      refine List.filter_eq_nil_iff.mpr fun a ha => ?_
      have hparent := f.intact.answer_question a ha _ rfl
      rw [decide_eq_true_eq]
      exact fun heq => hf.questions (heq ▸ hparent)
    have hdrawn {rows : List QuizQuestion} (r : QuizQuestion) (hr : r ∈ rows ++ [q]) :
        r ∈ rows ∨ Drawn 0 w.draws r.questionId := by
      refine (List.mem_append.mp hr).imp_right fun hr => ?_
      rw [List.mem_singleton.mp hr]
      exact hd.drawn
    refine .ok ⟨h.like.of_same rfl rfl rfl rfl rfl rfl fun quiz hmem howner hsame =>
      ⟨hsame.fields, ?_, ?_, hsame.tags⟩,
      h.known.of_rows (fun k => .inl) hdrawn (fun a => .inl), h.known'.of_rows (fun k => .inl)
      hdrawn (fun a => .inl), h.quizzes, ?_, h.tags⟩
    · have hold := hsame.questions
      rw [Rows.questionsOf, Rows.questionsOf] at hold
      rw [Rows.questionsOf, Rows.questionsOf, Table.rows_add, Table.rows_add, List.filter_append,
        List.filter_append, hold]
    · intro r hr
      obtain ⟨hr, hof⟩ := Rows.mem_questionsOf.mp hr
      rcases List.mem_append.mp hr with hr | hr
      · exact hsame.answers r (Rows.mem_questionsOf.mpr ⟨hr, hof⟩)
      · rw [List.mem_singleton.mp hr]
        exact (hnone he).trans (hnone hd).symm
    · refine List.forall_mem_cons.mpr ⟨?_, fun k hk => ?_⟩
      · exact ⟨q, List.mem_append_right _ (List.mem_singleton_self _), rfl,
          h.quizzes q.quizId hquiz⟩
      · obtain ⟨r, hr, hid⟩ := h.questions k hk
        exact ⟨r, List.mem_append_left _ hr, hid⟩
  · rw [Sql.insertQuestion, Sql.insertQuestion, dif_neg hfits, dif_neg hfits]
    exact .error _

lemma free (h : Ready userId ks qs ts w d e) {l : List UUID} (hl : l ⊆ qs)
    (hfree : ∀ a ∈ d.answers.rows, a.questionId ∉ d.questions.removed fun q => q.questionId ∈ l) :
    ∀ a ∈ e.answers.rows, a.questionId ∉ e.questions.removed fun q => q.questionId ∈ l := by
  intro a ha hmem
  obtain ⟨r, hr, hgone, hid⟩ := Table.mem_removed.mp hmem
  rw [decide_eq_true_eq] at hgone
  obtain ⟨q, hq, hqr, quiz, hquiz, hof, howner⟩ := h.questions _ (hl hgone)
  have hanswers := (h.like.own quiz hquiz howner).answers q
    (Rows.mem_questionsOf.mpr ⟨hq, hof.symm⟩)
  have ha' : a ∈ d.answersOf q.questionId := hanswers ▸ Rows.mem_answersOf.mpr
    ⟨ha, (hqr.trans hid).symm⟩
  refine hfree a (Rows.mem_answersOf.mp ha').1 (Table.mem_removed.mpr ⟨q, hq, ?_, hqr.trans hid⟩)
  rw [decide_eq_true_eq, hqr]
  exact hgone

lemma deleteQuestions (h : Ready userId ks qs ts w d e) {l : List UUID} (hl : l ⊆ qs) :
    Twin.Seen (Ready userId ks [] ts w) (Sql.deleteQuestions (fun q => q.questionId ∈ l) d)
      (Sql.deleteQuestions (fun q => q.questionId ∈ l) e) := by
  by_cases hfree : ∀ a ∈ d.answers.rows, a.questionId ∉ d.questions.removed fun q =>
    q.questionId ∈ l
  · rw [Sql.deleteQuestions, Sql.deleteQuestions, dif_pos hfree, dif_pos (h.free hl hfree)]
    refine .ok ⟨h.like.of_same rfl rfl rfl rfl rfl rfl fun quiz hmem howner hsame =>
      ⟨hsame.fields, ?_, ?_, hsame.tags⟩,
      h.known.of_rows (fun k => .inl) (fun q hq => .inl (List.mem_of_mem_filter hq))
      (fun a => .inl),
      h.known'.of_rows (fun k => .inl) (fun q hq => .inl (List.mem_of_mem_filter hq))
      (fun a => .inl), h.quizzes, List.forall_mem_nil _, h.tags⟩
    · have hold := hsame.questions
      rw [Rows.questionsOf, Rows.questionsOf] at hold
      rw [Rows.questionsOf, Rows.questionsOf, Table.rows_remove, Table.rows_remove,
        List.filter_comm, hold, List.filter_comm]
    · intro r hr
      obtain ⟨hr, hof⟩ := Rows.mem_questionsOf.mp hr
      exact hsame.answers r (Rows.mem_questionsOf.mpr ⟨List.mem_of_mem_filter hr, hof⟩)
  · rw [Sql.deleteQuestions, Sql.deleteQuestions, dif_neg hfree, dif_neg fun hfree' =>
      hfree (h.symm.free hl hfree')]
    exact .error _

lemma insertQuiz (h : Ready userId ks qs ts w d e) {quiz : Quiz} (hd : New quiz.quizId w d.toRows)
    (he : New quiz.quizId w e.toRows) (howner : quiz.creatorId = userId) :
    Twin.Seen (Ready userId (quiz.quizId :: ks) qs ts w) (Sql.insertQuiz quiz d)
      (Sql.insertQuiz quiz e) := by
  subst howner
  by_cases hfits : quiz.Fits
  · by_cases huser : quiz.creatorId ∈ d.users.keys
    · rw [Sql.insertQuiz, Sql.insertQuiz, dif_pos hfits, dif_pos hfits, dif_pos ⟨hd.quizzes, huser⟩,
        dif_pos ⟨he.quizzes, h.like.user.mpr huser⟩]
      have hdrawn {f : Database} (hf : Known ⟨f, f, w⟩) (hnew : New quiz.quizId w f.toRows) :
          ∀ k ∈ (f.quizzes.add quiz hnew.quizzes).keys, k ∈ f.quizzes.keys ∨ Drawn 0 w.draws k := by
        intro k hk
        rw [Table.keys_add] at hk
        refine (List.mem_append.mp hk).imp_right fun hk => ?_
        rw [List.mem_singleton.mp hk]
        exact hd.drawn
      have hget {f : Database} (hnew : New quiz.quizId w f.toRows) (k : UUID) :
          (f.quizzes.add quiz hnew.quizzes).get? k = (f.quizzes.get? k).or
            (if quiz.quizId = k then some quiz else none) := by
        rw [Table.get?, Table.rows_add, List.find?_append, Table.get?, List.find?_singleton]
        simp only [decide_eq_true_eq]
      refine .ok ⟨⟨h.like.user, fun k => ?_, ?_, ?_, h.like.favorites⟩,
        h.known.of_rows (hdrawn h.known hd) (fun q => .inl) (fun a => .inl),
        h.known'.of_rows (hdrawn h.known' he) (fun q => .inl) (fun a => .inl), ?_, ?_, h.tags⟩
      · rw [Table.keys_add, Table.keys_add, List.mem_append, List.mem_append, h.like.ids]
      · rw [Table.rows_add, Table.rows_add, List.filter_append, List.filter_append, h.like.listed]
      · intro other hother howner
        rcases List.mem_append.mp hother with hother | hother
        · have hsame := h.like.own other hother howner
          refine ⟨?_, hsame.questions, hsame.answers, hsame.tags⟩
          rw [hget hd, hget he, hsame.fields]
        · obtain rfl := List.mem_singleton.mp hother
          have hfields {f : Database} (hnew : New other.quizId w f.toRows) :
              (f.quizzes.add other hnew.quizzes).get? other.quizId = some other :=
            Table.get?_of_mem (List.mem_append_right _ (List.mem_singleton_self _))
          have hquestions {f : Database} (hnew : New other.quizId w f.toRows) :
              f.questionsOf other.quizId = [] := by
            refine List.filter_eq_nil_iff.mpr fun r hr => ?_
            have hparent := f.intact.question_quiz r hr _ rfl
            rw [decide_eq_true_eq]
            exact fun heq => hnew.quizzes (heq ▸ hparent)
          have htags {f : Database} (hnew : New other.quizId w f.toRows) :
              f.tagsOf other.quizId = [] := by
            refine List.map_eq_nil_iff.mpr (List.filter_eq_nil_iff.mpr fun l hl => ?_)
            have hparent := f.intact.link_quiz l hl _ rfl
            rw [decide_eq_true_eq]
            exact fun heq => hnew.quizzes (heq ▸ hparent)
          refine ⟨(hfields he).trans (hfields hd).symm, (hquestions he).trans (hquestions hd).symm,
            fun q hq => ?_, (htags he).trans (htags hd).symm⟩
          have hnil := hquestions hd
          exact absurd (hnil ▸ hq : q ∈ []) List.not_mem_nil
      · refine List.forall_mem_cons.mpr
          ⟨⟨quiz, List.mem_append_right _ (List.mem_singleton_self _), rfl, rfl⟩, fun k hk => ?_⟩
        obtain ⟨other, hother, hid⟩ := h.quizzes k hk
        exact ⟨other, List.mem_append_left _ hother, hid⟩
      · intro k hk
        obtain ⟨q, hq, hid, other, hother, hof⟩ := h.questions k hk
        exact ⟨q, hq, hid, other, List.mem_append_left _ hother, hof⟩
    · rw [Sql.insertQuiz, Sql.insertQuiz, dif_pos hfits, dif_pos hfits, dif_neg fun h => huser h.2,
        dif_neg fun h' => huser (h.like.user.mp h'.2)]
      exact .error _
  · rw [Sql.insertQuiz, Sql.insertQuiz, dif_neg hfits, dif_neg hfits]
    exact .error _

lemma updateQuiz (h : Ready userId ks qs ts w d e) (quizId : UUID) (c : QuizSet) :
    Twin.Seen (Ready userId ks qs ts w) (Sql.updateQuiz quizId c d)
      (Sql.updateQuiz quizId c e) := by
  by_cases hfits : c.Fits
  · by_cases hfound : quizId ∈ d.quizzes.keys
    · rw [Sql.updateQuiz, Sql.updateQuiz, dif_pos hfits, dif_pos hfits, if_pos hfound,
        if_pos ((h.like.ids _).mpr hfound)]
      have hkept (f : Database) (hf : Known ⟨f, f, w⟩) :
          ∀ k ∈ (f.quizzes.modify quizId c.apply c.quizId_apply).keys, k ∈ f.quizzes.keys ∨
            Drawn 0 w.draws k := by
        intro k hk
        rw [Table.keys_modify] at hk
        exact .inl hk
      have hstays {k : UUID} (hk : ∃ quiz ∈ d.quizzes.rows, quiz.quizId = k ∧
        quiz.creatorId = userId) :
          ∃ quiz ∈ (d.quizzes.modify quizId c.apply c.quizId_apply).rows, quiz.quizId = k ∧
            quiz.creatorId = userId := by
        obtain ⟨quiz, hquiz, hid, howner⟩ := hk
        refine ⟨_, List.mem_map_of_mem hquiz, ?_⟩
        split <;> exact ⟨hid, howner⟩
      refine .ok ⟨⟨h.like.user, fun k => ?_, ?_, ?_, h.like.favorites⟩,
        h.known.of_rows (hkept d h.known) (fun q => .inl) (fun a => .inl),
        h.known'.of_rows (hkept e h.known') (fun q => .inl) (fun a => .inl), fun k hk =>
        hstays (h.quizzes k hk), ?_, h.tags⟩
      · rw [Table.keys_modify, Table.keys_modify, h.like.ids]
      · have hlisted (f : Database) :
          ((f.quizzes.modify quizId c.apply c.quizId_apply).rows.filter fun q =>
            q.creatorId = userId) = (f.quizzes.rows.filter fun q =>
              q.creatorId = userId).map fun q =>
              if q.quizId = quizId then c.apply q else q := by
          rw [Table.rows_modify, List.filter_map]
          congr 1
          refine List.filter_congr fun q _ => ?_
          simp only [Function.comp_apply]
          split <;> rfl
        rw [hlisted, hlisted, h.like.listed]
      · intro quiz hquiz howner
        obtain ⟨old, hold, rfl⟩ := List.mem_map.mp hquiz
        have hid : (if old.quizId = quizId then c.apply old else old).quizId =
            old.quizId := by split <;> rfl
        have hcreator : old.creatorId = userId := by
          split at howner <;> exact howner
        have hsame := h.like.own old hold hcreator
        rw [hid]
        refine ⟨?_, hsame.questions, hsame.answers, hsame.tags⟩
        rw [Table.get?_modify, Table.get?_modify, hsame.fields]
      · intro k hk
        obtain ⟨q, hq, hid, hquiz⟩ := h.questions k hk
        exact ⟨q, hq, hid, hstays hquiz⟩
    · rw [Sql.updateQuiz, Sql.updateQuiz, dif_pos hfits, dif_pos hfits, if_neg hfound,
        if_neg fun hfound' => hfound ((h.like.ids _).mp hfound')]
      exact .error _
  · rw [Sql.updateQuiz, Sql.updateQuiz, dif_neg hfits, dif_neg hfits]
    exact .error _

lemma made_seen (h : Ready userId ks qs ts w d e) (name : String) :
    Twin.Seen (Ready userId ks qs (name :: ts) w) (made name (d.tags.get? name) d)
      (made name (e.tags.get? name) e) := by
  have hfits {f : Database} (hname : name ∈ f.tags.keys) : TagName name :=
    f.intact.tags_fit name (by simpa [Table.keys] using hname)
  have hinserted {f : Database} (hname : TagName name) (hnew : name ∉ f.tags.keys) :
      ∃ f' : Database, Sql.insertTag name f = .ok f' ∧ f'.tags.keys = f.tags.keys ++ [name] ∧
        f'.toRows = { f.toRows with tags := f'.tags } := by
    rw [Sql.insertTag, dif_pos hname, dif_pos hnew]
    exact ⟨_, rfl, Table.keys_add f.tags name hnew, rfl⟩
  have hmade (f : Database) (hname : TagName name) : ∃ f' :
    Database, made name (f.tags.get? name) f = .ok f' ∧
      (∀ t, t ∈ f.tags.keys ∨ t = name → t ∈ f'.tags.keys) ∧
        f'.toRows = { f.toRows with tags := f'.tags } := by
    cases hget : f.tags.get? name with
    | none =>
      obtain ⟨f', hf', hkeys, hrows⟩ := hinserted hname (Table.get?_eq_none.mp hget)
      exact ⟨f', hf', fun t ht => by rw [hkeys]; simpa using ht, hrows⟩
    | some t =>
      refine ⟨f, rfl, fun t ht => ht.elim id fun ht => ?_, rfl⟩
      exact ht ▸ Table.isSome_get?.mp (hget ▸ rfl)
  by_cases hname : TagName name
  · obtain ⟨d', hd', hkeys, hrows⟩ := hmade d hname
    obtain ⟨e', he', hkeys', hrows'⟩ := hmade e hname
    rw [hd', he']
    refine .ok (h.of_same (by rw [hrows]) (by rw [hrows'])
      (fun a ha => .inl ?_) (fun a ha => .inl ?_) ?_
      fun quiz hquiz howner hsame => ⟨?_, ?_⟩)
    · rwa [hrows] at ha
    · rwa [hrows'] at ha
    · refine List.forall_mem_cons.mpr ⟨⟨hkeys _ (.inr rfl), hkeys' _ (.inr rfl)⟩, fun t ht => ?_⟩
      exact ⟨hkeys t (.inl (h.tags t ht).1), hkeys' t (.inl (h.tags t ht).2)⟩
    · rw [hrows, hrows']
      exact hsame.answers
    · rw [hrows, hrows']
      exact hsame.tags
  · have hnone (f : Database) : f.tags.get? name = none :=
      Table.get?_eq_none.mpr fun hmem => hname (hfits hmem)
    rw [hnone, hnone, made, Sql.insertTag, Sql.insertTag, dif_neg hname, dif_neg hname]
    exact .error _

lemma mono (h : Ready userId ks qs ts w d e) {w' : World} {ks' qs' : List UUID}
    {ts' : List String} (hw : w ≤ w') (hks : ks' ⊆ ks) (hqs : qs' ⊆ qs) (hts : ts' ⊆ ts) :
    Ready userId ks' qs' ts' w' d e where
  like := h.like
  known := ⟨fun k hk => (h.known.quizzes k hk).mono le_rfl hw, fun q hq =>
    (h.known.questions q hq).mono le_rfl hw,
    fun a ha => (h.known.answers a ha).mono le_rfl hw⟩
  known' := ⟨fun k hk => (h.known'.quizzes k hk).mono le_rfl hw, fun q hq =>
    (h.known'.questions q hq).mono le_rfl hw,
    fun a ha => (h.known'.answers a ha).mono le_rfl hw⟩
  quizzes k hk := h.quizzes k (hks hk)
  questions k hk := h.questions k (hqs hk)
  tags t ht := h.tags t (hts ht)

lemma base (h : Ready userId ks qs ts w d e) : Ready userId [] [] [] w d e :=
  h.mono le_rfl (List.nil_subset _) (List.nil_subset _) (List.nil_subset _)

lemma draw (h : Ready userId ks qs ts w d e) : Ready userId ks qs ts w.draw d e ∧
    New (Runtime.uuid4 w.draws) w.draw d.toRows ∧ New (Runtime.uuid4 w.draws) w.draw e.toRows := by
  have hnew {f : Database} (hf : Known ⟨f, f, w⟩) :
      New (Runtime.uuid4 w.draws) w.draw f.toRows := by
    refine ⟨(Drawn.next w.draws).mono (Nat.zero_le _) le_rfl, ?_, Known.fresh hf.questions,
      Known.fresh hf.answers⟩
    simpa using @Known.fresh _ _ id _ _ hf.quizzes
  have hw : w ≤ w.draw := Nat.le_succ w.draws
  exact ⟨h.mono hw (List.Subset.refl _) (List.Subset.refl _) (List.Subset.refl _), hnew h.known,
    hnew h.known'⟩

end Ready

end Statements

end Runs

end Askit.Relational

import Askit.Quizzes.Validation
import Askit.Relational.Updates

/-! The operations that return a quiz to its owner, and whether they describe it alike. -/

namespace Askit.Relational

open Interleaving Coro Tables
open Game (UUID Time Runtime)
open Quizzes (Platform QuizStatus QuizUpdate QuizOut QuizQuestionOut NewQuestion Exn newQuestions)

structure SameOut (a b : QuizOut) : Prop where
  fields : { a with tags := [], questions := [] } = { b with tags := [], questions := [] }
  tags : a.tags.Perm b.tags
  questions : List.Forall₂ (fun q r : QuizQuestionOut =>
    { q with answers := [] } = { r with answers := [] } ∧ q.answers.Perm r.answers)
      a.questions b.questions

section Stored

variable [Platform]

/-- The object in the session shows what its rows say, up to the orders that the database does not
keep. -/
structure Stored (quiz : LoadedQuiz) (d : Rows) : Prop where
  row : d.quizzes.get? quiz.quiz.quizId = some quiz.quiz
  tags : quiz.tags.Perm (d.tagsOf quiz.quiz.quizId)
  questions : List.Forall₂ (fun l m : LoadedQuestion => l.question = m.question ∧
    l.answers.Perm m.answers)
    quiz.questions (d.loadQuestions quiz.quiz.quizId)

lemma Stored.sameOut {quiz : LoadedQuiz} {d : Rows} (h : Stored quiz d) (n : ℤ) (fav : Bool) :
    SameOut (quizOut quiz n fav) (quizOut (d.load quiz.quiz) n fav) := by
  have htimes : (quiz.questions.map fun l => l.question.timeLimit) =
      (d.loadQuestions quiz.quiz.quizId).map fun l => l.question.timeLimit := by
    have hquestions := h.questions
    generalize d.loadQuestions quiz.quiz.quizId = stored at hquestions ⊢
    generalize quiz.questions = held at hquestions ⊢
    induction hquestions with
    | nil => rfl
    | cons hlm _ ih => rw [List.map_cons, List.map_cons, hlm.1, ih]
  refine ⟨?_, h.tags.trans (Platform.arrange_perm _).symm, ?_⟩
  · simp only [quizOut, Rows.load, htimes]
  · simp only [quizOut, Rows.load, List.forall₂_map_left_iff, List.forall₂_map_right_iff]
    refine h.questions.imp fun l m hlm => ?_
    rw [hlm.1]
    exact ⟨rfl, hlm.2.map _⟩

lemma Rows.loadQuestions_congr {d e : Rows} (hquestions : e.questions = d.questions)
    (hanswers : e.answers = d.answers) (quizId : UUID) :
    e.loadQuestions quizId = d.loadQuestions quizId := by
  have hone : e.loadQuestion = d.loadQuestion := by
    funext q
    rw [loadQuestion, Rows.answersOf_congr hanswers, loadQuestion]
  rw [loadQuestions, Rows.questionsOf_congr hquestions, hone, loadQuestions]

omit [Platform] in
lemma Rows.nodup_tagsOf (d : Rows) (quizId : UUID) : (d.tagsOf quizId).Nodup := by
  have hlinks : d.quizTags.rows.Nodup := by simpa using d.quizTags.unique
  refine (List.nodup_map_iff_inj_on (hlinks.filter _)).mpr fun l hl m hm htag => ?_
  have hlq : l.quizId = quizId := by simpa using (List.mem_filter.mp hl).2
  have hmq : m.quizId = quizId := by simpa using (List.mem_filter.mp hm).2
  obtain ⟨_, _⟩ := l
  obtain ⟨_, _⟩ := m
  simp_all

omit [Platform] in
lemma insertionSort_of_positions {rows l : List QuizQuestion} (hperm : rows.Perm l)
    (hl : l.Pairwise fun a b => a.position < b.position) :
    (rows.insertionSort fun a b => a.position ≤ b.position) = l := by
  refine List.Perm.eq_of_pairwise ?_ (List.pairwise_insertionSort _ _) (hl.imp le_of_lt)
    ((List.perm_insertionSort _ _).trans hperm)
  intro a b ha hb hab hba
  have hinj : ∀ a ∈ l, ∀ b ∈ l, a.position = b.position → a = b := by
    have hnodup : (l.map QuizQuestion.position).Nodup :=
      List.pairwise_map.mpr (hl.imp ne_of_lt)
    exact fun a ha b hb => List.inj_on_of_nodup_map hnodup ha hb
  have hal : a ∈ l := hperm.mem_iff.mp ((List.perm_insertionSort _ _).mem_iff.mp ha)
  exact hinj a hal b hb (le_antisymm hab hba)

variable {p q : Point Database World} {quizId userId : UUID} {d : Database} {w : World}

lemma QuestionsAdded.loaded {body : List Quizzes.QuizQuestionCreate} {data : List NewQuestion}
    {added : List LoadedQuestion} (h : QuestionsAdded quizId data added p q)
    (hdata : newQuestions 1 body = .ok data) (hnone : p.seen.questionsOf quizId = []) :
    List.Forall₂ (fun l m : LoadedQuestion => l.question = m.question ∧ l.answers.Perm m.answers)
      added
      (q.seen.loadQuestions quizId) := by
  have hpositions : (added.map LoadedQuestion.question).Pairwise fun a b =>
      a.position < b.position := by
    have hrange : (added.map fun l => l.question.position).Pairwise (· < ·) := by
      rw [h.positions, (Quizzes.Edits.newQuestions_eq_ok hdata).1]
      exact List.pairwise_lt_range'
    exact List.pairwise_map.mpr (List.pairwise_map.mp hrange)
  have hperm : (Platform.arrange (q.seen.questionsOf quizId)).Perm
      (added.map LoadedQuestion.question) := by
    rw [← h.questionsOf hnone]
    exact Platform.arrange_perm _
  rw [Rows.loadQuestions, insertionSort_of_positions hperm hpositions, List.map_map,
    List.forall₂_map_right_iff, List.forall₂_same]
  intro l hl
  refine ⟨rfl, ?_⟩
  simp only [Function.comp_apply, Rows.loadQuestion, h.answersOf hl]
  exact (Platform.arrange_perm _).symm

lemma stored_of_yields {data : QuizUpdate} {quiz : LoadedQuiz}
    (htags : ∀ tags, data.tags = some tags → tags.Nodup)
    (h : Yields (editQuiz quizId userId data) ⟨d, d, w⟩ quiz q) : Stored quiz q.seen.toRows := by
  have hedited := edited_of_yields h
  have hid := hedited.id_eq
  refine ⟨by rw [hid]; exact hedited.row, ?_, ?_⟩
  · rw [hid]
    cases hgiven : data.tags with
    | none =>
      obtain ⟨hheld, hlinks⟩ := hedited.tags_kept hgiven
      rw [hheld, Rows.tagsOf_congr hlinks]
      exact Platform.arrange_perm _
    | some names =>
      obtain ⟨hheld, hlinks⟩ := hedited.tags_given hgiven
      rw [hheld]
      exact (List.perm_ext_iff_of_nodup (htags names hgiven) (Rows.nodup_tagsOf _ _)).mpr fun t =>
        (hlinks t).symm
  · rw [hid]
    cases hgiven : data.questions with
    | none =>
      obtain ⟨hheld, hquestions, hanswers⟩ := hedited.questions_kept hgiven
      rw [hheld, ← Rows.loadQuestions_congr hquestions hanswers, List.forall₂_same]
      exact fun l _ => ⟨rfl, .refl _⟩
    | some body =>
      obtain ⟨p, r, hreplaced, hquestions, hanswers, hq, ha⟩ := hedited.questions
      obtain ⟨rows, s, hrows, hadded, hkept, hremaining⟩ := hreplaced.added body hgiven
      rw [hquestions] at hkept
      rw [hanswers] at hremaining
      rw [Rows.loadQuestions_congr hq ha]
      exact hadded.loaded hrows (questionsDeleted hkept hremaining).questionsOf

end Stored

section Alike

variable [Platform]

def itemsOf (quizId : UUID) (outs : List QuizOut) : List QuizOut := outs.filter fun o =>
    o.quizId = quizId

/-- All operations that return the quiz to the user show what `get_quiz` shows. -/
structure Alike (d : Database) (w : World) (userId quizId : UUID) : Prop where
  list_quizzes : ∃ out outs item, (serve (getQuiz quizId (some userId)) d w).1 = .ok (some out) ∧
    (serve (listQuizzes userId) d w).1 = .ok outs ∧ itemsOf quizId outs = [item] ∧ SameOut item out
  list_favorites : ⟨userId, quizId⟩ ∈ d.favorites.rows →
    ∃ out outs item, (serve (getQuiz quizId (some userId)) d w).1 = .ok (some out) ∧
      (serve (listFavorites userId) d w).1 = .ok outs ∧ itemsOf quizId outs = [item] ∧
        SameOut item out
  update_quiz : ∀ body data, QuizUpdate.validate body = .ok data → ∀ out e w',
    serve (updateQuiz quizId userId data) d w = (.ok out, e, w') →
      ∃ now, (serve (getQuiz quizId (some userId)) e w').1 = .ok (some now) ∧ SameOut out now
  set_quiz_status : ∀ status out e w', serve (setQuizStatus quizId status userId) d w =
    (.ok out, e, w') →
    ∃ now, (serve (getQuiz quizId (some userId)) e w').1 = .ok (some now) ∧ SameOut out now

namespace Alike

variable {d e : Database} {w w' : World} {userId quizId : UUID} {quiz : Quiz} {n : ℤ}

/-- What `get_quiz` shows an owner. -/
def shown (d : Rows) (userId : UUID) (quiz : Quiz) (n : ℤ) : QuizOut :=
  quizOut (d.load quiz) n (decide (⟨userId, quiz.quizId⟩ ∈ d.favorites.rows))

lemma getQuiz_shows (hquiz : d.quizzes.get? quizId = some quiz) (howner : quiz.creatorId = userId)
    (hn : quiz.maxParticipants = some n) :
    serve (getQuiz quizId (some userId)) d w =
      (.ok (some (shown d.toRows userId quiz n)), d, w) := by
  obtain rfl := Table.key_get? hquiz
  have hfav : (d.favorites.get? ⟨userId, quiz.quizId⟩).isSome = decide
      (⟨userId, quiz.quizId⟩ ∈ d.favorites.rows) := by
    rw [Bool.eq_iff_iff, Table.isSome_get?, decide_eq_true_eq]
    simp [Table.keys]
  have halone : (getQuiz quiz.quizId (some userId)).alone View.exec ⟨d, .ok d, w⟩ =
      (.ok (some (shown d.toRows userId quiz n)), ⟨d, .ok d, w⟩) := by
    refine (alone_perform_bind (a := d.fetchQuiz quiz.quizId) rfl).trans ?_
    have hfetch : d.fetchQuiz quiz.quizId = some (d.load quiz) := by rw [Rows.fetchQuiz, hquiz]; rfl
    have hother : ¬(some userId).any ((d.load quiz).quiz.creatorId ≠ ·) := by
      simp [Rows.load, howner]
    simp only [hfetch, if_neg hother]
    refine (alone_perform_bind (a := (d.favorites.get? ⟨userId, quiz.quizId⟩).isSome) rfl).trans ?_
    rw [hfav, quizToResponse_eq_ok.mpr ⟨n, hn, rfl⟩]
    rfl
  rw [serve_eq, halone]

lemma serve_listQuizzes (hd : d.Filled) (w : World) (userId : UUID) :
    serve (listQuizzes userId) d w =
    (.ok (((Platform.arrange (d.quizzes.rows.filter fun q => q.creatorId = userId)).map d.load).map
      fun quiz =>
      quizOut quiz (quiz.quiz.maxParticipants.getD 0)
        (quiz.quiz.quizId ∈ (d.favorites.rows.filter fun f => f.userId = userId).map
          QuizFavorite.quizId)), d, w) := by
  have hfilled : ∀ quiz ∈ (Platform.arrange (d.quizzes.rows.filter fun q =>
    q.creatorId = userId)).map d.load,
      quiz.quiz.maxParticipants.isSome := by
    rintro loaded hloaded
    obtain ⟨quiz, hquiz, rfl⟩ := List.mem_map.mp hloaded
    exact hd quiz (List.mem_filter.mp ((Platform.arrange_perm _).mem_iff.mp hquiz)).1
  have hresponses := mapM_quizToResponse hfilled fun quiz =>
    quiz.quiz.quizId ∈ (d.favorites.rows.filter fun f => f.userId = userId).map QuizFavorite.quizId
  have halone : (listQuizzes userId).alone View.exec ⟨d, .ok d, w⟩ = (_, ⟨d, .ok d, w⟩) :=
    (alone_perform_bind (a := (Platform.arrange (d.quizzes.rows.filter fun q =>
      q.creatorId = userId)).map
      d.load) rfl).trans
      ((alone_perform_bind (a := (d.favorites.rows.filter fun f => f.userId = userId).map
        QuizFavorite.quizId) rfl).trans
        (by rw [hresponses]; rfl))
  rw [serve_eq, halone]

lemma serve_listFavorites (hd : d.Filled) (w : World) (userId : UUID) :
    serve (listFavorites userId) d w =
    (.ok (((Platform.arrange
      ((d.favorites.rows.filter fun f => f.userId = userId).filterMap fun f =>
      d.quizzes.get? f.quizId)).map d.load).map fun quiz =>
        quizOut quiz (quiz.quiz.maxParticipants.getD 0) true), d, w) := by
  have hfilled : ∀ quiz ∈ (Platform.arrange
    ((d.favorites.rows.filter fun f => f.userId = userId).filterMap fun f =>
      d.quizzes.get? f.quizId)).map d.load, quiz.quiz.maxParticipants.isSome := by
    rintro loaded hloaded
    obtain ⟨quiz, hquiz, rfl⟩ := List.mem_map.mp hloaded
    obtain ⟨f, -, hf⟩ := List.mem_filterMap.mp ((Platform.arrange_perm _).mem_iff.mp hquiz)
    exact hd quiz (Table.mem_get? hf)
  have hresponses := mapM_quizToResponse hfilled fun _ => true
  have halone : (listFavorites userId).alone View.exec ⟨d, .ok d, w⟩ = (_, ⟨d, .ok d, w⟩) :=
    (alone_perform_bind
      (a := (Platform.arrange ((d.favorites.rows.filter fun f => f.userId = userId).filterMap
      fun f =>
      d.quizzes.get? f.quizId)).map d.load) rfl).trans (by rw [hresponses]; rfl)
  rw [serve_eq, halone]

lemma listQuizzes_shows (hd : d.Filled) (hquiz : d.quizzes.get? quizId = some quiz)
    (howner : quiz.creatorId = userId) (hn : quiz.maxParticipants = some n) :
    ∃ outs, (serve (listQuizzes userId) d w).1 = .ok outs ∧
    itemsOf quizId outs = [shown d.toRows userId quiz n] := by
  obtain rfl := Table.key_get? hquiz
  have hrows : (Platform.arrange (d.quizzes.rows.filter fun q => q.creatorId = userId)).filter
      (fun q => q.quizId = quiz.quizId) = [quiz] := by
    rw [← List.perm_singleton]
    refine ((Platform.arrange_perm _).filter _).trans (.of_eq ?_)
    rw [List.filter_comm, Table.filter_key, hquiz]
    simp [howner]
  have hfav : decide (quiz.quizId ∈ (d.favorites.rows.filter fun f => f.userId = userId).map
    QuizFavorite.quizId) =
      decide (⟨userId, quiz.quizId⟩ ∈ d.favorites.rows) := by
    rw [decide_eq_decide, List.mem_map]
    constructor
    · rintro ⟨f, hf, hid⟩
      obtain ⟨hf, huser⟩ := List.mem_filter.mp hf
      have heq : f.userId = userId := by simpa using huser
      rw [← hid, ← heq]
      exact hf
    · exact fun h => ⟨_, List.mem_filter.mpr ⟨h, by simp⟩, rfl⟩
  refine ⟨_, congrArg Prod.fst (serve_listQuizzes hd w userId), ?_⟩
  rw [itemsOf, List.filter_map, List.filter_map]
  change List.map _
    (List.map _ ((Platform.arrange (d.quizzes.rows.filter fun q => q.creatorId = userId)).filter
    fun q => q.quizId = quiz.quizId)) = _
  rw [hrows, List.map_singleton, List.map_singleton, shown]
  have hmax : (d.load quiz).quiz.maxParticipants.getD 0 = n := congrArg (fun m => m.getD 0) hn
  exact congrArg₂ (fun m b => [quizOut (d.load quiz) m b]) hmax hfav

lemma changed_of_yields {status : QuizStatus} {held : LoadedQuiz} {q : Point Database World}
    (h : Yields (changeStatus quizId status userId) ⟨d, d, w⟩ held q) :
    ∃ old, d.quizzes.get? quizId = some old ∧ old.creatorId = userId ∧
      held = { d.load old with quiz := { old with status := status, updatedAt := w.now } } ∧
      Sql.QuizUpdated quizId { status := some status, updatedAt := some w.now } d.toRows
        q.seen.toRows ∧
      ¬(status = .published ∧ (d.load old).questions = []) ∧ q.world = w := by
  obtain ⟨found, p, hp, h⟩ := Yields.bind_iff.mp h
  obtain ⟨hfound, rfl⟩ := Yields.select_iff.mp hp
  subst hfound
  cases hquiz : d.quizzes.get? quizId with
  | none =>
    simp only [Rows.fetchQuiz, hquiz, Option.map_none] at h
    exact (Yields.throw_iff.mp h).elim
  | some old =>
    simp only [Rows.fetchQuiz, hquiz, Option.map_some] at h
    obtain ⟨_, p, hp, h⟩ := Yields.bind_iff.mp h
    obtain ⟨hcreator, rfl⟩ := Yields.require_iff.mp hp
    obtain ⟨_, p, hp, h⟩ := Yields.bind_iff.mp h
    obtain ⟨hasked, rfl⟩ := Yields.require_iff.mp hp
    obtain ⟨now, p, hp, h⟩ := Yields.bind_iff.mp h
    obtain ⟨rfl, rfl⟩ := Yields.world_iff.mp hp
    obtain ⟨_, p, hp, h⟩ := Yields.bind_iff.mp h
    obtain ⟨e, he, rfl⟩ := Yields.stage_iff.mp hp
    obtain ⟨rfl, rfl⟩ := Yields.pure_iff.mp h
    exact ⟨old, rfl, hcreator, rfl, Sql.quizUpdated_of_ok he, hasked, rfl⟩

lemma stored_of_changeStatus {status : QuizStatus} {held : LoadedQuiz} {q : Point Database World}
    (h : Yields (changeStatus quizId status userId) ⟨d, d, w⟩ held q) :
    held.quiz.quizId = quizId ∧ held.quiz.creatorId = userId ∧ Stored held q.seen.toRows ∧
      q.seen.favorites = d.favorites := by
  obtain ⟨old, hquiz, hcreator, rfl, hupdated, -⟩ := changed_of_yields h
  obtain rfl := Table.key_get? hquiz
  refine ⟨rfl, hcreator, ⟨?_, ?_, ?_⟩, hupdated.favorites⟩
  · change q.seen.quizzes.get? old.quizId = _
    rw [hupdated.quizzes, Table.get?_modify_self, hquiz]
    rfl
  · change (Platform.arrange (d.tagsOf old.quizId)).Perm (q.seen.tagsOf old.quizId)
    rw [Rows.tagsOf_congr hupdated.quizTags]
    exact Platform.arrange_perm _
  · change List.Forall₂ _ (d.loadQuestions old.quizId) (q.seen.loadQuestions old.quizId)
    rw [Rows.loadQuestions_congr hupdated.questions hupdated.answers, List.forall₂_same]
    exact fun l _ => ⟨rfl, .refl _⟩

lemma found_of_changeStatus {status : QuizStatus} (held : LoadedQuiz) (q : Point Database World)
    (h : Yields (changeStatus quizId status userId) ⟨d, d, w⟩ held q) :
    (q.seen.quizzes.get? held.quiz.quizId).isSome := by
  rw [(stored_of_changeStatus h).2.2.1.row]
  rfl

lemma uncommitted_changeStatus (status : QuizStatus) :
    Uncommitted (changeStatus quizId status userId) := by
  refine .bind (.perform trivial) fun found => ?_
  cases found with
  | none => exact .done _
  | some quiz =>
    exact .bind (.require _ _) fun _ => .bind (.require _ _) fun _ =>
      .bind uncommitted_utcnow fun _ =>
      .bind (.perform trivial) fun _ => .done _

lemma draft_yields (hquiz : d.quizzes.get? quizId = some quiz) (howner : quiz.creatorId = userId) :
    ∃ held q, Yields (changeStatus quizId .draft userId) ⟨d, d, w⟩ held q := by
  have hfound : quizId ∈ d.quizzes.keys := Table.isSome_get?.mp (by rw [hquiz]; rfl)
  have hfits : QuizSet.Fits { status := some QuizStatus.draft, updatedAt := some w.now } := by
    simp [QuizSet.Fits]
  have hwrite : ∃ e, Sql.updateQuiz quizId
      { status := some QuizStatus.draft, updatedAt := some w.now } d = .ok e := by
    rw [Sql.updateQuiz, dif_pos hfits, if_pos hfound]
    exact ⟨_, rfl⟩
  obtain ⟨e, he⟩ := hwrite
  refine ⟨{ d.load quiz with quiz := { quiz with status := .draft, updatedAt := w.now } },
    ⟨d, e, w⟩, .bind (.select _ _) ?_⟩
  simp only [Rows.fetchQuiz, hquiz, Option.map_some]
  exact .bind (.require _ howner _)
    (.bind (.require _ (by simp) _) (.bind (.world _ _) (.bind (.stage he) (.pure _ _))))

lemma sameOut_shown_iff {held : LoadedQuiz} {e : Rows} (h : Stored held e) :
    SameOut (quizOut held n false) (shown e userId held.quiz n) ↔
    ⟨userId, held.quiz.quizId⟩ ∉ e.favorites.rows := by
  constructor
  · intro hsame hfav
    have hfields := congrArg QuizOut.isFavorited hsame.fields
    simp [quizOut, shown, hfav] at hfields
  · intro hfav
    rw [shown, decide_eq_false hfav]
    exact h.sameOut n false

lemma shows_stored {held : LoadedQuiz} {out : QuizOut} (hstored : Stored held e.toRows)
    (hid : held.quiz.quizId = quizId) (hcreator : held.quiz.creatorId = userId)
    (hfavorites : e.favorites = d.favorites) (hfav : ⟨userId, quizId⟩ ∉ d.favorites.rows)
    (hout : quizToResponse held false = .ok out) :
    ∃ now, (serve (getQuiz quizId (some userId)) e w').1 = .ok (some now) ∧ SameOut out now := by
  obtain ⟨n, hn, rfl⟩ := quizToResponse_eq_ok.mp hout
  have hrow := hstored.row
  rw [hid] at hrow
  refine ⟨_, by rw [getQuiz_shows hrow hcreator hn], (sameOut_shown_iff hstored).mpr ?_⟩
  rw [hid, hfavorites]
  exact hfav

lemma not_alike_of_favorite (hd : d.Filled) (hquiz : d.quizzes.get? quizId = some quiz)
    (howner : quiz.creatorId = userId) (hfav : ⟨userId, quizId⟩ ∈ d.favorites.rows) :
    ¬Alike d w userId quizId := by
  intro h
  obtain ⟨held, q, hyields⟩ := draft_yields (w := w) hquiz howner
  obtain ⟨hid, hcreator, hstored, hfavorites⟩ := stored_of_changeStatus hyields
  obtain ⟨old, hold, -, hheld, -⟩ := changed_of_yields hyields
  have hfilled : held.quiz.maxParticipants.isSome := by
    rw [hheld]
    exact hd old (Table.mem_get? hold)
  obtain ⟨out, hout⟩ := quizToResponse_filled hfilled false
  obtain ⟨n, hn, rfl⟩ := quizToResponse_eq_ok.mp hout
  have hserve := serve_commitQuiz_of_yields hyields (by rw [hstored.row]; rfl)
  rw [hout] at hserve
  obtain ⟨now, hnow, hsame⟩ := h.set_quiz_status _ _ _ _ hserve
  have hrow := hstored.row
  rw [hid] at hrow
  rw [getQuiz_shows hrow hcreator hn] at hnow
  cases hnow
  refine (sameOut_shown_iff hstored).mp hsame ?_
  rw [hid, hfavorites]
  exact hfav

end Alike

open Alike

/-- The user sees a quiz of theirs alike in all responses as long as it is not a favorite of
theirs. -/
theorem alike_iff {d : Database} (hd : d.Filled) (w : World) {userId quizId : UUID} {quiz : Quiz}
    (hquiz : d.quizzes.get? quizId = some quiz) (howner : quiz.creatorId = userId) :
    Alike d w userId quizId ↔ ⟨userId, quizId⟩ ∉ d.favorites.rows := by
  have hself (out : QuizOut) : SameOut out out :=
    ⟨rfl, .refl _, List.forall₂_same.mpr fun q _ => ⟨rfl, .refl _⟩⟩
  constructor
  · exact fun h hfav => not_alike_of_favorite hd hquiz howner hfav h
  · intro hfav
    obtain ⟨n, hn⟩ := Option.isSome_iff_exists.mp (hd quiz (Table.mem_get? hquiz))
    obtain ⟨outs, houts, hitems⟩ := listQuizzes_shows (w := w) hd hquiz howner hn
    refine ⟨⟨_, outs, _, by rw [getQuiz_shows hquiz howner hn], houts, hitems, hself _⟩, fun h =>
      absurd h hfav, ?_, ?_⟩
    · intro body data hdata out e w' hserve
      obtain ⟨held, hyields, hout⟩ := yields_of_serve (uncommitted_editQuiz data)
        found_of_editQuiz hserve
      have hedited := edited_of_yields hyields
      obtain ⟨old, now, hold, hcreator, hnew⟩ := hedited.fields
      refine shows_stored (stored_of_yields (fun tags htags => ?_) hyields) hedited.id_eq ?_
        hedited.favorites hfav hout
      · exact QuizUpdate.nodup_of_validate hdata tags htags
      · rw [hnew]
        exact hcreator
    · intro status out e w' hserve
      obtain ⟨held, hyields, hout⟩ := yields_of_serve (uncommitted_changeStatus status)
        found_of_changeStatus hserve
      obtain ⟨hid, hcreator, hstored, hfavorites⟩ := stored_of_changeStatus hyields
      exact shows_stored hstored hid hcreator hfavorites hfav hout

end Alike

section

attribute [local instance] Platform.ascii

theorem alike_iff_geography : Alike Sample.geography ⟨0, 7⟩ "ada" "capitals" ↔
    (⟨"ada", "capitals"⟩ : QuizFavorite) ∉ Sample.geography.favorites.rows :=
  alike_iff (by decide +kernel) ⟨0, 7⟩
    (by decide +kernel : Sample.geography.quizzes.get? "capitals" = some Sample.capitals) rfl

theorem favorite_not_alike : ¬Alike Sample.favored ⟨0, 7⟩ "ada" "capitals" :=
  Alike.not_alike_of_favorite (by decide +kernel)
    (by decide +kernel : Sample.favored.quizzes.get? "capitals" = some Sample.capitals) rfl
      (by decide +kernel)

end

end Askit.Relational

import Askit.Relational.Updates

/-! `delete_quiz` removes what belongs to the quiz, over statements of its own, cascades of the ORM
and cascades of the database. -/

namespace Askit.Relational

open Interleaving Coro Tables
open Game (UUID Time Runtime GameSession GamePlayer GamePlayerAnswer)
open Quizzes (Platform Exn)

namespace Rows

variable (d : Rows) (quizId : UUID)

def Plays (p : GamePlayer) : Prop := ∃ g ∈ d.sessions.rows, g.quizId = quizId ∧
    g.sessionId = p.sessionId

instance : DecidablePred (d.Plays quizId) :=
    fun _ => inferInstanceAs (Decidable (∃ g ∈ d.sessions.rows, _))

def OfQuestion (a : QuizAnswer) : Prop := ∃ q ∈ d.questions.rows, q.quizId = quizId ∧
    q.questionId = a.questionId

instance : DecidablePred (d.OfQuestion quizId) :=
    fun _ => inferInstanceAs (Decidable (∃ q ∈ d.questions.rows, _))

def OfPlayer (a : GamePlayerAnswer) : Prop := ∃ p ∈ d.players.rows, d.Plays quizId p ∧
    p.playerId = a.playerId

instance : DecidablePred (d.OfPlayer quizId) :=
    fun _ => inferInstanceAs (Decidable (∃ p ∈ d.players.rows, _))

def Sited : Prop := ∀ a ∈ d.records.rows, ∀ p ∈ d.players.rows, p.playerId = a.playerId →
    ∀ g ∈ d.sessions.rows,
  g.sessionId = p.sessionId → ∀ q ∈ d.questions.rows, q.questionId = a.questionId →
  q.quizId = g.quizId

end Rows

/-- Exactly what belongs to the quiz is removed. -/
structure Deleted (quizId : UUID) (d e : Rows) : Prop where
  quizzes : e.quizzes.rows = d.quizzes.rows.filter fun q => q.quizId ≠ quizId
  questions : e.questions.rows = d.questions.rows.filter fun q => q.quizId ≠ quizId
  answers : e.answers.rows = d.answers.rows.filter fun a => ¬d.OfQuestion quizId a
  quizTags : e.quizTags.rows = d.quizTags.rows.filter fun l => l.quizId ≠ quizId
  favorites : e.favorites.rows = d.favorites.rows.filter fun f => f.quizId ≠ quizId
  sessions : e.sessions.rows = d.sessions.rows.filter fun g => g.quizId ≠ quizId
  players : e.players.rows = d.players.rows.filter fun p => ¬d.Plays quizId p
  records : e.records.rows = d.records.rows.filter fun a => ¬d.OfPlayer quizId a
  users : e.users = d.users
  tags : e.tags = d.tags
  intact : Intact e

variable {quizId userId : UUID} {d : Database} {w : World}

namespace Sql

lemma mem_removed_sessions {k : UUID} :
    k ∈ d.sessions.removed (fun g => decide (g.quizId = quizId)) ↔
    ∃ g ∈ d.sessions.rows, g.quizId = quizId ∧ g.sessionId = k := by
  simp [Table.mem_removed]

lemma deleteSessions_eq (quizId : UUID) (d : Database) :
    ∃ e, deleteSessions (fun g => g.quizId = quizId) d = .ok e ∧
    e.toRows = { d.toRows with
      sessions := e.sessions
      players := e.players
      records := e.records } ∧
    e.sessions.rows = (d.sessions.rows.filter fun g => g.quizId ≠ quizId) ∧
    e.players.rows = (d.players.rows.filter fun p => ¬d.Plays quizId p) ∧
    e.records.rows = d.records.rows.filter fun a => ¬d.OfPlayer quizId a := by
  have hplayer (p : GamePlayer) : p.sessionId ∈ d.sessions.removed (fun g => g.quizId = quizId) ↔
      d.Plays quizId p :=
    mem_removed_sessions
  refine ⟨_, rfl, rfl, ?_, ?_, ?_⟩
  · exact Table.rows_remove_of fun g _ => decide_eq_true_iff
  · exact Table.rows_remove_of fun p _ => decide_eq_true_iff.trans (hplayer p)
  · refine Table.rows_remove_of fun a _ => decide_eq_true_iff.trans ?_
    rw [Table.mem_removed]
    exact exists_congr fun p => and_congr_right fun _ => and_congr_left fun _ =>
      decide_eq_true_iff.trans (hplayer p)

lemma deleteQuizTags_eq (gone : QuizTag → Bool) :
    ∃ e, deleteQuizTags gone d = .ok e ∧
    e.toRows = { d.toRows with quizTags := d.quizTags.remove gone } :=
  ⟨_, rfl, rfl⟩

lemma deleteFavorites_eq (gone : QuizFavorite → Bool) :
    ∃ e, deleteFavorites gone d = .ok e ∧
    e.toRows = { d.toRows with favorites := d.favorites.remove gone } :=
  ⟨_, rfl, rfl⟩

lemma deleteAnswers_eq (gone : QuizAnswer → Bool) :
    ∃ e, deleteAnswers gone d = .ok e ∧
    e.toRows = { d.toRows with answers := d.answers.remove gone } :=
  ⟨_, rfl, rfl⟩

lemma deleteQuestions_eq {gone : QuizQuestion → Bool}
    (h : ∀ a ∈ d.answers.rows, a.questionId ∉ d.questions.removed gone) :
    ∃ e, deleteQuestions gone d = .ok e ∧ e.toRows = { d.toRows with
      questions := d.questions.remove gone
      records := d.records.remove fun a => a.questionId ∈ d.questions.removed gone } := by
  rw [deleteQuestions, dif_pos h]
  exact ⟨_, rfl, rfl⟩

lemma deleteQuizzes_eq {gone : Quiz → Bool}
    (h : (∀ q ∈ d.questions.rows, q.quizId ∉ d.quizzes.removed gone) ∧
    ∀ g ∈ d.sessions.rows, g.quizId ∉ d.quizzes.removed gone) :
    ∃ e, deleteQuizzes gone d = .ok e ∧ e.toRows = { d.toRows with
      quizzes := d.quizzes.remove gone
      quizTags := d.quizTags.remove fun l => l.quizId ∈ d.quizzes.removed gone
      favorites := d.favorites.remove fun f => f.quizId ∈ d.quizzes.removed gone } := by
  rw [deleteQuizzes, dif_pos h]
  exact ⟨_, rfl, rfl⟩

end Sql

variable [Platform]

lemma loadAnswers_yields (questions : List QuizQuestion) (p : Point Database World) :
    Yields (loadAnswers questions) p
      (questions.flatMap fun q => Platform.arrange (p.seen.answersOf q.questionId)) p := by
  induction questions with
  | nil => exact .pure _ _
  | cons q questions ih => exact .bind (.select _ _) (.bind ih (.pure _ _))

namespace Rows

def sorted (d : Rows) (quizId : UUID) : List QuizQuestion :=
  (Platform.arrange (d.questionsOf quizId)).insertionSort fun a b => a.position ≤ b.position

lemma mem_sorted {q : QuizQuestion} : q ∈ d.sorted quizId ↔ q ∈ d.questions.rows ∧
    q.quizId = quizId := by
  rw [sorted, (List.perm_insertionSort _ _).mem_iff, (Platform.arrange_perm _).mem_iff,
    mem_questionsOf]

lemma mem_ids_sorted {q : QuizQuestion} (hq : q ∈ d.questions.rows) :
    q.questionId ∈ (d.sorted quizId).map QuizQuestion.questionId ↔ q.quizId = quizId := by
  rw [List.mem_map]
  constructor
  · rintro ⟨r, hr, hid⟩
    obtain ⟨hr, hquiz⟩ := mem_sorted.mp hr
    exact List.inj_on_of_nodup_map d.questions.unique hr hq hid ▸ hquiz
  · exact fun h => ⟨q, mem_sorted.mpr ⟨hq, h⟩, rfl⟩

lemma mem_ids_answers {a : QuizAnswer} (ha : a ∈ d.answers.rows) :
    a.answerId ∈ ((d.sorted quizId).flatMap fun q =>
      Platform.arrange (d.answersOf q.questionId)).map
      QuizAnswer.answerId ↔ d.OfQuestion quizId a := by
  rw [List.mem_map]
  constructor
  · rintro ⟨b, hb, hid⟩
    obtain ⟨q, hq, hb⟩ := List.mem_flatMap.mp hb
    obtain ⟨hb, hquestion⟩ := mem_answersOf.mp ((Platform.arrange_perm _).mem_iff.mp hb)
    obtain rfl := List.inj_on_of_nodup_map d.answers.unique hb ha hid
    obtain ⟨hq, hquiz⟩ := mem_sorted.mp hq
    exact ⟨q, hq, hquiz, hquestion.symm⟩
  · rintro ⟨q, hq, hquiz, hid⟩
    refine ⟨a, List.mem_flatMap.mpr ⟨q, mem_sorted.mpr ⟨hq, hquiz⟩, ?_⟩, rfl⟩
    exact (Platform.arrange_perm _).mem_iff.mpr (mem_answersOf.mpr ⟨ha, hid.symm⟩)

end Rows

/-- What is left of the tables once the quiz is deleted, where it has no session. -/
structure Emptied (quizId : UUID) (d e : Rows) : Prop where
  quizzes : e.quizzes.rows = d.quizzes.rows.filter fun q => q.quizId ≠ quizId
  questions : e.questions.rows = d.questions.rows.filter fun q => q.quizId ≠ quizId
  answers : e.answers.rows = d.answers.rows.filter fun a => ¬d.OfQuestion quizId a
  quizTags : e.quizTags.rows = d.quizTags.rows.filter fun l => l.quizId ≠ quizId
  favorites : e.favorites.rows = d.favorites.rows.filter fun f => f.quizId ≠ quizId
  sessions : e.sessions = d.sessions
  players : e.players = d.players
  records : e.records.rows = d.records.rows.filter fun a => ¬∃ q ∈ d.questionsOf quizId,
    q.questionId = a.questionId
  users : e.users = d.users
  tags : e.tags = d.tags

lemma staged_deletes (hsessions : ∀ g ∈ d.sessions.rows, g.quizId ≠ quizId)
    (tags favoritedBy : List UUID)
    (htags : ∀ l ∈ d.quizTags.rows, l.quizId = quizId → l.tag ∈ tags)
    (hfavorites : ∀ f ∈ d.favorites.rows, f.quizId = quizId → f.userId ∈ favoritedBy) :
    ∃ d₁ d₂ d₃ d₄ d₅ : Database,
      Sql.deleteQuizTags (fun l => l.quizId = quizId ∧ l.tag ∈ tags) d = .ok d₁ ∧
      Sql.deleteFavorites (fun f => f.quizId = quizId ∧ f.userId ∈ favoritedBy) d₁ = .ok d₂ ∧
      Sql.deleteAnswers (fun a => a.answerId ∈ ((d.sorted quizId).flatMap fun q =>
        Platform.arrange (d.answersOf q.questionId)).map QuizAnswer.answerId) d₂ = .ok d₃ ∧
      Sql.deleteQuestions (fun q => q.questionId ∈ (d.sorted quizId).map QuizQuestion.questionId)
        d₃ = .ok d₄ ∧
      Sql.deleteQuizzes (fun q => q.quizId = quizId) d₄ = .ok d₅ ∧
        Emptied quizId d.toRows d₅.toRows := by
  obtain ⟨d₁, hd₁, hrows₁⟩ := Sql.deleteQuizTags_eq (d := d) fun l =>
    l.quizId = quizId ∧ l.tag ∈ tags
  obtain ⟨d₂, hd₂, hrows₂⟩ :=
    Sql.deleteFavorites_eq (d := d₁) fun f => f.quizId = quizId ∧ f.userId ∈ favoritedBy
  obtain ⟨d₃, hd₃, hrows₃⟩ := Sql.deleteAnswers_eq (d := d₂) fun a =>
    a.answerId ∈ ((d.sorted quizId).flatMap fun q =>
      Platform.arrange (d.answersOf q.questionId)).map QuizAnswer.answerId
  rw [hrows₁] at hrows₂
  rw [hrows₂] at hrows₃
  have hanswers : d₃.answers.rows = d.answers.rows.filter fun a => ¬d.OfQuestion quizId a := by
    rw [hrows₃]
    exact Table.rows_remove_of fun a ha => decide_eq_true_iff.trans (Rows.mem_ids_answers ha)
  have hgone {k : UUID} : k ∈ d.questions.removed (fun q =>
    q.questionId ∈ (d.sorted quizId).map QuizQuestion.questionId) ↔
      ∃ q ∈ d.questionsOf quizId, q.questionId = k := by
    rw [Table.mem_removed]
    constructor
    · rintro ⟨q, hq, hsorted, hk⟩
      exact ⟨q, Rows.mem_questionsOf.mpr
        ⟨hq, (Rows.mem_ids_sorted hq).mp (of_decide_eq_true hsorted)⟩, hk⟩
    · rintro ⟨q, hq, hk⟩
      obtain ⟨hq, hquiz⟩ := Rows.mem_questionsOf.mp hq
      exact ⟨q, hq, decide_eq_true ((Rows.mem_ids_sorted hq).mpr hquiz), hk⟩
  have hfree : ∀ a ∈ d₃.answers.rows, a.questionId ∉
      d₃.questions.removed fun q => q.questionId ∈ (d.sorted quizId).map
        QuizQuestion.questionId := by
    intro a ha hk
    rw [hrows₃] at hk
    obtain ⟨q, hq, hid⟩ := hgone.mp hk
    obtain ⟨hq, hquiz⟩ := Rows.mem_questionsOf.mp hq
    rw [hanswers] at ha
    exact of_decide_eq_true (List.mem_filter.mp ha).2 ⟨q, hq, hquiz, hid⟩
  obtain ⟨d₄, hd₄, hrows₄⟩ := Sql.deleteQuestions_eq hfree
  have hkept : d₄.answers = d₃.answers := by rw [hrows₄]
  rw [hrows₃] at hrows₄
  have hquestions : d₄.questions.rows = d.questions.rows.filter fun q => q.quizId ≠ quizId := by
    rw [hrows₄]
    exact Table.rows_remove_of fun q hq => decide_eq_true_iff.trans (Rows.mem_ids_sorted hq)
  have hlinks : d₄.quizTags.rows = d.quizTags.rows.filter fun l => l.quizId ≠ quizId := by
    rw [hrows₄]
    exact Table.rows_remove_of fun l hl => decide_eq_true_iff.trans
      (and_iff_left_of_imp (htags l hl))
  have hstarred : d₄.favorites.rows = d.favorites.rows.filter fun f => f.quizId ≠ quizId := by
    rw [hrows₄]
    exact Table.rows_remove_of fun f hf => decide_eq_true_iff.trans
      (and_iff_left_of_imp (hfavorites f hf))
  have hremoved {k : UUID} (hk : k ∈ d₄.quizzes.removed fun q => q.quizId = quizId) :
      k = quizId := by
    obtain ⟨q, -, hq, rfl⟩ := Table.mem_removed.mp hk
    exact of_decide_eq_true hq
  have hunused : (∀ q ∈ d₄.questions.rows, q.quizId ∉ d₄.quizzes.removed fun q =>
    q.quizId = quizId) ∧
      ∀ g ∈ d₄.sessions.rows, g.quizId ∉ d₄.quizzes.removed fun q => q.quizId = quizId := by
    constructor
    · intro q hq hk
      rw [hquestions] at hq
      exact of_decide_eq_true (List.mem_filter.mp hq).2 (hremoved hk)
    · intro g hg hk
      rw [hrows₄] at hg
      exact hsessions g hg (hremoved hk)
  obtain ⟨d₅, hd₅, hrows₅⟩ := Sql.deleteQuizzes_eq hunused
  refine ⟨d₁, d₂, d₃, d₄, d₅, hd₁, hd₂, hd₃, hd₄, hd₅, ?_⟩
  constructor
  case quizzes =>
    rw [hrows₅, hrows₄]
    exact Table.rows_remove_of fun q _ => decide_eq_true_iff
  case questions => rw [hrows₅, hquestions]
  case answers => rw [hrows₅, hkept, hanswers]
  case quizTags =>
    rw [hrows₅, Table.rows_remove, hlinks]
    refine List.filter_eq_self.mpr fun l hl => ?_
    rw [Bool.not_eq_true', decide_eq_false_iff_not]
    exact fun hk => of_decide_eq_true (List.mem_filter.mp hl).2 (hremoved hk)
  case favorites =>
    rw [hrows₅, Table.rows_remove, hstarred]
    refine List.filter_eq_self.mpr fun f hf => ?_
    rw [Bool.not_eq_true', decide_eq_false_iff_not]
    exact fun hk => of_decide_eq_true (List.mem_filter.mp hf).2 (hremoved hk)
  case sessions => rw [hrows₅, hrows₄]
  case players => rw [hrows₅, hrows₄]
  case records =>
    rw [hrows₅, hrows₄]
    exact Table.rows_remove_of fun a _ => decide_eq_true_iff.trans hgone
  case users => rw [hrows₅, hrows₄]
  case tags => rw [hrows₅, hrows₄]

omit [Platform] in
lemma ofPlayer_of_question (hsited : d.Sited) {a : GamePlayerAnswer} (ha : a ∈ d.records.rows)
    {q : QuizQuestion} (hq : q ∈ d.questionsOf quizId) (hid : q.questionId = a.questionId) :
    d.OfPlayer quizId a := by
  obtain ⟨hq, hquiz⟩ := Rows.mem_questionsOf.mp hq
  obtain ⟨p, hp, hplayer⟩ := List.mem_map.mp (d.intact.record_player a ha _ rfl)
  obtain ⟨g, hg, hsession⟩ := List.mem_map.mp (d.intact.player_session p hp _ rfl)
  have hsame := hsited a ha p hp hplayer g hg hsession q hq hid
  exact ⟨p, hp, ⟨g, hg, hsame.symm.trans hquiz, hsession⟩, hplayer⟩

lemma dropQuiz_yields {quiz : Quiz} (hquiz : d.quizzes.get? quizId = some quiz)
    (howner : quiz.creatorId = userId) (hsited : d.Sited) :
    ∃ e : Database, Yields (dropQuiz quizId userId) ⟨d, d, w⟩ () ⟨d, e, w⟩ ∧
      Deleted quizId d.toRows e.toRows := by
  obtain ⟨d₀, hd₀, hrows₀, hsessions, hplayers, hrecords⟩ := Sql.deleteSessions_eq quizId d
  have hsessions' : ∀ g ∈ d₀.sessions.rows, g.quizId ≠ quizId := by
    intro g hg
    rw [hsessions] at hg
    exact of_decide_eq_true (List.mem_filter.mp hg).2
  obtain ⟨d₁, d₂, d₃, d₄, d₅, hd₁, hd₂, hd₃, hd₄, hd₅, hemptied⟩ :=
    staged_deletes hsessions' (Platform.arrange (d₀.tagsOf quizId))
      (Platform.arrange ((d₀.favorites.rows.filter fun f => f.quizId = quizId).map
        QuizFavorite.userId))
      (fun l hl hid => (Platform.arrange_perm _).mem_iff.mpr (Rows.mem_tagsOf.mpr (hid ▸ hl)))
      (fun f hf hid => (Platform.arrange_perm _).mem_iff.mpr
        (List.mem_map_of_mem (List.mem_filter.mpr ⟨hf, decide_eq_true hid⟩)))
  have hsorted : d.sorted quizId = d₀.sorted quizId := by rw [hrows₀]; rfl
  refine ⟨d₅, ?_, ?_⟩
  · refine .bind (.select _ _) ?_
    dsimp only
    rw [hquiz]
    refine .bind (.require _ howner _)
      (.bind (.execute hd₀) (.bind (loadAnswers_yields _ _) (.bind (.select _ _)
      (.bind (.select _ _) ?_))))
    rw [← hsorted] at hd₃ hd₄
    exact .bind (.stage hd₁) (.bind (.stage hd₂)
      (.bind (.stage hd₃) (.bind (.stage hd₄) (.stage hd₅))))
  · constructor
    case quizzes => rw [hemptied.quizzes, hrows₀]
    case questions => rw [hemptied.questions, hrows₀]
    case answers =>
      rw [hemptied.answers, hrows₀]
      rfl
    case quizTags => rw [hemptied.quizTags, hrows₀]
    case favorites => rw [hemptied.favorites, hrows₀]
    case sessions => rw [hemptied.sessions, hsessions]
    case players => rw [hemptied.players, hplayers]
    case records =>
      rw [hemptied.records, hrecords]
      refine List.filter_eq_self.mpr fun a ha => decide_eq_true ?_
      obtain ⟨ha, hkept⟩ := List.mem_filter.mp ha
      rintro ⟨q, hq, hid⟩
      rw [hrows₀] at hq
      exact of_decide_eq_true hkept (ofPlayer_of_question hsited ha hq hid)
    case users => rw [hemptied.users, hrows₀]
    case tags => rw [hemptied.tags, hrows₀]
    case intact => exact d₅.intact

lemma uncommitted_loadAnswers (questions : List QuizQuestion) :
    Uncommitted (loadAnswers questions) := by
  induction questions with
  | nil => exact .done _
  | cons q questions ih => exact .bind (.perform trivial) fun _ => .bind ih fun _ => .done _

lemma uncommitted_dropQuiz : Uncommitted (dropQuiz quizId userId) := by
  refine .bind (.perform trivial) fun found => ?_
  cases found with
  | none => exact .done _
  | some found =>
    exact .bind (.require _ _) fun _ => .bind (.perform trivial) fun _ =>
      .bind (uncommitted_loadAnswers _) fun _ =>
      .bind (.perform trivial) fun _ => .bind (.perform trivial) fun _ =>
        .bind (.perform trivial) fun _ =>
      .bind (.perform trivial) fun _ => .bind (.perform trivial) fun _ => .bind (.perform trivial)
        fun _ => .perform trivial

lemma owned_of_yields {u : Unit} {q : Point Database World}
    (h : Yields (dropQuiz quizId userId) ⟨d, d, w⟩ u q) :
    ∃ quiz, d.quizzes.get? quizId = some quiz ∧ quiz.creatorId = userId := by
  obtain ⟨found, p, hp, h⟩ := Yields.bind_iff.mp h
  obtain ⟨rfl, rfl⟩ := Yields.select_iff.mp hp
  cases hquiz : d.quizzes.get? quizId with
  | none =>
    simp only [hquiz, Option.map_none] at h
    exact (Yields.throw_iff.mp h).elim
  | some quiz =>
    simp only [hquiz, Option.map_some] at h
    obtain ⟨_, p, hp, -⟩ := Yields.bind_iff.mp h
    exact ⟨quiz, rfl, (Yields.require_iff.mp hp).1⟩

lemma deleteQuiz_eq : deleteQuiz quizId userId = dropQuiz quizId userId >>= fun a =>
    commit >>= fun _ => pure a := by
  unfold deleteQuiz
  congr 1
  funext _
  exact (bind_pure (commit : Handler Unit)).symm

lemma serve_deleteQuiz_of_owner {quiz : Quiz} (hquiz : d.quizzes.get? quizId = some quiz)
    (howner : quiz.creatorId = userId) (hsited : d.Sited) :
    ∃ e : Database, serve (deleteQuiz quizId userId) d w = (.ok (), e, w) ∧
      Deleted quizId d.toRows e.toRows := by
  obtain ⟨e, hyields, hdeleted⟩ := dropQuiz_yields (w := w) hquiz howner hsited
  refine ⟨e, ?_, hdeleted⟩
  rw [deleteQuiz_eq]
  exact serve_of_yields (f := pure) hyields

lemma serve_deleteQuiz (quizId userId : UUID) (d : Database) (w : World) :
    (∃ err w', w ≤ w' ∧ serve (deleteQuiz quizId userId) d w = (.error err, d, w')) ∨
      ∃ quiz, d.quizzes.get? quizId = some quiz ∧ quiz.creatorId = userId := by
  rw [deleteQuiz_eq]
  rcases serve_commit (f := pure) uncommitted_dropQuiz d w with h | ⟨_, q, -, h⟩
  · exact .inl h
  · exact .inr (owned_of_yields h)

end Askit.Relational

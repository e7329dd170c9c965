import Askit.Relational.Exports

/-! What a request leaves of the rows of others. -/

namespace Askit.Relational

open Interleaving Coro Tables
open Game (UUID Time Runtime GameSession GamePlayer GamePlayerAnswer)
open Quizzes (Platform QuizStatus QuizQuestionCreate QuizCreate QuizUpdate QuizOut NewQuestion Exn)
open Site

def Request.user : Request → UUID
  | createQuiz userId _ | updateQuiz _ userId _ | setQuizStatus _ _ userId | deleteQuiz _ userId
  | toggleFavorite _ userId => userId

structure Owned (d : Rows) : Prop where
  favorites : ∀ f ∈ d.favorites.rows, ∃ quiz, d.quizzes.get? f.quizId = some quiz ∧
    quiz.creatorId = f.userId
  sessions : ∀ g ∈ d.sessions.rows, ∃ quiz, d.quizzes.get? g.quizId = some quiz ∧
    quiz.creatorId = g.hostId

structure Spares (userId : UUID) (d e : Rows) : Prop where
  quizzes : ∀ quiz ∈ d.quizzes.rows, quiz.creatorId ≠ userId → SameQuiz quiz.quizId d e
  created : ∀ quiz ∈ e.quizzes.rows, quiz.creatorId ≠ userId → quiz ∈ d.quizzes.rows
  favorites : ∀ f : QuizFavorite, f.userId ≠ userId → (f ∈ e.favorites.rows ↔ f ∈ d.favorites.rows)
  sessions : ∀ g : GameSession, g.hostId ≠ userId → (g ∈ e.sessions.rows ↔ g ∈ d.sessions.rows)
  players : ∀ g ∈ d.sessions.rows, g.hostId ≠ userId → ∀ p : GamePlayer, p.sessionId = g.sessionId →
    (p ∈ e.players.rows ↔ p ∈ d.players.rows)
  records : ∀ g ∈ d.sessions.rows, g.hostId ≠ userId → ∀ p ∈ d.players.rows,
    p.sessionId = g.sessionId →
    ∀ a : GamePlayerAnswer, a.playerId = p.playerId → (a ∈ e.records.rows ↔ a ∈ d.records.rows)

lemma SameQuiz.trans {quizId : UUID} {d e f : Rows} (h : SameQuiz quizId d e)
    (h' : SameQuiz quizId e f) :
    SameQuiz quizId d f where
  fields := h'.fields.trans h.fields
  questions := h'.questions.trans h.questions
  answers q hq := (h'.answers q (h.questions.symm ▸ hq)).trans (h.answers q hq)
  tags := h'.tags.trans h.tags

namespace Spares

variable {userId : UUID} {d e f : Rows}

lemma trans (h : Spares userId d e) (h' : Spares userId e f) : Spares userId d f where
  quizzes quiz hquiz hcreator := by
    have hsame := h.quizzes quiz hquiz hcreator
    have hget := hsame.fields.trans (Table.get?_of_mem hquiz)
    exact hsame.trans (h'.quizzes quiz (Table.mem_get? hget) hcreator)
  created quiz hquiz hcreator := h.created quiz (h'.created quiz hquiz hcreator) hcreator
  favorites fav hfav := (h'.favorites fav hfav).trans (h.favorites fav hfav)
  sessions g hg := (h'.sessions g hg).trans (h.sessions g hg)
  players g hg hhost p hp :=
    (h'.players g ((h.sessions g hhost).mpr hg) hhost p hp).trans (h.players g hg hhost p hp)
  records g hg hhost p hp hsession a ha :=
    (h'.records g ((h.sessions g hhost).mpr hg) hhost p ((h.players g hg hhost p hsession).mpr hp)
      hsession a ha).trans
      (h.records g hg hhost p hp hsession a ha)

end Spares

/-- What a request of the user has done to the tables, where it concerns a quiz of theirs that
stays, or is new. -/
structure Alters (userId quizId : UUID) (d e : Rows) : Prop where
  others : ∀ other, other ≠ quizId → SameQuiz other d e
  kept : ∀ quiz, d.quizzes.get? quizId = some quiz → quiz.creatorId = userId ∧ ∃ new,
    e.quizzes.get? quizId = some new
  owner : ∀ quiz, e.quizzes.get? quizId = some quiz → quiz.creatorId = userId
  favorites : e.favorites = d.favorites
  sessions : e.sessions = d.sessions
  players : e.players = d.players
  records : e.records.rows ⊆ d.records.rows
  remaining : ∀ a ∈ d.records.rows, (∀ q ∈ d.questions.rows, q.questionId = a.questionId →
    q.quizId ≠ quizId) →
    a ∈ e.records.rows

namespace Alters

variable {userId quizId : UUID} {d e : Database}

lemma spares (h : Alters userId quizId d.toRows e.toRows) (hsited : d.Sited)
    (howned : Owned d.toRows) :
    Spares userId d.toRows e.toRows where
  quizzes quiz hquiz hcreator := by
    refine h.others _ fun heq => ?_
    exact hcreator (h.kept quiz (heq ▸ Table.get?_of_mem hquiz)).1
  created quiz hquiz hcreator := by
    have hne : quiz.quizId ≠ quizId :=
      fun heq => hcreator (h.owner quiz (heq ▸ Table.get?_of_mem hquiz))
    exact Table.mem_get? ((h.others _ hne).fields.symm.trans (Table.get?_of_mem hquiz))
  favorites f _ := by rw [h.favorites]
  sessions g _ := by rw [h.sessions]
  players g _ _ p _ := by rw [h.players]
  records g hg hhost p hp hsession a ha := by
    refine ⟨fun hmem => h.records hmem, fun hmem => h.remaining a hmem fun q hq hid heq => ?_⟩
    -- the question is one of the session's quiz, which its host has created
    have hquiz := hsited a hmem p hp ha.symm g hg hsession.symm q hq hid
    obtain ⟨quiz, hget, hcreator⟩ := howned.sessions g hg
    exact hhost (hcreator.symm.trans (h.kept quiz (by rw [← heq, hquiz]; exact hget)).1)

lemma owned (h : Alters userId quizId d.toRows e.toRows) (howned : Owned d.toRows) :
    Owned e.toRows := by
  have hstays : ∀ other owner, (∃ quiz, d.quizzes.get? other = some quiz ∧ quiz.creatorId = owner) →
      ∃ quiz, e.quizzes.get? other = some quiz ∧ quiz.creatorId = owner := by
    rintro other owner ⟨quiz, hquiz, rfl⟩
    by_cases heq : other = quizId
    · subst heq
      obtain ⟨hcreator, new, hnew⟩ := h.kept quiz hquiz
      exact ⟨new, hnew, (h.owner new hnew).trans hcreator.symm⟩
    · exact ⟨quiz, (h.others other heq).fields.trans hquiz, rfl⟩
  refine ⟨fun f hf => hstays _ _ (howned.favorites f (h.favorites ▸ hf)), fun g hg => ?_⟩
  exact hstays _ _ (howned.sessions g (h.sessions ▸ hg))

end Alters

section Deletion

variable {userId quizId : UUID} {d e : Rows}

lemma Deleted.spares {quiz : Quiz} (h : Deleted quizId d e)
    (hquiz : d.quizzes.get? quizId = some quiz) (howner : quiz.creatorId = userId)
    (howned : Owned d) : Spares userId d e := by
  have hroom : ∀ g ∈ d.sessions.rows, g.hostId ≠ userId → g.quizId ≠ quizId := by
    rintro g hg hhost rfl
    obtain ⟨other, hother, hcreator⟩ := howned.sessions g hg
    rw [hquiz, Option.some.injEq] at hother
    exact hhost (by rw [← hcreator, ← hother, howner])
  have hplays : ∀ g ∈ d.sessions.rows, g.hostId ≠ userId → ∀ p : GamePlayer,
    p.sessionId = g.sessionId →
      ¬d.Plays quizId p := by
    rintro g hg hhost p hp ⟨f, hf, hof, hid⟩
    obtain rfl := List.inj_on_of_nodup_map d.sessions.unique hf hg (hid.trans hp)
    exact hroom f hf hhost hof
  refine ⟨fun other hother hcreator => h.same ?_, ?_, ?_, ?_, ?_, ?_⟩
  · rintro rfl
    rw [Table.get?_of_mem hother, Option.some.injEq] at hquiz
    exact hcreator (hquiz ▸ howner)
  · intro other hother _
    rw [h.quizzes] at hother
    exact (List.mem_filter.mp hother).1
  · intro f hf
    rw [h.favorites, List.mem_filter, decide_eq_true_eq]
    refine ⟨And.left, fun hmem => ⟨hmem, fun heq => ?_⟩⟩
    obtain ⟨other, hother, hcreator⟩ := howned.favorites f hmem
    rw [heq, hquiz, Option.some.injEq] at hother
    exact hf (by rw [← hcreator, ← hother, howner])
  · intro g hhost
    rw [h.sessions, List.mem_filter, decide_eq_true_eq]
    exact ⟨And.left, fun hg => ⟨hg, hroom g hg hhost⟩⟩
  · intro g hg hhost p hp
    rw [h.players, List.mem_filter, decide_eq_true_eq]
    exact ⟨And.left, fun hmem => ⟨hmem, hplays g hg hhost p hp⟩⟩
  · intro g hg hhost p hp hsession a ha
    rw [h.records, List.mem_filter, decide_eq_true_eq]
    refine ⟨And.left, fun hmem => ⟨hmem, ?_⟩⟩
    rintro ⟨r, hr, hplay, hid⟩
    obtain rfl := List.inj_on_of_nodup_map d.players.unique hr hp (hid.trans ha)
    exact hplays g hg hhost r hsession hplay

lemma Deleted.owned (h : Deleted quizId d e) (howned : Owned d) : Owned e := by
  refine ⟨fun f hf => ?_, fun g hg => ?_⟩
  · rw [h.favorites, List.mem_filter, decide_eq_true_eq] at hf
    obtain ⟨quiz, hquiz, hcreator⟩ := howned.favorites f hf.1
    exact ⟨quiz, (h.same hf.2).fields.trans hquiz, hcreator⟩
  · rw [h.sessions, List.mem_filter, decide_eq_true_eq] at hg
    obtain ⟨quiz, hquiz, hcreator⟩ := howned.sessions g hg.1
    exact ⟨quiz, (h.same hg.2).fields.trans hquiz, hcreator⟩

end Deletion

/-- What an edit of the quiz leaves as it is, beside the rows of the other quizzes. -/
structure Leaves (quizId : UUID) (p q : Point Database World) : Prop where
  favorites : q.seen.favorites = p.seen.favorites
  questions : ∀ r ∈ p.seen.questions.rows, r.quizId ≠ quizId → r ∈ q.seen.questions.rows
  records : ∀ a ∈ p.seen.records.rows, ∀ r ∈ p.seen.questions.rows, r.questionId = a.questionId →
    r.quizId ≠ quizId → a ∈ q.seen.records.rows

namespace Leaves

variable {quizId userId : UUID} {p q r : Point Database World}

lemma trans (h : Leaves quizId p q) (h' : Leaves quizId q r) : Leaves quizId p r where
  favorites := h'.favorites.trans h.favorites
  questions s hs hne := h'.questions s (h.questions s hs hne) hne
  records a ha s hs hid hne := h'.records a (h.records a ha s hs hid hne) s
    (h.questions s hs hne) hid hne

lemma of_kept (hfavorites : q.seen.favorites = p.seen.favorites)
    (hquestions : p.seen.questions.rows ⊆ q.seen.questions.rows)
    (hrecords : q.seen.records = p.seen.records) :
    Leaves quizId p q where
  favorites := hfavorites
  questions _ hr _ := hquestions hr
  records _ ha _ _ _ _ := hrecords ▸ ha

lemma of_updated {c : QuizSet} (h : Sql.QuizUpdated quizId c p.seen.toRows q.seen.toRows) :
    Leaves quizId p q :=
  of_kept h.favorites (h.questions ▸ List.Subset.refl _) h.records

variable [Platform]

omit [Platform] in
lemma of_tagsReplaced {loaded tags : List String} {given : Option (List String)}
    (h : TagsReplaced quizId loaded given tags p q) : Leaves quizId p q :=
  of_kept (by rw [h.rows]) (by rw [h.rows]; exact List.Subset.refl _) (by rw [h.rows])

omit [Platform] in
lemma of_questionsAdded {other : UUID} {data : List NewQuestion} {added : List LoadedQuestion}
    (h : QuestionsAdded other data added p q) : Leaves quizId p q :=
  of_kept (by rw [h.rows]) (h.questions ▸ List.subset_append_left _ _) (by rw [h.rows])

lemma replaceQuestions {loaded questions : List LoadedQuestion}
    {given : Option (List QuizQuestionCreate)}
    (hloaded : ∀ s ∈ p.seen.questions.rows,
      s.questionId ∈ (loaded.map fun l => l.question.questionId) →
      s.quizId = quizId)
    (h : Yields (Relational.replaceQuestions quizId loaded given) p questions q) :
    Leaves quizId p q := by
  cases given with
  | none =>
    obtain ⟨-, rfl⟩ := Yields.pure_iff.mp h
    exact of_kept rfl (List.Subset.refl _) rfl
  | some body =>
    obtain ⟨_, p₁, hp₁, h⟩ := Yields.bind_iff.mp h
    obtain ⟨_, p₂, hp₂, h⟩ := Yields.bind_iff.mp h
    obtain ⟨_, p₃, hp₃, h⟩ := Yields.bind_iff.mp h
    obtain ⟨data, p₄, hp₄, h⟩ := Yields.bind_iff.mp h
    obtain ⟨d, hd, rfl⟩ := Yields.stage_iff.mp hp₁
    cases hd
    obtain ⟨e, he, rfl⟩ := Yields.stage_iff.mp hp₂
    obtain rfl := Yields.flush_iff.mp hp₃
    obtain ⟨-, rfl⟩ := Yields.done_iff.mp hp₄
    have hrows := Sql.eq_of_deleteQuestions he
    have hdeleted : Leaves quizId p { p with seen := e } := by
      refine ⟨by rw [hrows], fun s hs hne => ?_, fun a ha s hs hid hne => ?_⟩
      · rw [hrows]
        refine List.mem_filter.mpr ⟨hs, ?_⟩
        rw [Bool.not_eq_true', decide_eq_false_iff_not]
        exact fun hmem => hne (hloaded s hs hmem)
      · rw [hrows]
        refine List.mem_filter.mpr ⟨ha, ?_⟩
        rw [Bool.not_eq_true', decide_eq_false_iff_not]
        intro hmem
        obtain ⟨t, ht, hgone, hkey⟩ := Table.mem_removed.mp hmem
        obtain rfl := List.inj_on_of_nodup_map p.seen.questions.unique ht hs (hkey.trans hid.symm)
        exact hne (hloaded t ht (of_decide_eq_true hgone))
    exact hdeleted.trans (of_questionsAdded (questionsAdded_of_yields h))

lemma editQuiz {data : QuizUpdate} {d : Database} {w : World} {held : LoadedQuiz}
    (h : Yields (Relational.editQuiz quizId userId data) ⟨d, d, w⟩ held q) :
    Leaves quizId ⟨d, d, w⟩ q := by
  obtain ⟨found, p, hp, h⟩ := Yields.bind_iff.mp h
  obtain ⟨hfound, rfl⟩ := Yields.select_iff.mp hp
  subst hfound
  cases hquiz : d.quizzes.get? quizId with
  | none =>
    simp only [Rows.fetchQuiz, hquiz, Option.map_none] at h
    exact (Yields.throw_iff.mp h).elim
  | some old =>
    obtain rfl := Table.key_get? hquiz
    simp only [Rows.fetchQuiz, hquiz, Option.map_some] at h
    obtain ⟨_, p, hp, h⟩ := Yields.bind_iff.mp h
    obtain ⟨-, rfl⟩ := Yields.require_iff.mp hp
    obtain ⟨_, p, hp, h⟩ := Yields.bind_iff.mp h
    obtain ⟨-, rfl⟩ := Yields.require_iff.mp hp
    obtain ⟨_, p₁, hp₁, h⟩ := Yields.bind_iff.mp h
    obtain ⟨tags, p₂, hp₂, h⟩ := Yields.bind_iff.mp h
    obtain ⟨_, p₃, hp₃, h⟩ := Yields.bind_iff.mp h
    obtain ⟨questions, p₄, hp₄, h⟩ := Yields.bind_iff.mp h
    obtain ⟨now, p₅, hp₅, h⟩ := Yields.bind_iff.mp h
    obtain ⟨_, p₆, hp₆, h⟩ := Yields.bind_iff.mp h
    obtain ⟨-, rfl⟩ := Yields.pure_iff.mp h
    obtain ⟨d₁, hd₁, rfl⟩ := Yields.stage_iff.mp hp₁
    obtain ⟨d₃, hd₃, rfl⟩ := Yields.stage_iff.mp hp₃
    obtain ⟨-, rfl⟩ := Yields.world_iff.mp hp₅
    obtain ⟨d₆, hd₆, rfl⟩ := Yields.stage_iff.mp hp₆
    have h₁ := Sql.quizUpdated_of_ok hd₁
    have h₂ := tagsReplaced_of_yields hp₂
    have h₃ := Sql.quizUpdated_of_ok hd₃
    have hquestions : d₃.questions = d.questions := by rw [h₃.questions, ← h₁.questions, h₂.rows]
    have h₄ : Leaves old.quizId { p₂ with seen := d₃ } p₄ := by
      refine replaceQuestions (fun s hs hmem => ?_) hp₄
      exact (Rows.mem_loadedQuestions (hquestions ▸ hs)).mp hmem
    exact (of_updated h₁).trans ((of_tagsReplaced h₂).trans ((of_updated h₃).trans
      (h₄.trans (of_updated (Sql.quizUpdated_of_ok hd₆)))))

lemma newQuiz {data : QuizCreate} {d : Database} {w : World} {held : LoadedQuiz}
    (h : Yields (Relational.newQuiz userId data) ⟨d, d, w⟩ held q) : Leaves quizId ⟨d, d, w⟩ q := by
  obtain ⟨tags, p₁, hp₁, h⟩ := Yields.bind_iff.mp h
  obtain ⟨questions, p₂, hp₂, h⟩ := Yields.bind_iff.mp h
  obtain ⟨now, p₃, hp₃, h⟩ := Yields.bind_iff.mp h
  obtain ⟨id, p₄, hp₄, h⟩ := Yields.bind_iff.mp h
  obtain ⟨_, p₅, hp₅, h⟩ := Yields.bind_iff.mp h
  obtain ⟨added, p₆, hp₆, h⟩ := Yields.bind_iff.mp h
  obtain ⟨_, p₇, hp₇, h⟩ := Yields.bind_iff.mp h
  obtain ⟨-, rfl⟩ := Yields.pure_iff.mp h
  obtain ⟨-, hmade⟩ := tagsMade_of_yields hp₁
  obtain ⟨-, rfl⟩ := Yields.done_iff.mp hp₂
  obtain ⟨-, rfl⟩ := Yields.world_iff.mp hp₃
  obtain ⟨-, rfl⟩ := Yields.world_iff.mp hp₄
  obtain ⟨e, he, rfl⟩ := Yields.stage_iff.mp hp₅
  obtain ⟨-, table, -, hrows⟩ := Sql.eq_of_insertQuiz he
  have hadded := questionsAdded_of_yields hp₆
  have hlinked := linked_of_yields hp₇
  have h₂ : Leaves quizId ⟨d, d, w⟩ p₂ :=
    of_kept (by rw [hmade.rows]) (by rw [hmade.rows]; exact List.Subset.refl _) (by rw [hmade.rows])
  have h₅ : Leaves quizId p₂ ⟨p₂.committed, e, p₂.world.draw⟩ :=
    of_kept (by rw [hrows]) (by rw [hrows]; exact List.Subset.refl _) (by rw [hrows])
  have h₇ : Leaves quizId p₆ q :=
    of_kept (by rw [hlinked.rows]) (by rw [hlinked.rows]; exact List.Subset.refl _)
      (by rw [hlinked.rows])
  exact h₂.trans (h₅.trans ((of_questionsAdded hadded).trans h₇))

end Leaves

namespace Alters

variable [Platform] {quizId userId : UUID} {d : Database} {w : World} {held : LoadedQuiz}
    {q : Point Database World}

lemma of_parts (hothers : ∀ other, other ≠ quizId → SameQuiz other d.toRows q.seen.toRows)
    (hkept : ∀ quiz, d.quizzes.get? quizId = some quiz → quiz.creatorId = userId)
    (hnew : ∃ new, q.seen.quizzes.get? quizId = some new ∧ new.creatorId = userId)
    (hedits : Edits ⟨d, d, w⟩ q) (hleaves : Leaves quizId ⟨d, d, w⟩ q) :
    Alters userId quizId d.toRows q.seen.toRows := by
  obtain ⟨new, hnew, howner⟩ := hnew
  refine ⟨hothers, fun quiz hquiz => ⟨hkept quiz hquiz, new, hnew⟩, fun quiz hquiz => ?_,
    hleaves.favorites, hedits.sessions, hedits.players, hedits.records, fun a ha hquestions => ?_⟩
  · rw [hnew] at hquiz
    obtain rfl := Option.some.inj hquiz
    exact howner
  · obtain ⟨r, hr, hid⟩ := List.mem_map.mp (d.intact.record_question a ha _ rfl)
    exact hleaves.records a ha r hr hid (hquestions r hr hid)

lemma newQuiz {data : QuizCreate} (h : Yields (Relational.newQuiz userId data) ⟨d, d, w⟩ held q) :
    Alters userId held.quiz.quizId d.toRows q.seen.toRows := by
  obtain ⟨s, t, hassembled⟩ := assembled_of_yields h
  obtain ⟨now, hfields⟩ := hassembled.fields
  refine of_parts (fun other => hassembled.others) (fun quiz hquiz => ?_)
    ⟨held.quiz, hassembled.created.get?, by rw [hfields]⟩ (within_newQuiz data _ _ _ h)
      (Leaves.newQuiz h)
  exact (hassembled.fresh (Table.key_get? hquiz ▸ Table.key_mem_keys (Table.mem_get? hquiz))).elim

lemma editQuiz {data : QuizUpdate}
    (h : Yields (Relational.editQuiz quizId userId data) ⟨d, d, w⟩ held q) :
    Alters userId quizId d.toRows q.seen.toRows := by
  have hedited := edited_of_yields h
  obtain ⟨old, now, hold, howner, hfields⟩ := hedited.fields
  refine of_parts hedited.updated.others (fun quiz hquiz => ?_) ⟨held.quiz, hedited.row, ?_⟩
    (within_editQuiz data _ _ _ h)
    (Leaves.editQuiz h)
  · rw [hold] at hquiz
    exact Option.some.inj hquiz ▸ howner
  · rw [hfields]
    exact howner

lemma changeStatus {status : QuizStatus}
    (h : Yields (Relational.changeStatus quizId status userId) ⟨d, d, w⟩ held q) :
    Alters userId quizId d.toRows q.seen.toRows := by
  obtain ⟨old, hold, howner, -, hupdated, -⟩ := Alike.changed_of_yields h
  refine of_parts (fun other hother => ⟨?_, Rows.questionsOf_congr hupdated.questions _,
    fun r _ => Rows.answersOf_congr hupdated.answers _, Rows.tagsOf_congr hupdated.quizTags _⟩)
    (fun quiz hquiz => ?_)
    ⟨QuizSet.apply { status := some status, updatedAt := some w.now } old, ?_, howner⟩
      (within_changeStatus status _ _ _ h)
    (.of_updated hupdated)
  · rw [hupdated.quizzes, Table.get?_modify_of_ne _ _ _ hother]
  · rw [hold] at hquiz
    exact Option.some.inj hquiz ▸ howner
  · rw [hupdated.quizzes, Table.get?_modify_self, hold]
    rfl

end Alters

structure Toggled (userId quizId : UUID) (d e : Rows) : Prop where
  rows : e = { d with favorites := e.favorites }
  flipped : ⟨userId, quizId⟩ ∈ e.favorites.rows ↔ ⟨userId, quizId⟩ ∉ d.favorites.rows
  others : ∀ f : QuizFavorite, f ≠ ⟨userId, quizId⟩ → (f ∈ e.favorites.rows ↔ f ∈ d.favorites.rows)

section Favorites

variable {userId quizId : UUID} {d : Database} {w : World} {quiz : Quiz}

lemma serve_toggleFavorite_of_foreign (h : (d.quizzes.get? quizId).all (·.creatorId ≠ userId)) :
    serve (toggleFavorite quizId userId) d w = (.ok none, d, w) := by
  have halone : (toggleFavorite quizId userId).alone View.exec ⟨d, .ok d, w⟩ =
      (.ok none, ⟨d, .ok d, w⟩) := by
    refine (alone_perform_bind (a := d.quizzes.get? quizId) rfl).trans ?_
    rw [if_pos h]
    rfl
  rw [serve_eq, halone]

lemma toggle_written {write : Write} {e : Database} (hwrite : write d = .ok e)
    (out : Option FavoriteActionResponse) :
    (execute write >>= fun _ => commit >>= fun _ => pure out : Handler
      (Option FavoriteActionResponse)).alone View.exec
      ⟨d, .ok d, w⟩ = (.ok out, ⟨e, .ok e, w⟩) := by
  have hwritten : (execute write : Handler Unit).alone View.exec ⟨d, .ok d, w⟩ =
      (.ok (), ⟨d, .ok e, w⟩) := by
    rw [alone_perform, View.exec, Except.bind, hwrite]
  exact alone_bind_ok hwritten

lemma serve_toggleFavorite_of_owner (hquiz : d.quizzes.get? quizId = some quiz)
    (howner : quiz.creatorId = userId) :
    ∃ e : Database, serve (toggleFavorite quizId userId) d w =
      (.ok (some ⟨quizId, decide (⟨userId, quizId⟩ ∉ d.favorites.rows)⟩), e, w) ∧
      Toggled userId quizId d.toRows e.toRows := by
  have hforeign : ¬(d.quizzes.get? quizId).all (·.creatorId ≠ userId) := by simp [hquiz, howner]
  have hfound : (d.favorites.get? ⟨userId, quizId⟩).isSome = decide
      (⟨userId, quizId⟩ ∈ d.favorites.rows) := by
    rw [Bool.eq_iff_iff, Table.isSome_get?, decide_eq_true_eq, Table.keys, List.map_id]
  suffices hwrite : ∃ e : Database, (if (d.favorites.get? ⟨userId, quizId⟩).isSome then
      Sql.deleteFavorites (fun f => f.userId = userId ∧ f.quizId = quizId) else Sql.insertFavorite
        ⟨userId, quizId⟩) d =
        .ok e ∧ Toggled userId quizId d.toRows e.toRows by
    obtain ⟨e, he, htoggled⟩ := hwrite
    refine ⟨e, ?_, htoggled⟩
    have halone : (toggleFavorite quizId userId).alone View.exec ⟨d, .ok d, w⟩ =
        (.ok (some ⟨quizId, decide (⟨userId, quizId⟩ ∉ d.favorites.rows)⟩), ⟨e, .ok e, w⟩) := by
      refine (alone_perform_bind (a := d.quizzes.get? quizId) rfl).trans ?_
      rw [if_neg hforeign]
      refine (alone_perform_bind (a := (d.favorites.get? ⟨userId, quizId⟩).isSome) rfl).trans ?_
      rw [decide_not, ← hfound]
      split_ifs at he ⊢ <;> exact toggle_written he _
    rw [serve_eq, halone]
  rw [hfound]
  by_cases hfav : ⟨userId, quizId⟩ ∈ d.favorites.rows
  · rw [if_pos (decide_eq_true hfav)]
    refine ⟨_, rfl, rfl, ?_, fun f hf => ?_⟩
    · simp [hfav]
    · refine List.mem_filter.trans ((and_iff_left_iff_imp).mpr fun _ => ?_)
      rw [Bool.not_eq_true', decide_eq_false_iff_not]
      rintro ⟨rfl, rfl⟩
      exact hf rfl
  · rw [if_neg (by simpa using hfav)]
    have hadmitted : (⟨userId, quizId⟩ : QuizFavorite) ∉ d.favorites.keys ∧ userId ∈ d.users.keys ∧
        quizId ∈ d.quizzes.keys := by
      refine ⟨by rwa [Table.keys, List.map_id], ?_, ?_⟩
      · exact howner ▸ d.intact.quiz_creator quiz (Table.mem_get? hquiz) _ rfl
      · exact Table.key_get? hquiz ▸ Table.key_mem_keys (Table.mem_get? hquiz)
    refine ⟨_, dif_pos hadmitted, rfl, ?_, fun f hf => ?_⟩
    · simp [hfav, Table.add]
    · simp [hf, Table.add]

lemma Toggled.spares {d e : Rows} (h : Toggled userId quizId d e) : Spares userId d e := by
  have hkept : KeepsQuizzes d e := by refine ⟨?_, ?_, ?_, ?_⟩ <;> rw [h.rows]
  refine ⟨fun quiz _ _ => hkept.same quiz.quizId, fun quiz hquiz _ => hkept.quizzes ▸ hquiz,
    fun f hf => ?_, fun g _ => ?_,
    fun g _ _ p _ => ?_, fun g _ _ p _ _ a _ => ?_⟩
  · exact h.others f fun heq => hf (heq ▸ rfl)
  · rw [h.rows]
  · rw [h.rows]
  · rw [h.rows]

lemma Toggled.owned {d e : Rows} (h : Toggled userId quizId d e)
    (hquiz : d.quizzes.get? quizId = some quiz) (howner : quiz.creatorId = userId)
    (howned : Owned d) : Owned e := by
  refine ⟨fun f hf => ?_, fun g hg => ?_⟩
  · rw [h.rows]
    by_cases heq : f = ⟨userId, quizId⟩
    · exact heq ▸ ⟨quiz, hquiz, howner⟩
    · exact howned.favorites f ((h.others f heq).mp hf)
  · rw [h.rows] at hg ⊢
    exact howned.sessions g hg

end Favorites

lemma Spares.refl (userId : UUID) (d : Rows) : Spares userId d d :=
  ⟨fun _ _ _ => ⟨rfl, rfl, fun _ _ => rfl, rfl⟩, fun _ h _ => h, fun _ _ => .rfl, fun _ _ => .rfl,
    fun _ _ _ _ _ => .rfl,
    fun _ _ _ _ _ _ _ _ => .rfl⟩

section Requests

variable [Platform] {d : Database} {w : World}

lemma confined_commitQuiz {x : Handler LoadedQuiz} {userId : UUID} (hsited : d.Sited)
    (howned : Owned d.toRows) (hx : Uncommitted x)
    (hfound : ∀ held q, Yields x ⟨d, d, w⟩ held q → (q.seen.quizzes.get? held.quiz.quizId).isSome)
    (halters : ∀ held q, Yields x ⟨d, d, w⟩ held q → ∃ quizId, Alters userId quizId d.toRows
      q.seen.toRows) :
    Spares userId d.toRows (serve (x >>= commitQuiz) d w).2.1.toRows ∧
      Owned (serve (x >>= commitQuiz) d w).2.1.toRows := by
  rcases serve_commitQuiz hx hfound with ⟨e, w', -, hrun⟩ | ⟨held, q, -, hyields, hrun⟩
  · rw [hrun]
    exact ⟨.refl _ _, howned⟩
  · rw [hrun]
    obtain ⟨quizId, h⟩ := halters held q hyields
    exact ⟨h.spares hsited howned, h.owned howned⟩

lemma confined_request (hsited : d.Sited) (howned : Owned d.toRows) (r : Request) :
    Spares r.user d.toRows (r.run d w).1.toRows ∧ Owned (r.run d w).1.toRows := by
  cases r with
  | createQuiz userId data =>
    exact confined_commitQuiz hsited howned (uncommitted_newQuiz data) found_of_newQuiz
      fun held q h => ⟨held.quiz.quizId, .newQuiz h⟩
  | updateQuiz quizId userId data =>
    exact confined_commitQuiz hsited howned (uncommitted_editQuiz data) found_of_editQuiz
      fun held q h => ⟨quizId, .editQuiz h⟩
  | setQuizStatus quizId newStatus userId =>
    exact confined_commitQuiz hsited howned (Alike.uncommitted_changeStatus newStatus)
      Alike.found_of_changeStatus
      fun held q h => ⟨quizId, .changeStatus h⟩
  | deleteQuiz quizId userId =>
    change Spares userId d.toRows (serve (deleteQuiz quizId userId) d w).2.1.toRows ∧
      Owned (serve (deleteQuiz quizId userId) d w).2.1.toRows
    rcases serve_deleteQuiz quizId userId d w with ⟨err, w', -, hrun⟩ | ⟨quiz, hquiz, howner⟩
    · rw [hrun]
      exact ⟨.refl _ _, howned⟩
    · obtain ⟨e, hrun, hdeleted⟩ := serve_deleteQuiz_of_owner (w := w) hquiz howner hsited
      rw [hrun]
      exact ⟨hdeleted.spares hquiz howner howned, hdeleted.owned howned⟩
  | toggleFavorite quizId userId =>
    change Spares userId d.toRows (serve (toggleFavorite quizId userId) d w).2.1.toRows ∧
      Owned (serve (toggleFavorite quizId userId) d w).2.1.toRows
    by_cases hforeign : (d.quizzes.get? quizId).all (·.creatorId ≠ userId)
    · rw [serve_toggleFavorite_of_foreign hforeign]
      exact ⟨.refl _ _, howned⟩
    · obtain ⟨quiz, hquiz, howner⟩ : ∃ quiz, d.quizzes.get? quizId = some quiz ∧
          quiz.creatorId = userId := by
        cases hquiz : d.quizzes.get? quizId with
        | none => simp [hquiz] at hforeign
        | some quiz => exact ⟨quiz, rfl, by simpa [hquiz] using hforeign⟩
      obtain ⟨e, hrun, htoggled⟩ := serve_toggleFavorite_of_owner (w := w) hquiz howner
      rw [hrun]
      exact ⟨htoggled.spares, htoggled.owned hquiz howner howned⟩

end Requests

end Askit.Relational

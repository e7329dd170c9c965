import Askit.Relational.LikeRuns

/-! A user cannot tell what is in the quizzes of others: two runs of the user's requests. -/

namespace Askit.Relational

open Interleaving Coro Tables
open Game (UUID Time Runtime)
open Auth (User)
open Quizzes (Platform QuizStatus QuizAnswerCreate QuizQuestionCreate QuizCreate QuizUpdate
  QuizOut QuizExportOut
  NewQuestion Exn TagName newQuestions)

section Runs

variable [Platform]

section Deletion

variable {userId quizId : UUID} {w : World} {d e : Database}

lemma serve_deleteQuiz_of_missing (h : d.quizzes.get? quizId = none) :
    serve (deleteQuiz quizId userId) d w = (.error .quizNotFoundError, d, w) := by
  have halone : (deleteQuiz quizId userId).alone View.exec ⟨d, .ok d, w⟩ =
      (.error .quizNotFoundError, ⟨d, .ok d, w⟩) := by
    refine alone_bind_error ?_
    refine (alone_perform_bind (a := (d.quizzes.get? quizId).map fun q =>
      (q, (Platform.arrange (d.questionsOf quizId)).insertionSort fun a b =>
        a.position ≤ b.position)) rfl).trans ?_
    rw [h]
    rfl
  rw [serve_eq, halone]

lemma serve_deleteQuiz_of_foreign {quiz : Quiz} (hquiz : d.quizzes.get? quizId = some quiz)
    (hforeign : quiz.creatorId ≠ userId) :
    serve (deleteQuiz quizId userId) d w = (.error .quizAccessDeniedError, d, w) := by
  have halone : (deleteQuiz quizId userId).alone View.exec ⟨d, .ok d, w⟩ =
      (.error .quizAccessDeniedError, ⟨d, .ok d, w⟩) := by
    refine alone_bind_error ?_
    refine (alone_perform_bind (a := (d.quizzes.get? quizId).map fun q =>
      (q, (Platform.arrange (d.questionsOf quizId)).insertionSort fun a b =>
        a.position ≤ b.position)) rfl).trans ?_
    rw [hquiz]
    dsimp only [Option.map_some]
    rw [require, if_neg hforeign]
    rfl
  rw [serve_eq, halone]

omit [Platform] in
lemma Like.deleted {d' e' : Rows} (h : Like userId d.toRows e.toRows)
    (hd : Deleted quizId d.toRows d') (he : Deleted quizId e.toRows e') : Like userId d' e' where
  user := by rw [hd.users, he.users, h.user]
  ids k := by
    have hkeys {f f' : Rows} (hf : Deleted quizId f f') : k ∈ f'.quizzes.keys ↔ k ∈ f.quizzes.keys ∧
        k ≠ quizId := by
      simp only [Table.keys, hf.quizzes, List.mem_map, List.mem_filter, decide_eq_true_eq]
      constructor
      · rintro ⟨q, ⟨hq, hne⟩, rfl⟩
        exact ⟨⟨q, hq, rfl⟩, hne⟩
      · rintro ⟨⟨q, hq, rfl⟩, hne⟩
        exact ⟨q, ⟨hq, hne⟩, rfl⟩
    rw [hkeys hd, hkeys he, h.ids]
  listed := by rw [hd.quizzes, he.quizzes, List.filter_comm, h.listed, List.filter_comm]
  own quiz hquiz howner := by
    rw [hd.quizzes, List.mem_filter, decide_eq_true_eq] at hquiz
    exact (hd.same hquiz.2).symm.trans ((h.own quiz hquiz.1 howner).trans (he.same hquiz.2))
  favorites := by rw [hd.favorites, he.favorites, List.filter_comm, h.favorites, List.filter_comm]

end Deletion

namespace Site

variable {s t : Site} {userId : UUID}

def AnswersAlike (userId : UUID) (c : Endpoint) (s t : Site) : Prop :=
  (t.call userId c).1 = (s.call userId c).1 ∧ (t.call userId c).2.world =
    (s.call userId c).2.world ∧
    Like userId (s.call userId c).2.db.toRows (t.call userId c).2.db.toRows

lemma answersAlike_of_twin {c : Endpoint} {P : World → Database → Database → Prop}
    (h : Twin (Base userId) P (fun _ => Base userId) (c.handle userId) (c.handle userId))
    (hworld : t.world = s.world) (hbase : Base userId s.world s.db t.db)
    (hP : P s.world s.db t.db) :
    AnswersAlike userId c s t := by
  obtain ⟨hresponse, hnext, hcommitted⟩ := h.serve hbase hP
  refine ⟨?_, ?_, ?_⟩
  · rw [call, call, hworld]
    exact hresponse.symm
  · rw [call, call, hworld]
    exact hnext
  · rw [call, call, hworld]
    exact hcommitted.like

lemma Reachable.base (hs : s.Reachable) (ht : t.Reachable) (hworld : t.world = s.world)
    (hlike : Like userId s.db.toRows t.db.toRows) : Base userId s.world s.db t.db :=
  ⟨hlike, ⟨hs.inv.quizzes, hs.inv.questions, hs.inv.answers⟩,
    hworld ▸ ⟨ht.inv.quizzes, ht.inv.questions, ht.inv.answers⟩,
    List.forall_mem_nil _, List.forall_mem_nil _, List.forall_mem_nil _⟩

lemma answersAlike_deleteQuiz (hs : s.Reachable) (ht : t.Reachable) (hworld : t.world = s.world)
    (hlike : Like userId s.db.toRows t.db.toRows) (quizId : UUID) :
    AnswersAlike userId (.deleteQuiz quizId) s t := by
  have hcall {u : Site} {r : Except Exn Unit} {e : Database}
    (h : serve (deleteQuiz quizId userId) u.db u.world = (r, e, u.world)) :
      u.call userId (.deleteQuiz quizId) = (r.map fun _ => .noContent, { u with db := e }) := by
    have hrun := serve_bind_pure (deleteQuiz quizId userId)
      (fun _ => Response.noContent) u.db u.world
    rw [h] at hrun
    change serve ((Endpoint.deleteQuiz quizId).handle userId) u.db u.world = _ at hrun
    rw [call, hrun]
  cases hquiz : s.db.quizzes.get? quizId with
  | none =>
    have hquiz' : t.db.quizzes.get? quizId = none :=
      Table.get?_eq_none.mpr fun hmem => Table.get?_eq_none.mp hquiz ((hlike.ids quizId).mp hmem)
    rw [AnswersAlike, hcall (serve_deleteQuiz_of_missing hquiz),
      hcall (serve_deleteQuiz_of_missing hquiz')]
    exact ⟨rfl, hworld, hlike⟩
  | some quiz =>
    by_cases howner : quiz.creatorId = userId
    · obtain ⟨d, hd, hdeleted⟩ := serve_deleteQuiz_of_owner (w := s.world) hquiz howner hs.inv.sited
      obtain ⟨e, he, hdeleted'⟩ := serve_deleteQuiz_of_owner (w := t.world)
        (hlike.get?_own hquiz howner) howner ht.inv.sited
      rw [AnswersAlike, hcall hd, hcall he]
      exact ⟨rfl, hworld, hlike.deleted hdeleted hdeleted'⟩
    · obtain ⟨quiz', hquiz'⟩ : ∃ quiz', t.db.quizzes.get? quizId = some quiz' := by
        rw [← Option.isSome_iff_exists, Table.isSome_get?, hlike.ids, ← Table.isSome_get?, hquiz]
        rfl
      have howner' : quiz'.creatorId ≠ userId := by
        intro heq
        have hback := hlike.symm.get?_own hquiz' heq
        rw [hquiz, Option.some.injEq] at hback
        exact howner (hback ▸ heq)
      rw [AnswersAlike, hcall (serve_deleteQuiz_of_foreign hquiz howner),
        hcall (serve_deleteQuiz_of_foreign hquiz' howner')]
      exact ⟨rfl, hworld, hlike⟩

lemma answersAlike (hs : s.Reachable) (ht : t.Reachable) (hworld : t.world = s.world)
    (hlike : Like userId s.db.toRows t.db.toRows) (c : Endpoint) : AnswersAlike userId c s t := by
  have hbase := hs.base ht hworld hlike
  have hcreate (body : QuizCreate) : Twin (Base userId) (Base userId) (fun _ => Base userId)
      (Relational.createQuiz userId body >>= fun quiz => pure (.quizOut quiz) : Handler Response)
      (Relational.createQuiz userId body >>= fun quiz => pure (.quizOut quiz)) :=
    .bind (.bind (twin_newQuiz body) fun held => twin_commitQuiz held) fun quiz =>
      .pure _ fun _ _ _ h => h
  cases c with
  | createQuiz body => exact answersAlike_of_twin (hcreate body) hworld hbase hbase
  | importQuiz body => exact answersAlike_of_twin (hcreate body) hworld hbase hbase
  | deleteQuiz quizId => exact answersAlike_deleteQuiz hs ht hworld hlike quizId
  | listFavorites =>
    exact answersAlike_of_twin (.bind twin_listFavorites fun quizzes => .pure _ fun _ _ _ h =>
      h) hworld hbase
      ⟨hbase, hs.owned⟩
  | listQuizzes =>
    exact answersAlike_of_twin (.bind twin_listQuizzes fun quizzes => .pure _ fun _ _ _ h => h)
      hworld hbase hbase
  | getQuiz quizId =>
    refine answersAlike_of_twin (.bind twin_getQuiz fun found => ?_) hworld hbase hbase
    cases found with
    | none => exact .throw _
    | some quiz => exact .pure _ fun _ _ _ h => h
  | updateQuiz quizId body =>
    exact answersAlike_of_twin (.bind (.bind (twin_editQuiz body) fun held =>
      twin_commitQuiz held) fun quiz =>
      .pure _ fun _ _ _ h => h) hworld hbase hbase
  | setQuizStatus quizId status =>
    exact answersAlike_of_twin (.bind (.bind (twin_changeStatus status) fun held =>
      twin_commitQuiz held) fun quiz =>
      .pure _ fun _ _ _ h => h) hworld hbase hbase
  | toggleFavorite quizId =>
    refine answersAlike_of_twin (.bind twin_toggleFavorite fun result => ?_) hworld hbase hbase
    cases result with
    | none => exact .throw _
    | some action => exact .pure _ fun _ _ _ h => h
  | exportQuiz quizId =>
    exact answersAlike_of_twin (.bind twin_exportQuiz fun quiz => .pure _ fun _ _ _ h => h)
      hworld hbase hbase

end Site

open Site

/-- Whatever a user asks the router for, the answers do not depend on what is in the quizzes of
others. -/
theorem calls_alike {s t : Site} {userId : UUID} (hs : s.Reachable) (ht : t.Reachable)
    (hworld : t.world = s.world) (hlike : Like userId s.db.toRows t.db.toRows)
    (cs : List Endpoint) :
    t.calls userId cs = s.calls userId cs := by
  induction cs generalizing s t with
  | nil => rfl
  | cons c cs ih =>
    obtain ⟨hresponse, hnext, hafter⟩ := answersAlike hs ht hworld hlike c
    rw [calls, calls, hresponse, ih (hs.call userId c) (ht.call userId c) hnext hafter]

end Runs

section

attribute [local instance] Platform.ascii

open Sample

namespace Sample

def withOceans : Site := both.after (.createQuiz grace.id oceans)

def withRivers : Site := both.after (.createQuiz grace.id rivers)

lemma like_member : Like member.id withOceans.db.toRows withRivers.db.toRows := by
  have hkeys : withRivers.db.quizzes.keys = withOceans.db.quizzes.keys := by decide +kernel
  refine ⟨by decide +kernel, fun k => by rw [hkeys], by decide +kernel, ?_, by decide +kernel⟩
  have hforeign : ∀ quiz ∈ withOceans.db.quizzes.rows, quiz.creatorId ≠ member.id := by
    decide +kernel
  exact fun quiz hquiz howner => absurd howner (hforeign quiz hquiz)

lemma same_world : withRivers.world = withOceans.world :=
  congrArg₂ World.mk (by decide +kernel : withRivers.world.draws = withOceans.world.draws)
    (by decide +kernel : withRivers.world.now = withOceans.world.now)

end Sample

theorem calls_alike_member : withRivers.calls member.id
      [.listQuizzes, .updateQuiz (Runtime.uuid4 2) ⟨none, none, some ["sea"], none, none⟩,
        .createQuiz oceans, .listQuizzes] =
    withOceans.calls member.id
      [.listQuizzes, .updateQuiz (Runtime.uuid4 2) ⟨none, none, some ["sea"], none, none⟩,
        .createQuiz oceans, .listQuizzes] :=
  calls_alike (.step both_reachable (.request _ _)) (.step both_reachable (.request _ _))
    same_world like_member _

end

end Askit.Relational

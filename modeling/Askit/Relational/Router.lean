import Askit.Relational.Ownership

/-! The endpoints of the quiz router, each with the database to itself. -/

namespace Askit.Relational

open Interleaving Coro Tables
open Game (UUID)
open Quizzes (Platform QuizStatus QuizCreate QuizUpdate QuizOut QuizExportOut Exn)

structure QuizListOut where
  items : List QuizOut
  total : ℕ
  deriving DecidableEq, Repr

inductive Response
  | quizOut (quiz : QuizOut)
  | quizListOut (quizzes : QuizListOut)
  | favoriteActionResponse (result : FavoriteActionResponse)
  | quizExportOut (quiz : QuizExportOut)
  | noContent

/-- The requests of a user to the router, but for those that ask for statistics. -/
inductive Endpoint
  | createQuiz (body : QuizCreate)
  | listQuizzes
  | getQuiz (quizId : UUID)
  | updateQuiz (quizId : UUID) (body : QuizUpdate)
  | deleteQuiz (quizId : UUID)
  | setQuizStatus (quizId : UUID) (status : QuizStatus)
  | listFavorites
  | toggleFavorite (quizId : UUID)
  | exportQuiz (quizId : UUID)
  | importQuiz (body : QuizCreate)

variable [Platform]

def listOut (quizzes : List QuizOut) : Response := .quizListOut ⟨quizzes, quizzes.length⟩

def Endpoint.handle (userId : UUID) : Endpoint → Handler Response
  | createQuiz body | importQuiz body => do
    let quiz ← Relational.createQuiz userId body
    pure (.quizOut quiz)
  | listQuizzes => do
    let quizzes ← Relational.listQuizzes userId
    pure (listOut quizzes)
  | getQuiz quizId => do
    let some quiz ← Relational.getQuiz quizId (some userId) | throw .quizNotFoundError
    pure (.quizOut quiz)
  | updateQuiz quizId body => do
    let quiz ← Relational.updateQuiz quizId userId body
    pure (.quizOut quiz)
  | deleteQuiz quizId => do
    Relational.deleteQuiz quizId userId
    pure .noContent
  | setQuizStatus quizId status => do
    let quiz ← Relational.setQuizStatus quizId status userId
    pure (.quizOut quiz)
  | listFavorites => do
    let quizzes ← Relational.listFavorites userId
    pure (listOut quizzes)
  | toggleFavorite quizId => do
    let some result ← Relational.toggleFavorite quizId userId | throw .quizNotFoundError
    pure (.favoriteActionResponse result)
  | exportQuiz quizId => do
    let quiz ← Relational.exportQuiz quizId userId
    pure (.quizExportOut quiz)

namespace Site

/-- What the endpoint answers, and the site after it. -/
def call (s : Site) (userId : UUID) (c : Endpoint) : Except Exn Response × Site :=
  let r := serve (c.handle userId) s.db s.world
  (r.1, { s with db := r.2.1, world := r.2.2 })

def calls (userId : UUID) : List Endpoint → Site → List (Except Exn Response)
  | [], _ => []
  | c :: cs, s => (s.call userId c).1 :: calls userId cs (s.call userId c).2

variable {s : Site}

lemma reads_exportQuiz (quizId userId : UUID) : Reads (exportQuiz quizId userId) := by
  refine .select_bind fun found => ?_
  cases found with
  | none => exact .done _
  | some quiz =>
    dsimp only
    rw [require]
    split
    · cases quiz.quiz.maxParticipants <;> exact .done _
    · exact .done _

lemma reads_getQuiz (quizId : UUID) (owner : Option UUID) : Reads (getQuiz quizId owner) := by
  refine .select_bind fun found => ?_
  cases found with
  | none => exact .done _
  | some quiz =>
    dsimp only
    split_ifs
    · exact .done _
    · cases owner with
      | none => exact .done _
      | some userId => exact .select_bind fun isFav => .done _

lemma call_cases (s : Site) (userId : UUID) (c : Endpoint) :
    (∃ r : Request, r.user = userId ∧ (s.call userId c).2 = s.after r) ∨
    (s.call userId c).2 = s := by
  have hwrites (r : Request) (huser : r.user = userId)
    (hrun : (serve (c.handle userId) s.db s.world).2 = r.run s.db s.world) :
      (∃ r : Request, r.user = userId ∧ (s.call userId c).2 = s.after r) ∨
        (s.call userId c).2 = s := by
    refine .inl ⟨r, huser, ?_⟩
    rw [call, after, ← hrun]
  have hreads (hrun : (serve (c.handle userId) s.db s.world).2 = (s.db, s.world)) :
      (∃ r : Request, r.user = userId ∧ (s.call userId c).2 = s.after r) ∨
        (s.call userId c).2 = s := by
    refine .inr ?_
    rw [call, hrun]
  cases c with
  | createQuiz body => exact hwrites (.createQuiz userId body) rfl (serve_bind_done _
      (fun a => ⟨_, rfl⟩) _ _)
  | importQuiz body => exact hwrites (.createQuiz userId body) rfl (serve_bind_done _
      (fun a => ⟨_, rfl⟩) _ _)
  | updateQuiz quizId body =>
    exact hwrites (.updateQuiz quizId userId body) rfl (serve_bind_done _ (fun a => ⟨_, rfl⟩) _ _)
  | deleteQuiz quizId => exact hwrites (.deleteQuiz quizId userId) rfl (serve_bind_done _
      (fun a => ⟨_, rfl⟩) _ _)
  | setQuizStatus quizId status =>
    exact hwrites (.setQuizStatus quizId status userId) rfl
      (serve_bind_done _ (fun a => ⟨_, rfl⟩) _ _)
  | toggleFavorite quizId =>
    exact hwrites (.toggleFavorite quizId userId) rfl
      (serve_bind_done _ (fun a => by cases a <;> exact ⟨_, rfl⟩) _ _)
  | getQuiz quizId =>
    exact hreads ((serve_bind_done _ (fun a => by cases a <;> exact ⟨_, rfl⟩) _ _).trans
      ((reads_getQuiz _ _).serve _ _))
  | listQuizzes =>
    exact hreads ((serve_bind_done _ (fun a => ⟨_, rfl⟩) _ _).trans
      (Reads.serve (.select_bind fun _ => .select_bind fun _ => .done _) _ _))
  | listFavorites =>
    exact hreads ((serve_bind_done _ (fun a => ⟨_, rfl⟩) _ _).trans
      (Reads.serve (.select_bind fun _ => .done _) _ _))
  | exportQuiz quizId =>
    exact hreads ((serve_bind_done _ (fun a => ⟨_, rfl⟩) _ _).trans
      ((reads_exportQuiz _ _).serve _ _))

lemma Reachable.call (h : s.Reachable) (userId : UUID) (c : Endpoint) :
    (s.call userId c).2.Reachable := by
  rcases s.call_cases userId c with ⟨r, -, hr⟩ | hsame
  · rw [hr]
    exact .step h (.request s r)
  · rwa [hsame]

end Site

end Askit.Relational

import Askit.Quizzes.Services

/-! The quiz service as a machine: requests of any number of users, interleaved at every
statement. -/

namespace Askit.Quizzes

open Interleaving Coro
open Game (UUID Time Runtime)

/-- A request of an authenticated user, whose body its schema has let through. -/
inductive Call
  | createQuiz (userId : UUID) (data : QuizCreate)
  | updateQuiz (quizId userId : UUID) (data : QuizUpdate)
  | setQuizStatus (quizId : UUID) (newStatus : QuizStatus) (userId : UUID)

variable [Platform]

def code : Call → Handler QuizOut
  | .createQuiz userId data => createQuiz userId data
  | .updateQuiz quizId userId data => updateQuiz quizId userId data
  | .setQuizStatus quizId newStatus userId => setQuizStatus quizId newStatus userId

/-- The environment sets the clock. -/
def system : Machine Op Exn QuizOut where
  State := State
  Call := Call
  Env := Time
  exec := exec
  ready _ _ := true
  code := code
  enter _ s := some s
  env now s := { s with now := now }

end Askit.Quizzes

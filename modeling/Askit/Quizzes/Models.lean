import Askit.Game.Models
import Askit.Quizzes.Platform

/-! The rows of the quiz tables. -/

namespace Askit.Quizzes

open Game (UUID Time Runtime)

inductive QuizStatus
  | draft
  | published
  deriving DecidableEq, Repr

inductive QuizVisibility
  | private_
  | public_
  deriving DecidableEq, Repr

structure QuizAnswer where
  answerId : UUID
  text : String
  isCorrect : Bool
  deriving DecidableEq, Repr

structure QuizQuestion where
  questionId : UUID
  quizId : UUID
  text : String
  position : ℕ
  timeLimit : ℤ
  allowMultipleAnswers : Bool
  answers : List QuizAnswer
  deriving DecidableEq, Repr

/-- `tags` holds the names of the tags that `quiz_tags` associates with the quiz. -/
structure Quiz where
  quizId : UUID
  creatorId : UUID
  title : String
  description : Option String
  defaultTimePerQuestion : ℤ
  visibility : QuizVisibility
  status : QuizStatus
  maxParticipants : Option ℤ
  createdAt : Time
  updatedAt : Time
  tags : List String
  deriving DecidableEq, Repr

/-- A quiz as `_fetch_quiz` loads it, with its questions in the order of their positions. -/
structure LoadedQuiz where
  quiz : Quiz
  questions : List QuizQuestion
  deriving DecidableEq, Repr

end Askit.Quizzes

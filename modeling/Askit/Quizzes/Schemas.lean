import Askit.Quizzes.Models

/-! The bodies of quiz requests, once validated, and the responses. -/

namespace Askit.Quizzes

open Game (UUID Time Runtime)

structure QuizAnswerCreate where
  text : String
  isCorrect : Bool
  deriving DecidableEq, Repr

structure QuizQuestionCreate where
  text : String
  timeLimit : ℤ
  allowMultipleAnswers : Bool
  answers : List QuizAnswerCreate
  deriving DecidableEq, Repr

structure QuizSettingsCreate where
  defaultTimePerQuestion : ℤ
  visibility : QuizVisibility
  maxParticipants : ℤ
  deriving DecidableEq, Repr

structure QuizCreate where
  title : String
  description : Option String
  tags : List String
  settings : QuizSettingsCreate
  questions : List QuizQuestionCreate
  deriving DecidableEq, Repr

structure QuizUpdate where
  title : Option String
  description : Option String
  tags : Option (List String)
  settings : Option QuizSettingsCreate
  questions : Option (List QuizQuestionCreate)
  deriving DecidableEq, Repr

structure QuizSettingsOut where
  defaultTimePerQuestion : ℤ
  visibility : QuizVisibility
  maxParticipants : ℤ
  deriving DecidableEq, Repr

structure QuizQuestionOut where
  questionId : UUID
  text : String
  position : ℕ
  timeLimit : ℤ
  allowMultipleAnswers : Bool
  answers : List QuizAnswer
  deriving DecidableEq, Repr

structure QuizOut where
  quizId : UUID
  creatorId : UUID
  title : String
  description : Option String
  tags : List String
  status : QuizStatus
  settings : QuizSettingsOut
  questions : List QuizQuestionOut
  estimatedTime : ℤ
  createdAt : Time
  updatedAt : Time
  isFavorited : Bool
  deriving DecidableEq, Repr

inductive Exn
  | quizNotFoundError
  | quizAccessDeniedError
  | invalidQuizDataError (message : String)
  | quizPublishedError
  | quizNotPlayableError
  | integrityError
  | dataError
  | staleDataError
  | validationError
  | failure
  deriving DecidableEq, Repr

end Askit.Quizzes

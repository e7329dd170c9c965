import Askit.Game.Models

/-! The messages of the game's WebSocket protocol. -/

namespace Askit.Game

structure PlayerInfo where
  playerId : UUID
  nickname : String
  score : ℤ
  isConnected : Bool
  deriving DecidableEq, Repr

structure WSAnswerOption where
  answerId : UUID
  text : String
  deriving DecidableEq, Repr

structure WSQuestion where
  questionIndex : ℕ
  totalQuestions : ℕ
  questionId : UUID
  text : String
  answers : List WSAnswerOption
  timeLimitMs : ℕ
  startedAt : Time
  allowMultipleAnswers : Bool
  deriving DecidableEq, Repr

structure WSAnswerResult where
  isCorrect : Bool
  correctAnswerIds : List UUID
  pointsEarned : ℤ
  timeTakenMs : ℤ
  deriving DecidableEq, Repr

structure WSLeaderboardEntry where
  rank : ℕ
  playerId : UUID
  nickname : String
  score : ℤ
  change : ℤ
  deriving DecidableEq, Repr

structure WSQuestionEnded where
  questionId : UUID
  correctAnswerIds : List UUID
  answerDistribution : List (UUID × ℕ)
  leaderboard : List WSLeaderboardEntry
  deriving DecidableEq, Repr

structure WSGameFinished where
  finalLeaderboard : List WSLeaderboardEntry
  totalQuestions : ℕ
  durationMs : ℤ
  publicResults : Bool
  deriving DecidableEq, Repr

structure WSHostAnswerUpdate where
  playerId : UUID
  nickname : String
  isCorrect : Bool
  answerIds : List String
  timeTakenMs : ℤ
  totalScore : ℤ
  deriving DecidableEq, Repr

structure WSRoomState where
  sessionId : UUID
  roomCode : String
  status : GameSessionStatus
  hostId : UUID
  players : List PlayerInfo
  quizTitle : String
  totalQuestions : ℕ
  currentQuestionIndex : ℕ
  currentQuestion : Option WSQuestion
  hostAnswerDetails : List WSHostAnswerUpdate
  questionEnded : Option WSQuestionEnded
  deriving DecidableEq, Repr

inductive Frame
  | error (code message : String)
  | roomState (payload : WSRoomState)
  | playerJoined (player : PlayerInfo)
  | playerLeft (playerId : UUID) (nickname : String)
  | gameStarting (countdownMs totalQuestions : ℕ)
  | question (payload : WSQuestion)
  | answerResult (payload : WSAnswerResult)
  | playerAnswered (playerId : UUID)
  | questionEnded (payload : WSQuestionEnded)
  | gameFinished (payload : WSGameFinished)
  | hostAnswerUpdate (payload : WSHostAnswerUpdate)
  deriving DecidableEq, Repr

/-- Client to server; `malformed` is whatever the message adapter does not validate. -/
inductive ClientMessage
  | startGame
  | nextQuestion
  | answer (questionId : String) (answerIds : List String)
  | malformed
  deriving DecidableEq, Repr

/-- What the handlers raise; `failure` is any other exception of a call that failed. -/
inductive Exn
  | roomNotFoundError
  | roomFullError
  | gameAlreadyStartedError
  | notHostError
  | nicknameAlreadyTakenError
  | questionNotActiveError
  | hostCannotJoinError
  | alreadyAnsweredError
  | validationError
  | integrityError
  | failure
  deriving DecidableEq, Repr

def Exn.errorCode : Exn → String
  | .roomNotFoundError => "ROOM_NOT_FOUND"
  | .roomFullError => "ROOM_FULL"
  | .gameAlreadyStartedError => "GAME_ALREADY_STARTED"
  | .notHostError => "NOT_HOST"
  | .nicknameAlreadyTakenError => "NICKNAME_ALREADY_TAKEN"
  | .questionNotActiveError => "QUESTION_NOT_ACTIVE"
  | .hostCannotJoinError => "HOST_CANNOT_JOIN"
  | .alreadyAnsweredError => "ALREADY_ANSWERED"
  | .validationError | .integrityError | .failure => ""

def Exn.message : Exn → String
  | .roomNotFoundError => "Game room not found"
  | .roomFullError => "Game room is full"
  | .gameAlreadyStartedError => "Game has already started"
  | .notHostError => "Only the host can perform this action"
  | .nicknameAlreadyTakenError => "This nickname is already taken in this room"
  | .questionNotActiveError => "No question is currently active"
  | .hostCannotJoinError => "You cannot join your own game as a player"
  | .alreadyAnsweredError => "You have already answered this question"
  | .validationError | .integrityError | .failure => ""

end Askit.Game

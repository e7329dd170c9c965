import Askit.Game.Runtime
import Mathlib.Data.List.Sort

/-! The rows of the game tables and of the quizzes they refer to. -/

namespace Askit.Game

inductive GameSessionStatus
  | waiting
  | starting
  | question
  | revealing
  | finished
  deriving DecidableEq, Repr

structure QuizAnswer where
  answerId : UUID
  text : String
  isCorrect : Bool
  deriving DecidableEq, Repr

structure QuizQuestion where
  questionId : UUID
  text : String
  position : ℕ
  timeLimit : ℕ
  allowMultipleAnswers : Bool
  answers : List QuizAnswer
  deriving DecidableEq, Repr

structure Quiz where
  quizId : UUID
  title : String
  maxParticipants : Option ℕ
  questions : List QuizQuestion
  deriving DecidableEq, Repr

structure GameSession where
  sessionId : UUID
  roomCode : String
  quizId : UUID
  hostId : UUID
  randomizeQuestions : Bool
  randomizeAnswers : Bool
  showImmediateFeedback : Bool
  publicResults : Bool
  status : GameSessionStatus
  currentQuestionIndex : ℕ
  startedAt : Option Time
  endedAt : Option Time
  deriving DecidableEq, Repr

structure GamePlayer where
  playerId : UUID
  sessionId : UUID
  nickname : String
  userId : Option UUID
  score : ℤ
  isConnected : Bool
  deriving DecidableEq, Repr

structure GamePlayerAnswer where
  playerId : UUID
  questionId : UUID
  selectedAnswerIds : List String
  isCorrect : Bool
  timeTakenMs : ℤ
  pointsEarned : ℤ
  deriving DecidableEq, Repr

/-- The columns of `uq_player_question_answer`. -/
def GamePlayerAnswer.key (a : GamePlayerAnswer) : UUID × UUID := (a.playerId, a.questionId)

/-- A session as `get_room` loads it, with its players and its quiz. -/
structure Room where
  session : GameSession
  players : List GamePlayer
  quiz : Quiz
  deriving DecidableEq, Repr

/-- Python's stable sort by `position`, which is also the order of the relationship. -/
def sortByPosition (questions : List QuizQuestion) : List QuizQuestion :=
  questions.insertionSort fun a b => a.position ≤ b.position

def Quiz.loaded (q : Quiz) : Quiz := { q with questions := sortByPosition q.questions }

lemma sortByPosition_perm (questions : List QuizQuestion) :
    (sortByPosition questions).Perm questions :=
  List.perm_insertionSort _ questions

lemma sortByPosition_idem (questions : List QuizQuestion) :
    sortByPosition (sortByPosition questions) = sortByPosition questions := by
  apply List.Pairwise.insertionSort_eq
  apply List.pairwise_insertionSort

def sortByScore (players : List GamePlayer) : List GamePlayer :=
  players.insertionSort fun a b => b.score ≤ a.score

lemma sortByScore_perm (players : List GamePlayer) : (sortByScore players).Perm players :=
  List.perm_insertionSort _ players

end Askit.Game

import Askit.Game.Operations
import Mathlib.Data.Rat.Floor

/-! The game service. `get_room` reloads the instances that the ORM session already holds, so a
function that calls it hands the reloaded room back to a caller that keeps using its own. -/

namespace Askit.Game

open Interleaving Coro

def sessionKeyTtl : ℕ := 3600

def maxPointsPerQuestion : ℤ := 1000

def minPointsPerQuestion : ℤ := 100

def calculateScore (timeTakenMs timeLimitMs : ℤ) (isCorrect : Bool) : ℤ :=
  if isCorrect = false then 0
  else
    let timeFactor : ℚ := max 0 (1 - timeTakenMs / timeLimitMs)
    let speedBonus := ((maxPointsPerQuestion - minPointsPerQuestion : ℤ) * timeFactor).floor
    minPointsPerQuestion + speedBonus

def correctAnswerIds (question : QuizQuestion) : List UUID :=
  (question.answers.filter QuizAnswer.isCorrect).map QuizAnswer.answerId

def sameSet (xs ys : List String) : Bool := xs.all (· ∈ ys) && ys.all (· ∈ xs)

def Quiz.full (quiz : Quiz) (players : List GamePlayer) : Prop :=
  ∃ m ∈ quiz.maxParticipants, m ≠ 0 ∧ m ≤ players.length

instance (quiz : Quiz) (players : List GamePlayer) : Decidable (quiz.full players) :=
  inferInstanceAs (Decidable (∃ m ∈ quiz.maxParticipants, m ≠ 0 ∧ m ≤ players.length))

variable [Runtime]

def joinRoom (roomCode nickname : String) (user : Option UUID) : Handler GamePlayer := do
  let some room ← await (.getRoom roomCode) | throw .roomNotFoundError
  let session := room.session
  require (session.status = .waiting) .gameAlreadyStartedError
  require (user ≠ some session.hostId) .hostCannotJoinError
  require (¬room.quiz.full room.players) .roomFullError
  require (∀ p ∈ room.players, Runtime.lower p.nickname ≠ Runtime.lower nickname)
    .nicknameAlreadyTakenError
  let playerId ← await .uuid4
  let player : GamePlayer := ⟨playerId, session.sessionId, nickname, user, 0, true⟩
  await (.commit { newPlayer := some player })
  let refreshed ← await (.getPlayer playerId)
  pure (refreshed.getD player)

/-- The order that `start_game` fixes. -/
def questionOrder (room : Room) : Handler (List QuizQuestion) :=
  if room.session.randomizeQuestions then await (.shuffle room.quiz.questions)
  else pure (sortByPosition room.quiz.questions)

def startGame (roomCode : String) (hostId : UUID) : Handler (List QuizQuestion) := do
  let some room ← await (.getRoom roomCode) | throw .roomNotFoundError
  let session := room.session
  require (session.hostId = hostId) .notHostError
  require (session.status = .waiting) .gameAlreadyStartedError
  let questions ← questionOrder room
  let startedAt ← await .now
  await (.commit { session := some ⟨session,
    { session with status := .starting, startedAt := some startedAt }⟩ })
  await (.setQuestions roomCode (questions.map QuizQuestion.questionId) sessionKeyTtl)
  pure questions

def getCurrentQuestion (roomCode : String) : Handler (Option Room × Option QuizQuestion) := do
  let some room ← await (.getRoom roomCode) | pure (none, none)
  if room.session.currentQuestionIndex = 0 then pure (some room, none)
  else do
    let some questionIds ← await (.getQuestions roomCode) | pure (some room, none)
    let some questionId := questionIds[room.session.currentQuestionIndex - 1]?
      | pure (some room, none)
    let question ← await (.getQuestion questionId)
    pure (some room, question)

def advanceToQuestion (roomCode : String) (questionIndex : ℕ) : Handler (Option QuizQuestion) := do
  let some room ← await (.getRoom roomCode) | throw .roomNotFoundError
  let session := room.session
  let some questionIds ← await (.getQuestions roomCode) | pure none
  await (.expireQuestions roomCode sessionKeyTtl)
  if questionIds.length < questionIndex then do
    let endedAt ← await .now
    await (.commit { session := some ⟨session,
      { session with status := .finished, endedAt := some endedAt }⟩ })
    pure none
  else do
    await (.commit { session := some ⟨session,
      { session with status := .question, currentQuestionIndex := questionIndex }⟩ })
    let now ← await .now
    await (.setQuestionStart roomCode now 600)
    let some questionId := questionIds[questionIndex - 1]? | throw .failure
    await (.getQuestion questionId)

def timeTaken (question : QuizQuestion) : Option Time → Handler ℤ
  | some start => do
    let now ← await .now
    pure ((now - start).tdiv 1000)
  | none => pure question.timeLimit

/-- The commit of an answer; a violated constraint is reported as a duplicate. -/
def commitAnswer (player : Option GamePlayer) (record : GamePlayerAnswer) : Handler Unit :=
  tryCatch
    (await (.commit
      { player := player.map fun p => ⟨p, { p with score := p.score + record.pointsEarned }⟩
        newAnswer := some record }))
    fun e => if e = .integrityError then do
      await .rollback
      throw .alreadyAnsweredError
    else throw e

def submitAnswer (roomCode : String) (playerId : UUID) (questionId : String)
    (answerIds : List String) : Handler WSAnswerResult := do
  let some room ← await (.getRoom roomCode) | throw .roomNotFoundError
  let session := room.session
  require (session.status = .question) .questionNotActiveError
  let answered ← await (.sismemberAnswered roomCode session.currentQuestionIndex playerId)
  require (answered = false) .alreadyAnsweredError
  let some submittedQuestionId := Runtime.uuid questionId | throw .questionNotActiveError
  let (refreshed, question) ← getCurrentQuestion roomCode
  let some question := question | throw .questionNotActiveError
  require (question.questionId = submittedQuestionId) .questionNotActiveError
  let questionStart ← await (.getQuestionStart roomCode)
  let timeTakenMs ← timeTaken question questionStart
  let isCorrect := sameSet answerIds (correctAnswerIds question)
  let points := calculateScore timeTakenMs question.timeLimit isCorrect
  let row ← await (.getPlayer playerId)
  -- the instance loaded with the room is not refreshed by this select
  let loaded := (refreshed.getD room).players.find? fun p => p.playerId = playerId
  commitAnswer (row.map fun p => loaded.getD p)
    ⟨playerId, submittedQuestionId, answerIds, isCorrect, timeTakenMs, points⟩
  await (.saddAnswered roomCode session.currentQuestionIndex playerId)
  await (.expireAnswered roomCode session.currentQuestionIndex 600)
  await (.log (.answerSubmitted roomCode playerId isCorrect points))
  pure ⟨isCorrect, correctAnswerIds question, points, timeTakenMs⟩

def leaderboardEntries (prevRanking : List (UUID × ℕ)) (players : List GamePlayer) :
    List WSLeaderboardEntry :=
  players.mapIdx fun i p =>
    ⟨i + 1, p.playerId, p.nickname, p.score, ((prevRanking.lookup p.playerId).getD (i + 1) : ℕ)
      - (i + 1 : ℤ)⟩

def getLeaderboard (roomCode : String) : Handler (Option Room × List WSLeaderboardEntry) := do
  let some room ← await (.getRoom roomCode) | pure (none, [])
  let prevRanking ← await (.getPrevRanking roomCode)
  let entries := leaderboardEntries (prevRanking.getD []) (sortByScore room.players)
  await (.setPrevRanking roomCode (entries.map fun e => (e.playerId, e.rank)) sessionKeyTtl)
  pure (some room, entries)

def computeAnswerDistribution (sessionId : UUID) (question : QuizQuestion) :
    Handler (List (UUID × ℕ)) := do
  let rows ← await (.selectedAnswers sessionId question.questionId)
  pure (question.answers.map fun a => (a.answerId, rows.flatten.count a.answerId))

def clearRankingState (roomCode : String) : Handler Unit := await (.deletePrevRanking roomCode)

def questionStartedAt : Option Time → Handler Time
  | some start => pure start
  | none => await .now

def buildQuestionMessage (question : QuizQuestion) (questionIndex totalQuestions : ℕ)
    (roomCode : String) (randomizeAnswers : Bool) : Handler WSQuestion := do
  let answers := if randomizeAnswers then Runtime.seededShuffle question.questionId question.answers
    else question.answers
  let questionStart ← await (.getQuestionStart roomCode)
  let startedAt ← questionStartedAt questionStart
  pure ⟨questionIndex, totalQuestions, question.questionId, question.text,
    answers.map fun a => ⟨a.answerId, a.text⟩, question.timeLimit, startedAt,
    question.allowMultipleAnswers⟩

def buildHostAnswerDetails (sessionId : UUID) (question : QuizQuestion) :
    Handler (List WSHostAnswerUpdate) := do
  let rows ← await (.answersWithPlayers sessionId question.questionId)
  pure (rows.map fun (answer, player) => ⟨player.playerId, player.nickname, answer.isCorrect,
    answer.selectedAnswerIds, answer.timeTakenMs, player.score⟩)

def answerDetails (forHost : Bool) (sessionId : UUID) (question : QuizQuestion) :
    Handler (List WSHostAnswerUpdate) :=
  if forHost then buildHostAnswerDetails sessionId question else pure []

def roomState (room : Room) (players : List PlayerInfo) (questionCount : ℕ)
    (currentQuestion : Option WSQuestion) (hostAnswerDetails : List WSHostAnswerUpdate)
    (questionEnded : Option WSQuestionEnded) : WSRoomState :=
  ⟨room.session.sessionId, room.session.roomCode, room.session.status, room.session.hostId, players,
    room.quiz.title, questionCount, room.session.currentQuestionIndex, currentQuestion,
    hostAnswerDetails, questionEnded⟩

/-- `QUESTION_ENDED` for a question that has just been closed, or was before a reconnect. -/
def buildQuestionEnded (roomCode : String) (sessionId : UUID) (question : QuizQuestion) :
    Handler (Option Room × WSQuestionEnded) := do
  let distribution ← computeAnswerDistribution sessionId question
  let (refreshed, leaderboard) ← getLeaderboard roomCode
  pure (refreshed, ⟨question.questionId, correctAnswerIds question, distribution, leaderboard⟩)

def buildRoomState (roomCode : String) (forHost : Bool) : Handler (Option WSRoomState) := do
  let some room ← await (.getRoom roomCode) | pure none
  let players := room.players.map fun p =>
    (⟨p.playerId, p.nickname, p.score, p.isConnected⟩ : PlayerInfo)
  let questionCount := room.quiz.questions.length
  if room.session.status = .question ∨ room.session.status = .revealing then do
    let (refreshed, question) ← getCurrentQuestion roomCode
    let room := refreshed.getD room
    let some question := question | pure (some (roomState room players questionCount none [] none))
    let currentQuestion ← buildQuestionMessage question room.session.currentQuestionIndex
      questionCount roomCode room.session.randomizeAnswers
    let details ← answerDetails forHost room.session.sessionId question
    if room.session.status = .revealing then do
      let (refreshed, ended) ← buildQuestionEnded roomCode room.session.sessionId question
      let room := refreshed.getD room
      pure (some (roomState room players questionCount (some currentQuestion) details (some ended)))
    else pure (some (roomState room players questionCount (some currentQuestion) details none))
  else pure (some (roomState room players questionCount none [] none))

def durationMs (session : GameSession) (now : Time) : ℤ :=
  match session.startedAt, session.endedAt with
  | some started, some ended => (ended - started).tdiv 1000
  | some started, none => (now - started).tdiv 1000
  | none, _ => 0

def buildGameFinished (roomCode : String) : Handler (Option (Room × WSGameFinished)) := do
  let some room ← await (.getRoom roomCode) | pure none
  let (refreshed, leaderboard) ← getLeaderboard roomCode
  let room := refreshed.getD room
  let now ← await .now
  pure (some (room, ⟨leaderboard, room.quiz.questions.length, durationMs room.session now,
    room.session.publicResults⟩))

end Askit.Game

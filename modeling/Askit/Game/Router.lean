import Askit.Game.ConnectionManager
import Askit.Game.Services

/-! The handlers of the game router: host and player frames, the question timer, and the two
WebSocket endpoints. -/

namespace Askit.Game

open Interleaving Coro

variable [Runtime]

def setPlayerConnected (playerId : UUID) (connected : Bool) : Handler Unit := do
  await (.updateConnected playerId connected)
  await (.commit { connected := some (playerId, connected) })

def gameFinishedForPlayer (finished : WSGameFinished) (playerId : UUID) : WSGameFinished :=
  { finished with finalLeaderboard := finished.finalLeaderboard.filter fun e =>
    e.playerId = playerId }

def announceFinished (roomCode : String) (room : Room) (finished : WSGameFinished) :
    Handler Unit :=
  if room.session.publicResults then broadcastToRoom roomCode (.gameFinished finished) none
  else do
    sendToHost roomCode (.gameFinished finished)
    (room.players.map GamePlayer.playerId).forM fun targetId =>
      sendToPlayer targetId (.gameFinished (gameFinishedForPlayer finished targetId))

def endGame (roomCode : String) : Handler Unit := do
  let some room ← await (.getRoom roomCode) | pure ()
  let session := room.session
  let endedAt ← await .now
  await (.commit { session := some ⟨session,
    { session with status := .finished, endedAt := some endedAt }⟩ })
  let some (room, finished) ← buildGameFinished roomCode | pure ()
  announceFinished roomCode room finished
  clearRankingState roomCode

def sendQuestion (roomCode : String) (questionIndex totalQuestions : ℕ) : Handler Unit := do
  let some question ← advanceToQuestion roomCode questionIndex | endGame roomCode
  let room ← await (.getRoom roomCode)
  let message ← buildQuestionMessage question questionIndex totalQuestions roomCode
    ((room.map fun r => r.session.randomizeAnswers).getD false)
  broadcastToRoom roomCode (.question message) none
  await (.createTask ⟨roomCode, questionIndex, question.timeLimit⟩)

def handleStartGame (roomCode : String) (hostId : UUID) : Handler Unit := do
  let questions ← startGame roomCode hostId
  [3000, 2000, 1000].forM fun ms => do
    broadcastToRoom roomCode (.gameStarting ms questions.length) none
    await (.sleep 1000)
  sendQuestion roomCode 1 questions.length

/-- The session's status is set on the instance that `get_current_question` has reloaded. -/
def closeQuestion (session : GameSession) : Handler Unit :=
  await (.commit { session := some ⟨session, { session with status := .revealing }⟩ })

def handleNextQuestion (roomCode : String) : Handler Unit := do
  let some room ← await (.getRoom roomCode) | pure ()
  let questionCount := room.quiz.questions.length
  let nextIndex := room.session.currentQuestionIndex + 1
  if room.session.status = .question then do
    let (refreshed, question) ← getCurrentQuestion roomCode
    let some question := question | pure ()
    let session := (refreshed.getD room).session
    closeQuestion session
    let (_, ended) ← buildQuestionEnded roomCode session.sessionId question
    broadcastToRoom roomCode (.questionEnded ended) none
  else if room.session.status ≠ .revealing then pure ()
  else if questionCount < nextIndex then endGame roomCode
  else sendQuestion roomCode nextIndex questionCount

def questionTimeout (roomCode : String) (questionIndex timeLimitMs : ℕ) : Handler Unit := do
  await (.sleep timeLimitMs)
  let some room ← await (.getRoom roomCode) | pure ()
  let session := room.session
  if session.currentQuestionIndex ≠ questionIndex then pure ()
  else if session.status ≠ .question then pure ()
  else do
    closeQuestion session
    let (_, question) ← getCurrentQuestion roomCode
    let some question := question | pure ()
    let (_, ended) ← buildQuestionEnded roomCode session.sessionId question
    broadcastToRoom roomCode (.questionEnded ended) none

def hostAnswerUpdate (playerId : UUID) (answerIds : List String) (result : WSAnswerResult)
    (room : Room) : Option WSHostAnswerUpdate :=
  (room.players.find? fun p => p.playerId = playerId).map fun p =>
    ⟨playerId, p.nickname, result.isCorrect, answerIds, result.timeTakenMs, p.score⟩

def answerRejected (playerId : UUID) : Exn → Handler Unit
  | .alreadyAnsweredError => do
    await (.log (.answerIgnored .alreadyAnsweredError playerId))
    sendToPlayer playerId
      (.error Exn.alreadyAnsweredError.errorCode Exn.alreadyAnsweredError.message)
  | .questionNotActiveError => do
    await (.log (.answerIgnored .questionNotActiveError playerId))
    sendToPlayer playerId
      (.error Exn.questionNotActiveError.errorCode Exn.questionNotActiveError.message)
  | _ => sendToPlayer playerId (.error "ANSWER_ERROR" "Failed to process answer")

def sendFeedback (playerId : UUID) (result : WSAnswerResult) (room : Option Room) : Handler Unit :=
  if (room.map fun r => r.session.showImmediateFeedback).getD false then
    sendToPlayer playerId (.answerResult result)
  else pure ()

def answerAccepted (roomCode : String) (playerId : UUID) (answerIds : List String)
    (result : WSAnswerResult) : Handler Unit := do
  let room ← await (.getRoom roomCode)
  broadcastToRoom roomCode (.playerAnswered playerId) none
  sendFeedback playerId result room
  let some update := room.bind (hostAnswerUpdate playerId answerIds result) | pure ()
  sendToHost roomCode (.hostAnswerUpdate update)

def handleAnswer (roomCode : String) (playerId : UUID) (questionId : String)
    (answerIds : List String) : Handler Unit :=
  tryCatch
    (do
      let result ← submitAnswer roomCode playerId questionId answerIds
      answerAccepted roomCode playerId answerIds result)
    (answerRejected playerId)

def handlerError : Frame := .error "HANDLER_ERROR" "An unexpected error occurred"

/-- A frame that does not validate raises; a frame of the other party is only logged. -/
def handlePlayerMessage (roomCode : String) (playerId : UUID) (data : ClientMessage) :
    Handler Unit :=
  tryCatch
    (match data with
      | .answer questionId answerIds => handleAnswer roomCode playerId questionId answerIds
      | .malformed => throw .validationError
      | _ => pure ())
    fun _ => sendToPlayer playerId handlerError

def handleHostMessage (roomCode : String) (hostId : UUID) (data : ClientMessage) : Handler Unit :=
  tryCatch
    (match data with
      | .startGame => handleStartGame roomCode hostId
      | .nextQuestion => handleNextQuestion roomCode
      | .malformed => throw .validationError
      | _ => pure ())
    fun _ => sendToHost roomCode handlerError

def hostFrames (roomCode : String) (hostId : UUID) (frames : List ClientMessage) : Handler Unit :=
  frames.forM fun data => do
    await .receiveJson
    handleHostMessage roomCode hostId data

def wsTokenTtl : ℕ := 4 * 3600

/-- The HTTP route; the token goes into the `ws_token` cookie. -/
def joinRoomRoute (roomCode nickname : String) (user : Option UUID) : Handler Unit := do
  let player ← joinRoom roomCode nickname user
  let wsToken ← await .uuid4
  await (.setWsToken wsToken player.playerId wsTokenTtl)

def foreignOrigin (origin : Option String) : Prop :=
  ∃ o ∈ origin, o ≠ "" ∧ o ∉ Runtime.corsOriginsList

instance (origin : Option String) : Decidable (foreignOrigin origin) :=
  inferInstanceAs (Decidable (∃ o ∈ origin, o ≠ "" ∧ o ∉ Runtime.corsOriginsList))

def attempt {α : Type} (x : Handler α) : Handler (Except Exn α) :=
  tryCatch (Except.ok <$> x) fun e => pure (.error e)

def playerPayload (room : Room) (finished : WSGameFinished) (playerId : UUID) : WSGameFinished :=
  if room.session.publicResults then finished else gameFinishedForPlayer finished playerId

def sendRoomState (send : Frame → Handler Unit) : Option WSRoomState → Handler Unit
  | some state => send (.roomState state)
  | none => pure ()

def sendFinished (send : Frame → Handler Unit) (roomCode : String) (room : Room)
    (payload : WSGameFinished → WSGameFinished) : Handler Unit :=
  if room.session.status = .finished then do
    let some (_, finished) ← buildGameFinished roomCode | pure ()
    send (.gameFinished (payload finished))
  else pure ()

/-- What a player's socket is sent after the admission check and the registration, whose reading of
the session is `room`. -/
def greetPlayer (roomCode : String) (room : Room) (player : GamePlayer)
    (state : Option WSRoomState) : Handler Unit := do
  sendRoomState (sendToPlayer player.playerId) state
  sendFinished (sendToPlayer player.playerId) roomCode room fun finished =>
    playerPayload room finished player.playerId
  broadcastToRoom roomCode (.playerJoined ⟨player.playerId, player.nickname, player.score, true⟩)
    (some player.playerId)

/-- The `finally` block of the receive loop. -/
def leavePlayer (websocket : Socket) (roomCode : String) (player : GamePlayer) :
    Handler Unit := do
  disconnect websocket roomCode player.playerId
  let _ ← attempt (setPlayerConnected player.playerId false)
  broadcastToRoom roomCode (.playerLeft player.playerId player.nickname) none

/-- From the registration on. The frames of the socket are processes of their own, so that any
number of them may be in flight. -/
def servePlayer (websocket : Socket) (roomCode : String) (room : Room) (player : GamePlayer) :
    Handler Unit := do
  connect websocket roomCode player.playerId
  setPlayerConnected player.playerId true
  match ← attempt (buildRoomState roomCode false) with
  | .error _ => do
    disconnect websocket roomCode player.playerId
    await (.close websocket 1011 "Failed to load room state")
  | .ok state => do
    greetPlayer roomCode room player state
    let _ ← attempt (await (.disconnected websocket))
    leavePlayer websocket roomCode player

def websocketPlayerEndpoint (id : ℕ) (roomCode : String) (origin wsToken : Option String) :
    Handler Unit := do
  let websocket : Socket := ⟨.player, id⟩
  if foreignOrigin origin then await (.close websocket 4003 "Origin not allowed")
  else do
    let some token := wsToken.filter (· ≠ "") | await (.close websocket 4001 "Not authenticated")
    let some playerId ← await (.getWsToken token)
      | await (.close websocket 4001 "Invalid or expired token")
    let some room ← await (.getRoom roomCode) | await (.close websocket 4004 "Room not found")
    let some player := room.players.find? fun p => p.playerId = playerId
      | await (.close websocket 4004 "Player not found")
    servePlayer websocket roomCode room player

def greetHost (roomCode : String) (room : Room) (state : Option WSRoomState) : Handler Unit := do
  sendRoomState (sendToHost roomCode) state
  sendFinished (sendToHost roomCode) roomCode room id

def serveHost (websocket : Socket) (roomCode : String) (room : Room) : Handler Unit := do
  connectHost websocket roomCode
  match ← attempt (buildRoomState roomCode true) with
  | .error _ => do
    disconnectHost websocket roomCode
    await (.close websocket 1011 "Failed to load room state")
  | .ok state => do
    greetHost roomCode room state
    let _ ← attempt (await (.disconnected websocket))
    disconnectHost websocket roomCode

/-- `hostUser` is the user as whom the token check of the endpoint has admitted the socket. -/
def websocketHostEndpoint (id : ℕ) (roomCode : String) (origin : Option String) (hostUser : UUID) :
    Handler Unit := do
  let websocket : Socket := ⟨.host, id⟩
  if foreignOrigin origin then await (.close websocket 4003 "Origin not allowed")
  else do
    let some room ← await (.getRoom roomCode) | await (.close websocket 4004 "Room not found")
    if room.session.hostId ≠ hostUser then
      await (.close websocket 4003 "Not the host of this room")
    else serveHost websocket roomCode room

end Askit.Game

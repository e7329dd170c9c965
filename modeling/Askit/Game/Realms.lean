import Askit.Game.Locality

/-! What a room has to do with. A coroutine that is answered about its own room only works on the
players, the session and the sockets of that room. -/

namespace Askit.Game

open Interleaving Coro

structure Realm where
  code : String
  sessionId : Option UUID
  players : Set UUID
  sockets : Set Socket
  tokens : Set String

namespace Realm

variable (R : Realm)

structure Owns (room : Room) : Prop where
  code : room.session.roomCode = R.code
  session : R.sessionId = some room.session.sessionId
  players : ∀ p ∈ room.players, p.playerId ∈ R.players

def Allows : {β : Type} → Op β → β → Prop
  | _, .getRoom _, room => ∀ r ∈ room, R.Owns r
  | _, .getPlayer playerId, player => ∀ p ∈ player, p.playerId = playerId
  | _, .commit changes, _ => ∀ p ∈ changes.newPlayer, R.sessionId = some p.sessionId →
      p.playerId ∈ R.players
  | _, .playerSocket _, socket | _, .hostSocket _, socket => ∀ w ∈ socket, w ∈ R.sockets
  | _, .roomSockets _, sockets => ∀ w ∈ sockets, w ∈ R.sockets
  | _, _, _ => True

structure Holds (changes : Changes) : Prop where
  session : ∀ g ∈ changes.session, g.loaded.roomCode = R.code
  player : ∀ p ∈ changes.player, p.loaded.playerId ∈ R.players
  connected : ∀ p ∈ changes.connected, p.1 ∈ R.players
  newPlayer : ∀ p ∈ changes.newPlayer, R.sessionId = some p.sessionId
  newAnswer : ∀ a ∈ changes.newAnswer, a.playerId ∈ R.players

def Contains : {β : Type} → Op β → Prop
  | _, .getPlayer playerId | _, .updateConnected playerId _ | _, .playerSocket playerId =>
    playerId ∈ R.players
  | _, .selectedAnswers sessionId _ | _, .answersWithPlayers sessionId _ =>
    R.sessionId = some sessionId
  | _, .commit changes => R.Holds changes
  | _, .getWsToken token => token ∈ R.tokens
  | _, .joinRoom websocket _ playerId => websocket ∈ R.sockets ∧ ∀ p ∈ playerId, p ∈ R.players
  | _, .forget _ playerId => ∀ p ∈ playerId, p ∈ R.players
  | _, .leaveRoom websocket _ | _, .sendJson websocket _ | _, .close websocket _ _ | _,
      .socketPlayer websocket =>
    websocket ∈ R.sockets
  | _, _ => True

abbrev Bounds {α : Type} (x : Handler α) : Prop := x.All R.Allows R.Contains

end Realm

namespace Realm

variable {R : Realm} {α : Type} {playerId : UUID} {websocket : Socket}

section ConnectionManager

lemma sendQuietly_bounds (h : websocket ∈ R.sockets) (message : Frame) :
    R.Bounds (sendQuietly websocket message) :=
  All.tryCatch ((all_perform _).mpr h) fun _ => trivial

lemma sendToHost_bounds (roomCode : String) (message : Frame) :
    R.Bounds (sendToHost roomCode message) := by
  apply All.perform_bind (by trivial)
  rintro (_ | websocket) h
  · trivial
  · exact sendQuietly_bounds (h _ rfl) message

lemma sendToPlayer_bounds (h : playerId ∈ R.players) (message : Frame) :
    R.Bounds (sendToPlayer playerId message) := by
  apply All.perform_bind h
  rintro (_ | websocket) hw
  · trivial
  · exact sendQuietly_bounds (hw _ rfl) message

lemma sendToLocalRoom_bounds (roomCode : String) (message : Frame) (excludePlayerId : Option UUID) :
    R.Bounds (sendToLocalRoom roomCode message excludePlayerId) := by
  apply All.perform_bind (by trivial)
  intro connections h
  apply All.forM
  intro websocket hw
  exact All.perform_bind (h _ hw) fun playerId _ =>
    All.ite (fun _ => trivial) fun _ => sendQuietly_bounds (h _ hw) message

lemma broadcastToRoom_bounds (roomCode : String) (message : Frame) (excludePlayerId : Option UUID) :
    R.Bounds (broadcastToRoom roomCode message excludePlayerId) :=
  All.tryCatch ((all_perform _).mpr trivial) fun _ => sendToLocalRoom_bounds roomCode message _

lemma deliverNext_bounds (roomCode : String) : R.Bounds (deliverNext roomCode) :=
  All.perform_bind (by trivial) fun _ _ => sendToLocalRoom_bounds _ _ _

lemma disconnectFrom_bounds (h : websocket ∈ R.sockets) (roomCode : String) {player : Option UUID}
    (hp : ∀ p ∈ player, p ∈ R.players) : R.Bounds (disconnectFrom websocket roomCode player) := by
  apply All.perform_bind h
  intro cancelled _
  apply All.bind
  · unfold unsubscribeFromRoom
    apply All.ite
    · exact fun _ => All.tryCatch ((all_perform _).mpr trivial) fun _ =>
        All.perform_bind (by trivial) fun _ _ => trivial
    · exact fun _ => trivial
  · exact fun _ => (all_perform _).mpr hp

end ConnectionManager

section Handlers

lemma holds_session {session current : GameSession} (h : session.roomCode = R.code) :
    R.Holds { session := some ⟨session, current⟩ } where
  session := by
    rintro _ ⟨⟩
    exact h
  player _ h := by cases h
  connected _ h := by cases h
  newPlayer _ h := by cases h
  newAnswer _ h := by cases h

lemma getCurrentQuestion_bounds (roomCode : String) : R.Bounds (getCurrentQuestion roomCode) := by
  unfold getCurrentQuestion
  repeat' first | trivial | exact (all_perform _).mpr trivial | apply All.bind | intro _ | split

lemma getCurrentQuestion_owns (roomCode : String) :
    (getCurrentQuestion roomCode).Returns R.Allows fun r => ∀ room ∈ r.1, R.Owns room := by
  apply Returns.perform_bind
  rintro (_ | room) h
  · exact (returns_pure _).mpr h
  dsimp only
  split
  · exact (returns_pure _).mpr h
  apply Returns.perform_bind
  rintro (_ | questionIds) -
  · exact (returns_pure _).mpr h
  dsimp only
  split
  · exact Returns.perform_bind fun _ _ => (returns_pure _).mpr h
  · exact (returns_pure _).mpr h

lemma getLeaderboard_bounds (roomCode : String) : R.Bounds (getLeaderboard roomCode) := by
  unfold getLeaderboard
  repeat' first | trivial | exact (all_perform _).mpr trivial | apply All.bind | intro _ | split

lemma getLeaderboard_owns (roomCode : String) :
    (getLeaderboard roomCode).Returns R.Allows fun r => ∀ room ∈ r.1, R.Owns room := by
  apply Returns.perform_bind
  rintro (_ | room) h
  · exact (returns_pure _).mpr h
  exact Returns.perform_bind fun _ _ => Returns.perform_bind fun _ _ => (returns_pure _).mpr h

lemma buildQuestionEnded_bounds (roomCode : String) {sessionId : UUID}
    (h : R.sessionId = some sessionId) (question : QuizQuestion) :
    R.Bounds (buildQuestionEnded roomCode sessionId question) := by
  apply All.bind
  · exact All.perform_bind h fun _ _ => trivial
  · exact fun _ => All.bind (getLeaderboard_bounds roomCode) fun _ => trivial

lemma owns_getD {refreshed : Option Room} {room : Room} (h : ∀ r ∈ refreshed, R.Owns r)
    (hroom : R.Owns room) :
    R.Owns (refreshed.getD room) := by
  cases refreshed with
  | none => exact hroom
  | some r => exact h r rfl

lemma buildGameFinished_bounds (roomCode : String) : R.Bounds (buildGameFinished roomCode) := by
  unfold buildGameFinished
  repeat' first
    | trivial | exact (all_perform _).mpr trivial | apply getLeaderboard_bounds | apply All.bind
    | intro _ | split

lemma buildGameFinished_owns (roomCode : String) :
    (buildGameFinished roomCode).Returns R.Allows fun r => ∀ q ∈ r, R.Owns q.1 := by
  apply Returns.perform_bind
  rintro (_ | room) hroom
  · exact (returns_pure _).mpr (by simp)
  apply Returns.bind_of_returns (getLeaderboard_owns roomCode)
  rintro ⟨refreshed, leaderboard⟩ hrefreshed
  apply Returns.perform_bind
  intro now _
  apply (returns_pure _).mpr
  rintro _ ⟨⟩
  exact owns_getD hrefreshed (hroom room rfl)

lemma startGame_bounds (roomCode : String) (hostId : UUID) :
    R.Bounds (startGame roomCode hostId) := by
  apply All.perform_bind (by trivial)
  rintro (_ | room) hroom
  · trivial
  iterate 2
    apply All.require_bind
    intro _
  apply All.bind
  · unfold questionOrder
    apply All.ite
    · exact fun _ => (all_perform _).mpr trivial
    · exact fun _ => trivial
  intro questions
  apply All.perform_bind (by trivial)
  intro startedAt _
  apply All.perform_bind (holds_session (hroom room rfl).code)
  exact fun _ _ => All.perform_bind (by trivial) fun _ _ => trivial

lemma advanceToQuestion_bounds (roomCode : String) (questionIndex : ℕ) :
    R.Bounds (advanceToQuestion roomCode questionIndex) := by
  apply All.perform_bind (by trivial)
  rintro (_ | room) hroom
  · trivial
  have hcode := (hroom room rfl).code
  apply All.perform_bind (by trivial)
  rintro (_ | questionIds) -
  · trivial
  apply All.perform_bind (by trivial)
  intro _ _
  apply All.ite
  · intro _
    apply All.perform_bind (by trivial)
    intro endedAt _
    exact All.perform_bind (holds_session hcode) fun _ _ => trivial
  · intro _
    apply All.perform_bind (holds_session hcode)
    intro _ _
    apply All.perform_bind (by trivial)
    intro now _
    apply All.perform_bind (by trivial)
    intro _ _
    split
    · exact (all_perform _).mpr trivial
    · trivial

lemma commitAnswer_bounds {player : Option GamePlayer} {record : GamePlayerAnswer}
    (hplayer : ∀ p ∈ player, p.playerId ∈ R.players) (hrecord : record.playerId ∈ R.players) :
    R.Bounds (commitAnswer player record) := by
  apply All.tryCatch
  · apply (all_perform _).mpr
    refine ⟨?_, ?_, ?_, ?_, ?_⟩
    case refine_2 =>
      rintro _ h
      obtain ⟨p, hp, rfl⟩ := Option.mem_map.mp h
      exact hplayer p hp
    case refine_5 =>
      rintro _ ⟨⟩
      exact hrecord
    all_goals
      intro _ h
      cases h
  · intro e
    apply All.ite
    · exact fun _ => All.perform_bind (by trivial) fun _ _ => trivial
    · exact fun _ => trivial

lemma setPlayerConnected_bounds (h : playerId ∈ R.players) (connected : Bool) :
    R.Bounds (setPlayerConnected playerId connected) := by
  apply All.perform_bind h
  intro _ _
  apply (all_perform _).mpr
  refine ⟨?_, ?_, ?_, ?_, ?_⟩
  case refine_3 =>
    rintro _ ⟨⟩
    exact h
  all_goals
    intro _ h
    cases h

lemma announceFinished_bounds (roomCode : String) {room : Room} (h : R.Owns room)
    (finished : WSGameFinished) :
    R.Bounds (announceFinished roomCode room finished) := by
  apply All.ite
  · exact fun _ => broadcastToRoom_bounds _ _ _
  · intro _
    apply All.bind (sendToHost_bounds _ _)
    intro _
    apply All.forM
    intro targetId htarget
    obtain ⟨p, hp, rfl⟩ := List.mem_map.mp htarget
    exact sendToPlayer_bounds (h.players p hp) _

lemma endGame_bounds (roomCode : String) : R.Bounds (endGame roomCode) := by
  apply All.perform_bind (by trivial)
  rintro (_ | room) hroom
  · trivial
  apply All.perform_bind (by trivial)
  intro endedAt _
  apply All.perform_bind (holds_session (hroom room rfl).code)
  intro _ _
  apply All.bind_of_returns (buildGameFinished_bounds roomCode) (buildGameFinished_owns roomCode)
  rintro (_ | ⟨room, finished⟩) howns
  · trivial
  · exact All.bind (announceFinished_bounds roomCode (howns _ rfl) finished) fun _ =>
      (all_perform _).mpr trivial

lemma questionTimeout_bounds (roomCode : String) (questionIndex timeLimitMs : ℕ) :
    R.Bounds (questionTimeout roomCode questionIndex timeLimitMs) := by
  apply All.perform_bind (by trivial)
  intro _ _
  apply All.perform_bind (by trivial)
  rintro (_ | room) hroom
  · trivial
  have howns := hroom room rfl
  iterate 2
    apply All.ite
    · exact fun _ => trivial
    intro _
  apply All.bind ((all_perform _).mpr (holds_session howns.code))
  intro _
  apply All.bind (getCurrentQuestion_bounds roomCode)
  rintro ⟨refreshed, _ | question⟩
  · trivial
  apply All.bind (buildQuestionEnded_bounds roomCode howns.session question)
  exact fun _ => broadcastToRoom_bounds _ _ _

lemma attempt_bounds {x : Handler α} (h : R.Bounds x) : R.Bounds (attempt x) :=
  All.tryCatch (h.map _) fun _ => trivial

lemma sendFinished_bounds {send : Frame → Handler Unit} (h : ∀ message, R.Bounds (send message))
    (roomCode : String) (room : Room) (payload : WSGameFinished → WSGameFinished) :
    R.Bounds (sendFinished send roomCode room payload) := by
  unfold sendFinished
  repeat' first
    | trivial | apply h | apply buildGameFinished_bounds | apply All.bind | intro _ | split

lemma sendRoomState_bounds {send : Frame → Handler Unit} (h : ∀ message, R.Bounds (send message))
    (state : Option WSRoomState) : R.Bounds (sendRoomState send state) := by
  cases state with
  | none => trivial
  | some state => exact h _

lemma connect_bounds (hw : websocket ∈ R.sockets) (roomCode : String) (h : playerId ∈ R.players) :
    R.Bounds (connect websocket roomCode playerId) := by
  apply All.perform_bind (by trivial)
  intro _ _
  apply (all_perform _).mpr
  refine ⟨hw, ?_⟩
  rintro _ ⟨⟩
  exact h

lemma disconnect_bounds (hw : websocket ∈ R.sockets) (roomCode : String)
    (h : playerId ∈ R.players) :
    R.Bounds (disconnect websocket roomCode playerId) := by
  apply disconnectFrom_bounds hw
  rintro _ ⟨⟩
  exact h

end Handlers

section Code

variable [Runtime]

lemma buildQuestionMessage_bounds (question : QuizQuestion) (questionIndex totalQuestions : ℕ)
    (roomCode : String) (randomizeAnswers : Bool) :
    R.Bounds (buildQuestionMessage question questionIndex totalQuestions roomCode
      randomizeAnswers) := by
  unfold buildQuestionMessage questionStartedAt
  repeat' first | trivial | exact (all_perform _).mpr trivial | apply All.bind | intro _ | split

lemma buildRoomState_bounds (roomCode : String) (forHost : Bool) :
    R.Bounds (buildRoomState roomCode forHost) := by
  apply All.perform_bind (by trivial)
  rintro (_ | room) hroom
  · trivial
  apply All.ite
  swap
  · exact fun _ => trivial
  intro _
  apply All.bind_of_returns (getCurrentQuestion_bounds roomCode) (getCurrentQuestion_owns roomCode)
  rintro ⟨refreshed, _ | question⟩ hrefreshed
  · trivial
  have howns := owns_getD hrefreshed (hroom room rfl)
  apply All.bind (buildQuestionMessage_bounds _ _ _ _ _)
  intro currentQuestion
  apply All.bind
  · unfold answerDetails buildHostAnswerDetails
    apply All.ite
    · exact fun _ => All.perform_bind howns.session fun _ _ => trivial
    · exact fun _ => trivial
  intro details
  apply All.ite
  · exact fun _ => All.bind (buildQuestionEnded_bounds roomCode howns.session question)
      fun _ => trivial
  · exact fun _ => trivial

lemma joinRoom_bounds (roomCode nickname : String) (user : Option UUID) :
    R.Bounds (joinRoom roomCode nickname user) := by
  apply All.perform_bind (by trivial)
  rintro (_ | room) hroom
  · trivial
  have hsession := (hroom room rfl).session
  iterate 4
    apply All.require_bind
    intro _
  apply All.perform_bind (by trivial)
  intro playerId _
  apply All.perform_bind
  · refine ⟨?_, ?_, ?_, ?_, ?_⟩
    case refine_4 =>
      rintro _ ⟨⟩
      exact hsession
    all_goals
      intro _ h
      cases h
  intro _ hjoined
  apply All.perform_bind (hjoined _ rfl hsession)
  exact fun _ _ => trivial

lemma submitAnswer_bounds (h : playerId ∈ R.players) (roomCode questionId : String)
    (answerIds : List String) :
    R.Bounds (submitAnswer roomCode playerId questionId answerIds) := by
  apply All.perform_bind (by trivial)
  rintro (_ | room) hroom
  · trivial
  apply All.require_bind
  intro _
  apply All.perform_bind (by trivial)
  intro answered _
  apply All.require_bind
  intro _
  dsimp only
  split
  swap
  · trivial
  apply All.bind_of_returns (getCurrentQuestion_bounds roomCode) (getCurrentQuestion_owns roomCode)
  rintro ⟨refreshed, _ | question⟩ hrefreshed
  · trivial
  have howns := owns_getD hrefreshed (hroom room rfl)
  apply All.require_bind
  intro _
  apply All.perform_bind (by trivial)
  intro questionStart _
  apply All.bind
  · cases questionStart with
    | none => trivial
    | some start => exact All.perform_bind (by trivial) fun _ _ => trivial
  intro timeTakenMs
  apply All.perform_bind h
  intro row hrow
  apply All.bind
  · apply commitAnswer_bounds
    · intro q hq
      obtain ⟨p, hp, rfl⟩ := Option.mem_map.mp hq
      cases hfind : (refreshed.getD room).players.find? fun p => p.playerId = playerId with
      | none => exact (hrow p hp).symm ▸ h
      | some loaded => exact howns.players loaded (List.mem_of_find?_eq_some hfind)
    · exact h
  intro _
  iterate 3
    apply All.perform_bind (by trivial)
    intro _ _
  trivial

lemma sendQuestion_bounds (roomCode : String) (questionIndex totalQuestions : ℕ) :
    R.Bounds (sendQuestion roomCode questionIndex totalQuestions) := by
  unfold sendQuestion
  repeat' first
    | trivial | exact (all_perform _).mpr trivial | apply endGame_bounds
    | apply advanceToQuestion_bounds | apply buildQuestionMessage_bounds
    | apply broadcastToRoom_bounds | apply All.bind | intro _ | split

lemma handleStartGame_bounds (roomCode : String) (hostId : UUID) :
    R.Bounds (handleStartGame roomCode hostId) := by
  unfold handleStartGame
  repeat' first
    | trivial | exact (all_perform _).mpr trivial | apply startGame_bounds
    | apply sendQuestion_bounds | apply broadcastToRoom_bounds | apply All.forM | apply All.bind
    | intro _

lemma handleNextQuestion_bounds (roomCode : String) : R.Bounds (handleNextQuestion roomCode) := by
  apply All.perform_bind (by trivial)
  rintro (_ | room) hroom
  · trivial
  apply All.ite
  · intro _
    apply All.bind_of_returns (getCurrentQuestion_bounds roomCode)
      (getCurrentQuestion_owns roomCode)
    rintro ⟨refreshed, _ | question⟩ hrefreshed
    · trivial
    have howns := owns_getD hrefreshed (hroom room rfl)
    apply All.bind ((all_perform _).mpr (holds_session howns.code))
    intro _
    apply All.bind (buildQuestionEnded_bounds roomCode howns.session question)
    exact fun _ => broadcastToRoom_bounds _ _ _
  · intro _
    repeat' first
      | trivial | apply endGame_bounds | apply sendQuestion_bounds | apply All.ite | intro _

lemma handlePlayerMessage_bounds (h : playerId ∈ R.players) (roomCode : String)
    (data : ClientMessage) :
    R.Bounds (handlePlayerMessage roomCode playerId data) := by
  unfold handlePlayerMessage handleAnswer answerAccepted answerRejected sendFeedback
  repeat' first
    | trivial | exact (all_perform _).mpr trivial | apply submitAnswer_bounds h
    | apply broadcastToRoom_bounds | apply sendToHost_bounds | apply sendToPlayer_bounds h
    | apply All.bind | apply All.tryCatch | intro _ | split

lemma hostFrames_bounds (roomCode : String) (hostId : UUID) (frames : List ClientMessage) :
    R.Bounds (hostFrames roomCode hostId frames) := by
  apply All.forM
  intro data _
  apply All.perform_bind (by trivial)
  intro _ _
  apply All.tryCatch
  · cases data with
    | startGame => exact handleStartGame_bounds roomCode hostId
    | nextQuestion => exact handleNextQuestion_bounds roomCode
    | answer | malformed => trivial
  · exact fun _ => sendToHost_bounds _ _

lemma joinRoomRoute_bounds (roomCode nickname : String) (user : Option UUID) :
    R.Bounds (joinRoomRoute roomCode nickname user) :=
  All.bind (joinRoom_bounds roomCode nickname user) fun _ =>
    All.perform_bind (by trivial) fun _ _ => (all_perform _).mpr trivial

lemma servePlayer_bounds (hw : websocket ∈ R.sockets) (roomCode : String) (room : Room)
    {player : GamePlayer} (h : player.playerId ∈ R.players) :
    R.Bounds (servePlayer websocket roomCode room player) := by
  unfold servePlayer greetPlayer leavePlayer
  repeat' first
    | trivial | exact hw | exact (all_perform _).mpr trivial | exact (all_perform _).mpr hw
    | apply connect_bounds hw _ h | apply disconnect_bounds hw _ h
    | apply setPlayerConnected_bounds h | apply sendRoomState_bounds | apply sendFinished_bounds
    | apply sendToPlayer_bounds h | apply broadcastToRoom_bounds | apply buildRoomState_bounds
    | apply attempt_bounds | apply All.bind | intro _ | split

lemma websocketPlayerEndpoint_bounds {id : ℕ} (hw : ⟨.player, id⟩ ∈ R.sockets) (roomCode : String)
    (origin : Option String) {wsToken : Option String}
    (htoken : ∀ token ∈ wsToken, token ∈ R.tokens) :
    R.Bounds (websocketPlayerEndpoint id roomCode origin wsToken) := by
  apply All.ite
  · exact fun _ => (all_perform _).mpr hw
  intro _
  cases hsome : wsToken.filter (· ≠ "") with
  | none => exact (all_perform _).mpr hw
  | some token =>
    apply All.perform_bind (htoken token (Option.mem_filter_iff.mp hsome).1)
    rintro (_ | playerId) -
    · exact (all_perform _).mpr hw
    apply All.perform_bind (by trivial)
    rintro (_ | room) hroom
    · exact (all_perform _).mpr hw
    dsimp only
    cases hfind : room.players.find? fun p => p.playerId = playerId with
    | none => exact (all_perform _).mpr hw
    | some player =>
      exact servePlayer_bounds hw roomCode room
        ((hroom room rfl).players player (List.mem_of_find?_eq_some hfind))

lemma serveHost_bounds (hw : websocket ∈ R.sockets) (roomCode : String) (room : Room) :
    R.Bounds (serveHost websocket roomCode room) := by
  have hjoin : R.Contains (.joinRoom websocket roomCode none) := ⟨hw, fun _ h => (by cases h)⟩
  have hleave : R.Bounds (disconnectHost websocket roomCode) :=
    disconnectFrom_bounds hw _ fun _ h => (by cases h)
  unfold serveHost connectHost greetHost
  repeat' first
    | trivial | exact hleave | exact (all_perform _).mpr trivial | exact (all_perform _).mpr hw
    | exact (all_perform _).mpr hjoin | apply sendRoomState_bounds | apply sendFinished_bounds
    | apply sendToHost_bounds | apply buildRoomState_bounds | apply attempt_bounds
    | apply All.bind | intro _ | split

lemma websocketHostEndpoint_bounds {id : ℕ} (hw : ⟨.host, id⟩ ∈ R.sockets) (roomCode : String)
    (origin : Option String) (hostUser : UUID) :
    R.Bounds (websocketHostEndpoint id roomCode origin hostUser) := by
  unfold websocketHostEndpoint
  repeat' first
    | trivial | exact (all_perform _).mpr trivial | exact (all_perform _).mpr hw
    | apply serveHost_bounds hw | apply All.bind | intro _ | split

def Admits (R : Realm) : Call → Prop
  | .playerFrame _ playerId _ => playerId ∈ R.players
  | .playerEndpoint id _ _ wsToken => ⟨.player, id⟩ ∈ R.sockets ∧ ∀ token ∈ wsToken,
      token ∈ R.tokens
  | .hostEndpoint id _ _ _ => ⟨.host, id⟩ ∈ R.sockets
  | _ => True

lemma code_bounds {call : Call} (h : R.Admits call) : R.Bounds (Game.code call) := by
  cases call with
  | joinRoom roomCode nickname user => exact joinRoomRoute_bounds _ _ _
  | hostFrames roomCode hostId frames => exact hostFrames_bounds _ _ _
  | playerFrame roomCode playerId data => exact handlePlayerMessage_bounds h _ _
  | questionTimeout timer => exact questionTimeout_bounds _ _ _
  | playerEndpoint id roomCode origin wsToken => exact websocketPlayerEndpoint_bounds h.1 _ _ h.2
  | hostEndpoint id roomCode origin hostUser => exact websocketHostEndpoint_bounds h _ _ _
  | subscriber roomCode => exact (all_perform _).mpr trivial
  | delivery roomCode => exact deliverNext_bounds _

end Code

end Realm

end Askit.Game

import Askit.Game.System

/-! Every coroutine works on the keys, the sockets and the session of the room that it is called
for, and only a player's frame touches the sets of those who have answered. -/

namespace Askit.Game

open Interleaving Coro

variable [Runtime]

/-- An operation on the room `roomCode`, or on none. -/
def Op.Local (roomCode : String) (answers : Prop) : {β : Type} → Op β → Prop
  | _, .getRoom room | _, .getQuestions room | _, .setQuestions room _ _ | _,
  .expireQuestions room _
  | _, .getQuestionStart room | _, .setQuestionStart room _ _ | _, .getPrevRanking room
  | _, .setPrevRanking room _ _ | _, .deletePrevRanking room | _, .publish room _
  | _, .joinRoom _ room _ | _, .leaveRoom _ room | _, .awaitCancelled room | _, .forget room _
  | _, .hostSocket room | _, .roomSockets room | _, .subscribe room | _, .listen room =>
    room = roomCode
  | _, .sismemberAnswered room _ _ | _, .saddAnswered room _ _ | _, .expireAnswered room _ _ =>
    room = roomCode ∧ answers
  | _, .createTask timer => timer.roomCode = roomCode
  | _, _ => True

abbrev Stays (roomCode : String) (answers : Prop) {α : Type} (x : Handler α) : Prop :=
  x.All system.Answers (Op.Local roomCode answers)

namespace Locality

variable (roomCode : String) {answers : Prop} {α β γ : Type}

section ConnectionManager

lemma sendQuietly (websocket : Socket) (message : Frame) :
    Stays roomCode answers (Game.sendQuietly websocket message) :=
  All.tryCatch ((all_perform _).mpr trivial) fun _ => trivial

lemma sendToHost (message : Frame) : Stays roomCode answers (Game.sendToHost roomCode message) := by
  apply All.perform_bind rfl
  intro websocket _
  cases websocket with
  | none => trivial
  | some websocket => exact sendQuietly roomCode websocket message

lemma sendToPlayer (playerId : UUID) (message : Frame) :
    Stays roomCode answers (Game.sendToPlayer playerId message) := by
  apply All.perform_bind trivial
  intro websocket _
  cases websocket with
  | none => trivial
  | some websocket => exact sendQuietly roomCode websocket message

lemma sendToLocalRoom (message : Frame) (excludePlayerId : Option UUID) :
    Stays roomCode answers (Game.sendToLocalRoom roomCode message excludePlayerId) := by
  apply All.perform_bind rfl
  intro connections _
  apply All.forM
  intro websocket _
  exact All.perform_bind trivial fun playerId _ =>
    All.ite (fun _ => trivial) fun _ => sendQuietly roomCode websocket message

lemma broadcastToRoom (message : Frame) (excludePlayerId : Option UUID) :
    Stays roomCode answers (Game.broadcastToRoom roomCode message excludePlayerId) :=
  All.tryCatch ((all_perform _).mpr rfl) fun _ => sendToLocalRoom roomCode message excludePlayerId

lemma deliverNext : Stays roomCode answers (Game.deliverNext roomCode) :=
  All.perform_bind rfl fun _ _ => sendToLocalRoom roomCode _ _

lemma connect (websocket : Socket) (playerId : UUID) :
    Stays roomCode answers (Game.connect websocket roomCode playerId) :=
  All.perform_bind trivial fun _ _ => (all_perform _).mpr rfl

lemma connectHost (websocket : Socket) :
    Stays roomCode answers (Game.connectHost websocket roomCode) :=
  All.perform_bind trivial fun _ _ => (all_perform _).mpr rfl

lemma disconnectFrom (websocket : Socket) (playerId : Option UUID) :
    Stays roomCode answers (Game.disconnectFrom websocket roomCode playerId) := by
  apply All.perform_bind rfl
  intro cancelled _
  apply All.bind
  · apply All.ite
    · exact fun _ => All.tryCatch ((all_perform _).mpr rfl) fun _ =>
        All.perform_bind trivial fun _ _ => trivial
    · exact fun _ => trivial
  · exact fun _ => (all_perform _).mpr rfl

end ConnectionManager

section Services

lemma getCurrentQuestion : Stays roomCode answers (Game.getCurrentQuestion roomCode) := by
  apply All.perform_bind rfl
  intro room _
  cases room with
  | none => trivial
  | some room =>
    apply All.ite
    · exact fun _ => trivial
    intro _
    apply All.perform_bind rfl
    intro questionIds _
    cases questionIds with
    | none => trivial
    | some questionIds =>
      dsimp only
      split
      · exact All.perform_bind trivial fun _ _ => trivial
      · trivial

lemma getLeaderboard : Stays roomCode answers (Game.getLeaderboard roomCode) := by
  apply All.perform_bind rfl
  intro room _
  cases room with
  | none => trivial
  | some room => exact All.perform_bind rfl fun _ _ => All.perform_bind rfl fun _ _ => trivial

lemma buildQuestionMessage (question : QuizQuestion) (questionIndex totalQuestions : ℕ)
    (randomizeAnswers : Bool) : Stays roomCode answers
      (Game.buildQuestionMessage question questionIndex totalQuestions roomCode
        randomizeAnswers) := by
  apply All.perform_bind rfl
  intro questionStart _
  apply All.bind
  · cases questionStart with
    | none => exact (all_perform _).mpr trivial
    | some start => trivial
  · exact fun _ => trivial

lemma buildQuestionEnded (sessionId : UUID) (question : QuizQuestion) :
    Stays roomCode answers (Game.buildQuestionEnded roomCode sessionId question) :=
  All.bind (All.perform_bind trivial fun _ _ => trivial) fun _ =>
    All.bind (getLeaderboard roomCode) fun _ => trivial

lemma answerDetails (forHost : Bool) (sessionId : UUID) (question : QuizQuestion) :
    Stays roomCode answers (Game.answerDetails forHost sessionId question) :=
  All.ite (fun _ => All.perform_bind trivial fun _ _ => trivial) fun _ => trivial

lemma buildRoomState (forHost : Bool) :
    Stays roomCode answers (Game.buildRoomState roomCode forHost) := by
  apply All.perform_bind rfl
  intro room _
  cases room with
  | none => trivial
  | some room =>
    apply All.ite
    swap
    · exact fun _ => trivial
    intro _
    apply All.bind (getCurrentQuestion roomCode)
    rintro ⟨refreshed, question⟩
    cases question with
    | none => trivial
    | some question =>
      apply All.bind (buildQuestionMessage roomCode _ _ _ _)
      intro currentQuestion
      apply All.bind (answerDetails roomCode _ _ _)
      intro details
      apply All.ite
      · exact fun _ => All.bind (buildQuestionEnded roomCode _ _) fun _ => trivial
      · exact fun _ => trivial

lemma buildGameFinished : Stays roomCode answers (Game.buildGameFinished roomCode) := by
  apply All.perform_bind rfl
  intro room _
  cases room with
  | none => trivial
  | some room =>
    exact All.bind (getLeaderboard roomCode) fun _ => All.perform_bind trivial fun _ _ => trivial

lemma joinRoom (nickname : String) (user : Option UUID) :
    Stays roomCode answers (Game.joinRoom roomCode nickname user) := by
  apply All.perform_bind rfl
  intro room _
  cases room with
  | none => trivial
  | some room =>
    exact All.require_bind fun _ => All.require_bind fun _ => All.require_bind fun _ =>
      All.require_bind fun _ => All.perform_bind trivial fun _ _ =>
        All.perform_bind trivial fun _ _ => All.perform_bind trivial fun _ _ => trivial

lemma startGame (hostId : UUID) : Stays roomCode answers (Game.startGame roomCode hostId) := by
  apply All.perform_bind rfl
  intro room _
  cases room with
  | none => trivial
  | some room =>
    apply All.require_bind
    intro _
    apply All.require_bind
    intro _
    apply All.bind
    · exact All.ite (fun _ => (all_perform _).mpr trivial) fun _ => trivial
    · exact fun _ => All.perform_bind trivial fun _ _ => All.perform_bind trivial fun _ _ =>
        All.perform_bind rfl fun _ _ => trivial

lemma advanceToQuestion (questionIndex : ℕ) :
    Stays roomCode answers (Game.advanceToQuestion roomCode questionIndex) := by
  apply All.perform_bind rfl
  intro room _
  cases room with
  | none => trivial
  | some room =>
    apply All.perform_bind rfl
    intro questionIds _
    cases questionIds with
    | none => trivial
    | some questionIds =>
      apply All.perform_bind rfl
      intro _ _
      apply All.ite
      · exact fun _ => All.perform_bind trivial fun _ _ => All.perform_bind trivial
          fun _ _ => trivial
      · intro _
        apply All.perform_bind trivial
        intro _ _
        apply All.perform_bind trivial
        intro _ _
        apply All.perform_bind rfl
        intro _ _
        cases questionIds[questionIndex - 1]? with
        | none => trivial
        | some questionId => exact (all_perform _).mpr trivial

lemma timeTaken (question : QuizQuestion) (start : Option Time) :
    Stays roomCode answers (Game.timeTaken question start) := by
  cases start with
  | none => trivial
  | some start => exact All.perform_bind trivial fun _ _ => trivial

lemma commitAnswer (player : Option GamePlayer) (record : GamePlayerAnswer) :
    Stays roomCode answers (Game.commitAnswer player record) :=
  All.tryCatch ((all_perform _).mpr trivial) fun _ =>
    All.ite (fun _ => All.perform_bind trivial fun _ _ => trivial) fun _ => trivial

lemma submitAnswer (h : answers) (playerId : UUID) (questionId : String) (answerIds : List String) :
    Stays roomCode answers (Game.submitAnswer roomCode playerId questionId answerIds) := by
  apply All.perform_bind rfl
  intro room _
  cases room with
  | none => trivial
  | some room =>
    apply All.require_bind
    intro _
    apply All.perform_bind ⟨rfl, h⟩
    intro _ _
    apply All.require_bind
    intro _
    cases Runtime.uuid questionId with
    | none => trivial
    | some submittedQuestionId =>
      apply All.bind (getCurrentQuestion roomCode)
      rintro ⟨refreshed, question⟩
      cases question with
      | none => trivial
      | some question =>
        apply All.require_bind
        intro _
        apply All.perform_bind rfl
        intro start _
        apply All.bind (timeTaken roomCode question start)
        intro _
        apply All.perform_bind trivial
        intro row _
        apply All.bind (commitAnswer roomCode _ _)
        intro _
        exact All.perform_bind ⟨rfl, h⟩ fun _ _ => All.perform_bind ⟨rfl, h⟩ fun _ _ =>
          All.perform_bind trivial fun _ _ => trivial

end Services

section Router

lemma setPlayerConnected (playerId : UUID) (connected : Bool) :
    Stays roomCode answers (Game.setPlayerConnected playerId connected) :=
  All.perform_bind trivial fun _ _ => (all_perform _).mpr trivial

lemma announceFinished (room : Room) (finished : WSGameFinished) :
    Stays roomCode answers (Game.announceFinished roomCode room finished) :=
  All.ite (fun _ => broadcastToRoom roomCode _ none) fun _ =>
    All.bind (sendToHost roomCode _) fun _ => All.forM fun _ _ => sendToPlayer roomCode _ _

lemma endGame : Stays roomCode answers (Game.endGame roomCode) := by
  apply All.perform_bind rfl
  intro room _
  cases room with
  | none => trivial
  | some room =>
    apply All.perform_bind trivial
    intro _ _
    apply All.perform_bind trivial
    intro _ _
    apply All.bind (buildGameFinished roomCode)
    intro finished
    cases finished with
    | none => trivial
    | some f => exact All.bind (announceFinished roomCode _ _) fun _ => (all_perform _).mpr rfl

lemma sendQuestion (questionIndex totalQuestions : ℕ) :
    Stays roomCode answers (Game.sendQuestion roomCode questionIndex totalQuestions) := by
  apply All.bind (advanceToQuestion roomCode questionIndex)
  intro question
  cases question with
  | none => exact endGame roomCode
  | some question =>
    exact All.perform_bind rfl fun room _ => All.bind (buildQuestionMessage roomCode _ _ _ _)
      fun message => All.bind (broadcastToRoom roomCode _ none) fun _ => (all_perform _).mpr rfl

lemma handleStartGame (hostId : UUID) :
    Stays roomCode answers (Game.handleStartGame roomCode hostId) :=
  All.bind (startGame roomCode hostId) fun _ =>
    All.bind (All.forM fun _ _ => All.bind (broadcastToRoom roomCode _ none) fun _ =>
      (all_perform _).mpr trivial) fun _ => sendQuestion roomCode _ _

lemma handleNextQuestion : Stays roomCode answers (Game.handleNextQuestion roomCode) := by
  apply All.perform_bind rfl
  intro room _
  cases room with
  | none => trivial
  | some room =>
    apply All.ite
    · intro _
      apply All.bind (getCurrentQuestion roomCode)
      rintro ⟨refreshed, question⟩
      cases question with
      | none => trivial
      | some question =>
        exact All.bind ((all_perform _).mpr trivial) fun _ =>
          All.bind (buildQuestionEnded roomCode _ _) fun ⟨_, _⟩ => broadcastToRoom roomCode _ none
    · exact fun _ => All.ite (fun _ => trivial) fun _ =>
        All.ite (fun _ => endGame roomCode) fun _ => sendQuestion roomCode _ _

lemma questionTimeout (questionIndex timeLimitMs : ℕ) :
    Stays roomCode answers (Game.questionTimeout roomCode questionIndex timeLimitMs) := by
  apply All.perform_bind trivial
  intro _ _
  apply All.perform_bind rfl
  intro room _
  cases room with
  | none => trivial
  | some room =>
    refine All.ite (fun _ => trivial) fun _ => All.ite (fun _ => trivial) fun _ => ?_
    apply All.bind ((all_perform _).mpr trivial)
    intro _
    apply All.bind (getCurrentQuestion roomCode)
    rintro ⟨refreshed, question⟩
    cases question with
    | none => trivial
    | some question =>
      exact All.bind (buildQuestionEnded roomCode _ _) fun ⟨_, _⟩ => broadcastToRoom roomCode _ none

lemma answerRejected (playerId : UUID) (e : Exn) :
    Stays roomCode answers (Game.answerRejected playerId e) := by
  cases e <;> first
    | exact All.perform_bind trivial fun _ _ => sendToPlayer roomCode _ _
    | exact sendToPlayer roomCode _ _

lemma sendFeedback (playerId : UUID) (result : WSAnswerResult) (room : Option Room) :
    Stays roomCode answers (Game.sendFeedback playerId result room) :=
  All.ite (fun _ => sendToPlayer roomCode _ _) fun _ => trivial

lemma answerAccepted (playerId : UUID) (answerIds : List String) (result : WSAnswerResult) :
    Stays roomCode answers (Game.answerAccepted roomCode playerId answerIds result) := by
  apply All.perform_bind rfl
  intro room _
  apply All.bind (broadcastToRoom roomCode _ none)
  intro _
  apply All.bind (sendFeedback roomCode playerId result room)
  intro _
  cases room.bind (hostAnswerUpdate playerId answerIds result) with
  | none => trivial
  | some update => exact sendToHost roomCode _

lemma handlePlayerMessage (h : answers) (playerId : UUID) (data : ClientMessage) :
    Stays roomCode answers (Game.handlePlayerMessage roomCode playerId data) := by
  apply All.tryCatch
  · cases data with
    | answer questionId answerIds =>
      exact All.tryCatch (All.bind (submitAnswer roomCode h _ _ _) fun _ =>
        answerAccepted roomCode _ _ _) (answerRejected roomCode playerId)
    | startGame | nextQuestion | malformed => trivial
  · exact fun _ => sendToPlayer roomCode _ _

lemma hostFrames (hostId : UUID) (frames : List ClientMessage) :
    Stays roomCode answers (Game.hostFrames roomCode hostId frames) := by
  apply All.forM
  intro data _
  apply All.perform_bind trivial
  intro _ _
  apply All.tryCatch
  · cases data with
    | startGame => exact handleStartGame roomCode hostId
    | nextQuestion => exact handleNextQuestion roomCode
    | answer _ _ | malformed => trivial
  · exact fun _ => sendToHost roomCode _

lemma attempt {x : Handler α} (h : Stays roomCode answers x) : Stays roomCode answers (attempt x) :=
  All.tryCatch (h.map _) fun _ => trivial

lemma joinRoomRoute (nickname : String) (user : Option UUID) :
    Stays roomCode answers (Game.joinRoomRoute roomCode nickname user) :=
  All.bind (joinRoom roomCode _ _) fun _ => All.perform_bind trivial fun _ _ =>
    (all_perform _).mpr trivial

lemma sendRoomState {send : Frame → Handler Unit}
    (h : ∀ message, Stays roomCode answers (send message)) (state : Option WSRoomState) :
    Stays roomCode answers (Game.sendRoomState send state) := by
  cases state with
  | none => trivial
  | some state => exact h _

lemma sendFinished {send : Frame → Handler Unit}
    (h : ∀ message, Stays roomCode answers (send message)) (room : Room)
    (payload : WSGameFinished → WSGameFinished) :
    Stays roomCode answers (Game.sendFinished send roomCode room payload) := by
  apply All.ite
  · intro _
    apply All.bind (buildGameFinished roomCode)
    intro finished
    cases finished with
    | none => trivial
    | some f => exact h _
  · exact fun _ => trivial

lemma greetPlayer (room : Room) (player : GamePlayer) (state : Option WSRoomState) :
    Stays roomCode answers (Game.greetPlayer roomCode room player state) :=
  All.bind (sendRoomState roomCode (sendToPlayer roomCode _) state) fun _ =>
    All.bind (sendFinished roomCode (sendToPlayer roomCode _) _ _) fun _ =>
      broadcastToRoom roomCode _ _

lemma servePlayer (websocket : Socket) (room : Room) (player : GamePlayer) :
    Stays roomCode answers (Game.servePlayer websocket roomCode room player) := by
  apply All.bind (connect roomCode websocket _)
  intro _
  apply All.bind (setPlayerConnected roomCode _ _)
  intro _
  apply All.bind (attempt roomCode (buildRoomState roomCode false))
  intro state
  cases state with
  | error e => exact All.bind (disconnectFrom roomCode _ _) fun _ => (all_perform _).mpr trivial
  | ok state =>
    apply All.bind (greetPlayer roomCode room player state)
    intro _
    apply All.bind (attempt roomCode ((all_perform _).mpr (by trivial)))
    intro _
    exact All.bind (disconnectFrom roomCode _ _) fun _ =>
      All.bind (attempt roomCode (setPlayerConnected roomCode _ _)) fun _ =>
        broadcastToRoom roomCode _ none

lemma websocketPlayerEndpoint (id : ℕ) (origin wsToken : Option String) :
    Stays roomCode answers (Game.websocketPlayerEndpoint id roomCode origin wsToken) := by
  apply All.ite
  · exact fun _ => (all_perform _).mpr trivial
  intro _
  cases wsToken.filter (· ≠ "") with
  | none => exact (all_perform _).mpr trivial
  | some token =>
    apply All.perform_bind trivial
    intro playerId _
    cases playerId with
    | none => exact (all_perform _).mpr trivial
    | some playerId =>
      apply All.perform_bind rfl
      intro room _
      cases room with
      | none => exact (all_perform _).mpr trivial
      | some room =>
        dsimp only
        split
        · exact servePlayer roomCode _ _ _
        · exact (all_perform _).mpr trivial

lemma serveHost (websocket : Socket) (room : Room) :
    Stays roomCode answers (Game.serveHost websocket roomCode room) := by
  apply All.bind (connectHost roomCode websocket)
  intro _
  apply All.bind (attempt roomCode (buildRoomState roomCode true))
  intro state
  cases state with
  | error e => exact All.bind (disconnectFrom roomCode _ _) fun _ => (all_perform _).mpr trivial
  | ok state =>
    apply All.bind
    · exact All.bind (sendRoomState roomCode (sendToHost roomCode) state) fun _ =>
        sendFinished roomCode (sendToHost roomCode) _ _
    · exact fun _ => All.bind (attempt roomCode ((all_perform _).mpr (by trivial))) fun _ =>
        disconnectFrom roomCode _ _

lemma websocketHostEndpoint (id : ℕ) (origin : Option String) (hostUser : UUID) :
    Stays roomCode answers (Game.websocketHostEndpoint id roomCode origin hostUser) := by
  apply All.ite
  · exact fun _ => (all_perform _).mpr trivial
  intro _
  apply All.perform_bind rfl
  intro room _
  cases room with
  | none => exact (all_perform _).mpr trivial
  | some room =>
    apply All.ite
    · exact fun _ => (all_perform _).mpr trivial
    · exact fun _ => serveHost roomCode _ _

end Router

end Locality

/-- The room for which a coroutine is called, as it is spelled in the call. -/
def Call.room : Call → String
  | .joinRoom roomCode .. | .hostFrames roomCode .. | .playerFrame roomCode ..
  | .playerEndpoint _ roomCode .. | .hostEndpoint _ roomCode .. | .subscriber roomCode
  | .delivery roomCode => roomCode
  | .questionTimeout timer => timer.roomCode

def Call.Answers : Call → Prop
  | .playerFrame .. => True
  | _ => False

lemma code_stays (call : Call) : Stays call.room call.Answers (code call) := by
  cases call with
  | joinRoom roomCode nickname user => exact Locality.joinRoomRoute roomCode nickname user
  | hostFrames roomCode hostId frames => exact Locality.hostFrames roomCode hostId frames
  | playerFrame roomCode playerId data =>
    exact Locality.handlePlayerMessage roomCode trivial playerId data
  | questionTimeout timer => exact Locality.questionTimeout timer.roomCode _ _
  | playerEndpoint id roomCode origin wsToken =>
    exact Locality.websocketPlayerEndpoint roomCode _ _ _
  | hostEndpoint id roomCode origin hostUser => exact Locality.websocketHostEndpoint roomCode _ _ _
  | subscriber roomCode => exact (all_perform _).mpr rfl
  | delivery roomCode => exact Locality.deliverNext roomCode

end Askit.Game

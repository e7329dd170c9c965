import Askit.Game.System

/-! What each coroutine may write: every function of the services and of the router commits only
changes of its own kind, and only the host's handlers store a question order, announce a question
or create a timer. -/

namespace Askit.Game

open Interleaving Coro

variable [Runtime]

/-- What a coroutine may write: the changes it commits, the question orders it stores, the questions
it announces and the timers it creates; and whether it reads frames from a host's socket, works on
the registry, hands out tokens, and stores the start of a question. -/
structure Footprint where
  commits : Changes → Prop
  stores : String → List UUID → Prop
  announces : String → WSQuestion → Prop
  arms : Timer → Prop
  receives : Prop
  registers : Prop
  issues : Prop
  opens : Prop

def Footprint.only (C : Changes → Prop) : Footprint where
  commits := C
  stores _ _ := False
  announces _ _ := False
  arms _ := False
  receives := False
  registers := False
  issues := False
  opens := False

def Footprint.serving (C : Changes → Prop) : Footprint :=
  { Footprint.only C with registers := True }

def Footprint.joining (C : Changes → Prop) : Footprint :=
  { Footprint.only C with issues := True }

def Footprint.Announces (F : Footprint) (roomCode : String) : Frame → Prop
  | .question q => F.announces roomCode q
  | _ => True

def Op.Within (F : Footprint) {β : Type} : Op β → Prop
  | .commit changes => F.commits changes
  | .setQuestions roomCode ids _ => F.stores roomCode ids
  | .publish roomCode e => F.Announces roomCode e.message
  | .createTask timer => F.arms timer
  | .receiveJson => F.receives
  | .setWsToken .. => F.issues
  | .setQuestionStart .. => F.opens
  | .accept _ | .joinRoom .. | .leaveRoom .. | .awaitCancelled _ | .forget .. | .releaseLock
  | .disconnected _ | .close .. | .subscribe _ | .listen _ => F.registers
  | _ => True

abbrev Keeps (F : Footprint) {α : Type} (x : Handler α) : Prop :=
  x.All system.Answers (Op.Within F)

section ConnectionManager

variable {F : Footprint}

lemma sendQuietly_keeps (websocket : Socket) (message : Frame) :
    Keeps F (sendQuietly websocket message) :=
  All.tryCatch ((all_perform _).mpr trivial) fun _ => trivial

lemma sendToHost_keeps (roomCode : String) (message : Frame) :
    Keeps F (sendToHost roomCode message) := by
  refine All.perform_bind trivial fun websocket _ => ?_
  cases websocket with
  | none => trivial
  | some websocket => exact sendQuietly_keeps websocket message

lemma sendToPlayer_keeps (playerId : UUID) (message : Frame) :
    Keeps F (sendToPlayer playerId message) := by
  refine All.perform_bind trivial fun websocket _ => ?_
  cases websocket with
  | none => trivial
  | some websocket => exact sendQuietly_keeps websocket message

lemma sendToLocalRoom_keeps (roomCode : String) (message : Frame) (excludePlayerId : Option UUID) :
    Keeps F (sendToLocalRoom roomCode message excludePlayerId) := by
  refine All.perform_bind trivial fun connections _ => All.forM fun websocket _ => ?_
  exact All.perform_bind trivial fun playerId _ =>
    All.ite (fun _ => trivial) fun _ => sendQuietly_keeps websocket message

lemma broadcastToRoom_keeps (roomCode : String) {message : Frame}
    (h : F.Announces roomCode message)
    (excludePlayerId : Option UUID) : Keeps F (broadcastToRoom roomCode message excludePlayerId) :=
  All.tryCatch ((all_perform _).mpr h) fun _ =>
    sendToLocalRoom_keeps roomCode message excludePlayerId

lemma deliverNext_keeps (hr : F.registers) (roomCode : String) : Keeps F (deliverNext roomCode) :=
  All.perform_bind hr fun _ _ => sendToLocalRoom_keeps roomCode _ _

lemma disconnectFrom_keeps (hr : F.registers) (websocket : Socket) (roomCode : String)
    (playerId : Option UUID) : Keeps F (disconnectFrom websocket roomCode playerId) := by
  refine All.perform_bind hr fun cancelled _ => All.bind ?_ fun _ => (all_perform _).mpr hr
  refine All.ite (fun _ => ?_) fun _ => trivial
  exact All.tryCatch ((all_perform _).mpr hr) fun _ => All.perform_bind hr fun _ _ => trivial

end ConnectionManager

section Services

variable {F : Footprint}

lemma getCurrentQuestion_keeps (roomCode : String) : Keeps F (getCurrentQuestion roomCode) := by
  refine All.perform_bind trivial fun room _ => ?_
  cases room with
  | none => trivial
  | some room =>
    refine All.ite (fun _ => trivial) fun _ => All.perform_bind trivial fun questionIds _ => ?_
    cases questionIds with
    | none => trivial
    | some questionIds =>
      dsimp only
      split
      · exact All.perform_bind trivial fun _ _ => trivial
      · trivial

lemma getLeaderboard_keeps (roomCode : String) : Keeps F (getLeaderboard roomCode) := by
  refine All.perform_bind trivial fun room _ => ?_
  cases room with
  | none => trivial
  | some room =>
    exact All.perform_bind trivial fun _ _ => All.perform_bind trivial fun _ _ => trivial

lemma buildQuestionMessage_keeps (question : QuizQuestion) (questionIndex totalQuestions : ℕ)
    (roomCode : String) (randomizeAnswers : Bool) :
    Keeps F (buildQuestionMessage question questionIndex totalQuestions roomCode
      randomizeAnswers) := by
  refine All.perform_bind trivial fun questionStart _ => All.bind ?_ fun _ => trivial
  cases questionStart with
  | none => exact (all_perform _).mpr trivial
  | some start => trivial

lemma buildQuestionEnded_keeps (roomCode : String) (sessionId : UUID) (question : QuizQuestion) :
    Keeps F (buildQuestionEnded roomCode sessionId question) :=
  All.bind (All.perform_bind trivial fun _ _ => trivial) fun _ =>
    All.bind (getLeaderboard_keeps roomCode) fun _ => trivial

lemma answerDetails_keeps (forHost : Bool) (sessionId : UUID) (question : QuizQuestion) :
    Keeps F (answerDetails forHost sessionId question) :=
  All.ite (fun _ => All.perform_bind trivial fun _ _ => trivial) fun _ => trivial

lemma buildRoomState_keeps (roomCode : String) (forHost : Bool) :
    Keeps F (buildRoomState roomCode forHost) := by
  refine All.perform_bind trivial fun room _ => ?_
  cases room with
  | none => trivial
  | some room =>
    refine All.ite (fun _ => All.bind (getCurrentQuestion_keeps roomCode) fun q => ?_)
      fun _ => trivial
    obtain ⟨refreshed, question⟩ := q
    cases question with
    | none => trivial
    | some question =>
      refine All.bind (buildQuestionMessage_keeps _ _ _ _ _) fun currentQuestion =>
        All.bind (answerDetails_keeps _ _ _) fun details => All.ite (fun _ => ?_) fun _ => trivial
      exact All.bind (buildQuestionEnded_keeps _ _ _) fun _ => trivial

lemma buildGameFinished_keeps (roomCode : String) : Keeps F (buildGameFinished roomCode) := by
  refine All.perform_bind trivial fun room _ => ?_
  cases room with
  | none => trivial
  | some room =>
    exact All.bind (getLeaderboard_keeps roomCode) fun _ => All.perform_bind trivial
      fun _ _ => trivial

lemma questionOrder_keeps {F : Footprint} (room : Room) : Keeps F (questionOrder room) :=
  All.ite (fun _ => (all_perform _).mpr trivial) fun _ => trivial

lemma joinRoom_keeps (hF : ∀ p, p.score = 0 → F.commits { newPlayer := some p })
    (roomCode nickname : String) (user : Option UUID) :
    Keeps F (joinRoom roomCode nickname user) := by
  refine All.perform_bind trivial fun room _ => ?_
  cases room with
  | none => trivial
  | some room =>
    refine All.require_bind fun _ => All.require_bind fun _ => All.require_bind fun _ =>
      All.require_bind fun _ => All.perform_bind trivial fun _ _ => ?_
    exact All.perform_bind (hF _ rfl) fun _ _ => All.perform_bind trivial fun _ _ => trivial

/-- The shape of an answer's commit: the score moves by exactly the points of the record. -/
def Changes.answer (player : Option GamePlayer) (a : GamePlayerAnswer) : Changes where
  player := player.map fun p => ⟨p, { p with score := p.score + a.pointsEarned }⟩
  newAnswer := some a

omit [Runtime] in
@[simp] lemma Changes.newAnswer_answer (player : Option GamePlayer) (a : GamePlayerAnswer) :
    (Changes.answer player a).newAnswer = some a := rfl

omit [Runtime] in
@[simp] lemma Changes.player_answer (player : Option GamePlayer) (a : GamePlayerAnswer) :
    (Changes.answer player a).player =
      player.map fun p => ⟨p, { p with score := p.score + a.pointsEarned }⟩ := rfl

def Changes.OfAnswer (playerId questionId : UUID) (changes : Changes) : Prop :=
  ∃ (player : Option GamePlayer) (a : GamePlayerAnswer), a.key = (playerId, questionId) ∧
    (∀ p ∈ player, p.playerId = playerId) ∧ changes = .answer player a

def ClientMessage.Commits (playerId : UUID) : ClientMessage → Changes → Prop
  | .answer questionId _, changes =>
    ∃ q, Runtime.uuid questionId = some q ∧ changes.OfAnswer playerId q
  | _, _ => False

lemma ClientMessage.Commits.ofAnswer {playerId : UUID} {data : ClientMessage} {changes : Changes}
    (h : data.Commits playerId changes) :
    ∃ questionId answerIds q, data = .answer questionId answerIds ∧
      Runtime.uuid questionId = some q ∧ changes.OfAnswer playerId q := by
  cases data with
  | answer questionId answerIds =>
    obtain ⟨q, hq, hc⟩ := h
    exact ⟨questionId, answerIds, q, rfl, hq, hc⟩
  | startGame | nextQuestion | malformed => exact h.elim

lemma timeTaken_keeps (question : QuizQuestion) (start : Option Time) :
    Keeps F (timeTaken question start) := by
  cases start with
  | none => trivial
  | some start => exact All.perform_bind trivial fun _ _ => trivial

lemma commitAnswer_keeps {C : Changes → Prop} {player : Option GamePlayer}
    {record : GamePlayerAnswer}
    (h : ∀ changes, changes.OfAnswer record.playerId record.questionId → C changes)
    (hp : ∀ p ∈ player, p.playerId = record.playerId) :
    Keeps (.only C) (commitAnswer player record) :=
  All.tryCatch ((all_perform _).mpr (h _ ⟨player, record, rfl, hp, rfl⟩)) fun _ =>
    All.ite (fun _ => All.perform_bind trivial fun _ _ => trivial) fun _ => trivial

lemma submitAnswer_keeps (roomCode : String) (playerId : UUID) (questionId : String)
    (answerIds : List String) :
    Keeps (.only ((ClientMessage.answer questionId answerIds).Commits playerId))
      (submitAnswer roomCode playerId questionId answerIds) := by
  refine All.perform_bind trivial fun room _ => ?_
  cases room with
  | none => trivial
  | some room =>
    refine All.require_bind fun _ => All.perform_bind trivial fun _ _ =>
      All.require_bind fun _ => ?_
    cases hu : Runtime.uuid questionId with
    | none => trivial
    | some submittedQuestionId =>
      refine All.bind (getCurrentQuestion_keeps roomCode) fun q => ?_
      obtain ⟨refreshed, question⟩ := q
      cases question with
      | none => trivial
      | some question =>
        refine All.require_bind fun _ => All.perform_bind trivial fun start _ =>
          All.bind (timeTaken_keeps question start) fun _ => All.perform_bind trivial
            fun row hrow =>
            All.bind (commitAnswer_keeps (fun _ h => ⟨submittedQuestionId, hu, h⟩) ?_) fun _ => ?_
        · intro p hp
          obtain ⟨r, hr, rfl⟩ := Option.mem_map.mp hp
          cases hl : (refreshed.getD room).players.find? fun p => p.playerId = playerId with
          | none =>
            obtain ⟨(s : State), hs⟩ := hrow
            have hget : s.db.players.get? playerId = row := by simpa [system, exec] using hs
            exact Tables.Table.key_get? (hget.trans hr)
          | some p => simpa using List.find?_some hl
        · exact All.perform_bind trivial fun _ _ => All.perform_bind trivial fun _ _ =>
            All.perform_bind trivial fun _ _ => trivial

end Services

section Router

variable {F : Footprint}

lemma setPlayerConnected_keeps (hF : ∀ p b, F.commits { connected := some (p, b) })
    (playerId : UUID) (connected : Bool) : Keeps F (setPlayerConnected playerId connected) :=
  All.perform_bind trivial fun _ _ => (all_perform _).mpr (hF _ _)

lemma announceFinished_keeps (roomCode : String) (room : Room) (finished : WSGameFinished) :
    Keeps F (announceFinished roomCode room finished) :=
  All.ite (fun _ => broadcastToRoom_keeps roomCode (by trivial) none) fun _ =>
    All.bind (sendToHost_keeps _ _) fun _ => All.forM fun _ _ => sendToPlayer_keeps _ _

lemma attempt_keeps {α : Type} {x : Handler α} (h : Keeps F x) : Keeps F (attempt x) :=
  All.tryCatch (h.map _) fun _ => trivial

lemma answerRejected_keeps (playerId : UUID) (e : Exn) : Keeps F (answerRejected playerId e) := by
  cases e <;>
    first
    | exact All.perform_bind trivial fun _ _ => sendToPlayer_keeps _ _
    | exact sendToPlayer_keeps _ _

lemma sendFeedback_keeps (playerId : UUID) (result : WSAnswerResult) (room : Option Room) :
    Keeps F (sendFeedback playerId result room) :=
  All.ite (fun _ => sendToPlayer_keeps _ _) fun _ => trivial

lemma answerAccepted_keeps (roomCode : String) (playerId : UUID) (answerIds : List String)
    (result : WSAnswerResult) : Keeps F (answerAccepted roomCode playerId answerIds result) := by
  refine All.perform_bind trivial fun room _ =>
    All.bind (broadcastToRoom_keeps roomCode (by trivial) none)
    fun _ => All.bind (sendFeedback_keeps playerId result room) fun _ => ?_
  cases room.bind (hostAnswerUpdate playerId answerIds result) with
  | none => trivial
  | some update => exact sendToHost_keeps _ _

lemma handlePlayerMessage_keeps (roomCode : String) (playerId : UUID) (data : ClientMessage) :
    Keeps (.only (data.Commits playerId)) (handlePlayerMessage roomCode playerId data) := by
  refine All.tryCatch ?_ fun _ => sendToPlayer_keeps _ _
  cases data with
  | answer questionId answerIds =>
    exact All.tryCatch (All.bind (submitAnswer_keeps _ _ _ _) fun _ => answerAccepted_keeps _ _ _ _)
      (answerRejected_keeps playerId)
  | startGame | nextQuestion | malformed => trivial

lemma joinRoomRoute_keeps (hF : ∀ p, p.score = 0 → F.commits { newPlayer := some p })
    (hi : F.issues) (roomCode nickname : String) (user : Option UUID) :
    Keeps F (joinRoomRoute roomCode nickname user) :=
  All.bind (joinRoom_keeps hF _ _ _) fun _ => All.perform_bind trivial fun _ _ =>
    (all_perform _).mpr hi

lemma sendRoomState_keeps {send : Frame → Handler Unit} (h : ∀ message, Keeps F (send message))
    (state : Option WSRoomState) : Keeps F (sendRoomState send state) := by
  cases state with
  | none => trivial
  | some state => exact h _

lemma sendFinished_keeps {send : Frame → Handler Unit} (h : ∀ message, Keeps F (send message))
    (roomCode : String) (room : Room) (payload : WSGameFinished → WSGameFinished) :
    Keeps F (sendFinished send roomCode room payload) := by
  refine All.ite (fun _ => All.bind (buildGameFinished_keeps roomCode) fun finished => ?_)
    fun _ => trivial
  cases finished with
  | none => trivial
  | some f => exact h _

lemma greetPlayer_keeps (roomCode : String) (room : Room) (player : GamePlayer)
    (state : Option WSRoomState) : Keeps F (greetPlayer roomCode room player state) := by
  exact All.bind (sendRoomState_keeps (sendToPlayer_keeps _) state) fun _ =>
    All.bind (sendFinished_keeps (sendToPlayer_keeps _) _ _ _) fun _ =>
      broadcastToRoom_keeps roomCode (by trivial) _

lemma connect_keeps (hr : F.registers) (websocket : Socket) (roomCode : String)
    (playerId : Option UUID) : Keeps F (do
      await (.accept websocket)
      await (.joinRoom websocket roomCode playerId)) :=
  All.perform_bind hr fun _ _ => (all_perform _).mpr hr

lemma servePlayer_keeps (hF : ∀ p b, F.commits { connected := some (p, b) }) (hr : F.registers)
    (websocket : Socket) (roomCode : String) (room : Room) (player : GamePlayer) :
    Keeps F (servePlayer websocket roomCode room player) := by
  refine All.bind (connect_keeps hr _ _ _) fun _ =>
    All.bind (setPlayerConnected_keeps hF _ _) fun _ =>
    All.bind (attempt_keeps (buildRoomState_keeps roomCode false)) fun state => ?_
  cases state with
  | error e =>
    exact All.bind (disconnectFrom_keeps hr _ _ _) fun _ => (all_perform _).mpr hr
  | ok state =>
    refine All.bind (greetPlayer_keeps roomCode room player state) fun _ =>
      All.bind (attempt_keeps ((all_perform _).mpr hr)) fun _ =>
        All.bind (disconnectFrom_keeps hr _ _ _) fun _ => ?_
    exact All.bind (attempt_keeps (setPlayerConnected_keeps hF _ _)) fun _ =>
      broadcastToRoom_keeps roomCode (by trivial) none

lemma websocketPlayerEndpoint_keeps (hF : ∀ p b, F.commits { connected := some (p, b) })
    (hr : F.registers) (id : ℕ) (roomCode : String) (origin wsToken : Option String) :
    Keeps F (websocketPlayerEndpoint id roomCode origin wsToken) := by
  have hclose : ∀ w code reason, Keeps F (await (.close w code reason)) :=
    fun _ _ _ => (all_perform _).mpr hr
  refine All.ite (fun _ => hclose _ _ _) fun _ => ?_
  cases wsToken.filter (· ≠ "") with
  | none => exact hclose _ _ _
  | some token =>
    refine All.perform_bind trivial fun playerId _ => ?_
    cases playerId with
    | none => exact hclose _ _ _
    | some playerId =>
      refine All.perform_bind trivial fun room _ => ?_
      cases room with
      | none => exact hclose _ _ _
      | some room =>
        dsimp only
        split
        · exact servePlayer_keeps hF hr _ _ _ _
        · exact hclose _ _ _

lemma greetHost_keeps (roomCode : String) (room : Room) (state : Option WSRoomState) :
    Keeps F (greetHost roomCode room state) := by
  exact All.bind (sendRoomState_keeps (sendToHost_keeps _) state) fun _ =>
    sendFinished_keeps (sendToHost_keeps _) _ _ _

lemma websocketHostEndpoint_keeps (hr : F.registers) (id : ℕ) (roomCode : String)
    (origin : Option String) (hostUser : UUID) :
    Keeps F (websocketHostEndpoint id roomCode origin hostUser) := by
  refine All.ite (fun _ => (all_perform _).mpr hr) fun _ =>
    All.perform_bind trivial fun room _ => ?_
  cases room with
  | none => exact (all_perform _).mpr hr
  | some room =>
    refine All.ite (fun _ => (all_perform _).mpr hr) fun _ =>
      All.bind (connect_keeps hr _ _ _) fun _ =>
        All.bind (attempt_keeps (buildRoomState_keeps roomCode true)) fun state => ?_
    cases state with
    | error e =>
      exact All.bind (disconnectFrom_keeps hr _ _ _) fun _ => (all_perform _).mpr hr
    | ok state =>
      exact All.bind (greetHost_keeps roomCode room state) fun _ =>
        All.bind (attempt_keeps ((all_perform _).mpr hr)) fun _ => disconnectFrom_keeps hr _ _ _

lemma roomCode_of_answers {roomCode : String} {room : Room}
    (h : system.Answers (.getRoom roomCode) (some room)) :
    room.session.roomCode = Runtime.upper roomCode := by
  obtain ⟨(s : State), hs⟩ := h
  have hr : (State.db s).room? (Runtime.upper roomCode) = some room := by
    simpa [system, exec] using hs
  simp only [Db.room?, Option.bind_eq_some_iff, Option.map_eq_some_iff] at hr
  obtain ⟨g, hg, q, -, rfl⟩ := hr
  exact Tables.Table.key_get? hg

def Changes.Closes (roomCode : String) (changes : Changes) : Prop :=
  ∃ s : GameSession, s.roomCode = roomCode ∧
    changes = { session := some ⟨s, { s with status := .revealing }⟩ }

lemma questionTimeout_keeps (roomCode : String) (questionIndex timeLimitMs : ℕ) :
    Keeps (.only (Changes.Closes (Runtime.upper roomCode)))
      (questionTimeout roomCode questionIndex timeLimitMs) := by
  refine All.perform_bind trivial fun _ _ => All.perform_bind trivial fun room hroom => ?_
  cases room with
  | none => trivial
  | some room =>
    refine All.ite (fun _ => trivial) fun _ => All.ite (fun _ => trivial) fun _ => ?_
    refine All.bind ((all_perform _).mpr ⟨room.session, roomCode_of_answers hroom, rfl⟩) fun _ =>
      All.bind (getCurrentQuestion_keeps roomCode) fun q => ?_
    obtain ⟨refreshed, question⟩ := q
    cases question with
    | none => trivial
    | some question =>
      exact All.bind (buildQuestionEnded_keeps _ _ _) fun ⟨_, _⟩ =>
        broadcastToRoom_keeps roomCode (by trivial) none

/-- The commit of a session of the room, which no handler sets back to `waiting`. -/
def Changes.OfSession (roomCode : String) (changes : Changes) : Prop :=
  ∃ s : Dirty GameSession, (s.loaded.roomCode = roomCode ∧ s.current.status ≠ .waiting) ∧
    changes = { session := some s }

def Footprint.host (roomCode : String) : Footprint where
  commits := Changes.OfSession (Runtime.upper roomCode)
  stores room _ := room = roomCode
  announces room _ := room = roomCode
  arms timer := timer.roomCode = roomCode
  receives := False
  registers := False
  issues := False
  opens := True

def Footprint.frames (roomCode : String) : Footprint :=
  { Footprint.host roomCode with receives := True }

def Footprint.started (roomCode : String) : Footprint :=
  { Footprint.host roomCode with stores := fun _ _ => False }

lemma Keeps.host {roomCode : String} {α : Type} {x : Handler α} (h : Keeps (.started roomCode) x) :
    Keeps (.host roomCode) x := by
  refine All.mono h fun o ho => ?_
  cases o <;> first | exact ho.elim | exact ho

lemma endGame_keeps (roomCode : String) : Keeps (.started roomCode) (endGame roomCode) := by
  refine All.perform_bind trivial fun room hroom => ?_
  cases room with
  | none => trivial
  | some room =>
    refine All.perform_bind trivial fun _ _ => All.perform_bind
      ⟨⟨room.session, _⟩, ⟨roomCode_of_answers hroom, by exact nofun⟩, rfl⟩ fun _ _ =>
        All.bind (buildGameFinished_keeps roomCode) fun finished => ?_
    cases finished with
    | none => trivial
    | some f =>
      exact All.bind (announceFinished_keeps roomCode _ _) fun _ => (all_perform _).mpr trivial

lemma advanceToQuestion_keeps (roomCode : String) (questionIndex : ℕ) :
    Keeps (.started roomCode) (advanceToQuestion roomCode questionIndex) := by
  refine All.perform_bind trivial fun room hroom => ?_
  cases room with
  | none => trivial
  | some room =>
    have hs := roomCode_of_answers hroom
    refine All.perform_bind trivial fun questionIds _ => ?_
    cases questionIds with
    | none => trivial
    | some questionIds =>
      refine All.perform_bind trivial fun _ _ => All.ite (fun _ => ?_) fun _ => ?_
      · exact All.perform_bind trivial fun _ _ =>
          All.perform_bind ⟨⟨room.session, _⟩, ⟨hs, by exact nofun⟩, rfl⟩ fun _ _ => trivial
      · refine All.perform_bind ⟨⟨room.session, _⟩, ⟨hs, by exact nofun⟩, rfl⟩ fun _ _ =>
          All.perform_bind trivial fun _ _ => All.perform_bind trivial fun _ _ => ?_
        cases questionIds[questionIndex - 1]? with
        | none => trivial
        | some questionId => exact (all_perform _).mpr trivial

lemma sendQuestion_keeps (roomCode : String) (questionIndex totalQuestions : ℕ) :
    Keeps (.started roomCode) (sendQuestion roomCode questionIndex totalQuestions) := by
  refine All.bind (advanceToQuestion_keeps roomCode questionIndex) fun question => ?_
  cases question with
  | none => exact endGame_keeps roomCode
  | some question =>
    exact All.perform_bind trivial fun room _ => All.bind (buildQuestionMessage_keeps _ _ _ _ _)
      fun message => All.bind (broadcastToRoom_keeps roomCode (by exact rfl) none) fun _ =>
        (all_perform _).mpr rfl

lemma startGame_keeps (roomCode : String) (hostId : UUID) :
    Keeps (.host roomCode) (startGame roomCode hostId) := by
  refine All.perform_bind trivial fun room hroom => ?_
  cases room with
  | none => trivial
  | some room =>
    refine All.require_bind fun _ => All.require_bind fun _ => All.bind ?_ fun questions =>
      All.perform_bind trivial fun _ _ => All.perform_bind
        ⟨⟨room.session, _⟩, ⟨roomCode_of_answers hroom, by exact nofun⟩, rfl⟩ fun _ _ =>
          All.perform_bind rfl fun _ _ => trivial
    exact All.ite (fun _ => (all_perform _).mpr trivial) fun _ => trivial

lemma getCurrentQuestion_returns (roomCode : String) :
    (getCurrentQuestion roomCode).Returns system.Answers fun q =>
      ∀ room ∈ q.1, room.session.roomCode = Runtime.upper roomCode := by
  refine Returns.perform_bind fun room hroom => ?_
  cases room with
  | none => exact (returns_pure _).mpr (by simp)
  | some room =>
    have hs : ∀ r ∈ some room, r.session.roomCode = Runtime.upper roomCode := by
      rintro r ⟨⟩
      exact roomCode_of_answers hroom
    dsimp only
    split
    · exact (returns_pure _).mpr hs
    · refine Returns.perform_bind fun questionIds _ => ?_
      cases questionIds with
      | none => exact (returns_pure _).mpr hs
      | some questionIds =>
        dsimp only
        split
        · exact Returns.perform_bind fun _ _ => (returns_pure _).mpr hs
        · exact (returns_pure _).mpr hs

lemma handleNextQuestion_keeps (roomCode : String) :
    Keeps (.started roomCode) (handleNextQuestion roomCode) := by
  refine All.perform_bind trivial fun room hroom => ?_
  cases room with
  | none => trivial
  | some room =>
    refine All.ite (fun _ => ?_) fun _ => All.ite (fun _ => trivial) fun _ =>
      All.ite (fun _ => endGame_keeps roomCode) fun _ => sendQuestion_keeps roomCode _ _
    refine All.bind_of_returns (getCurrentQuestion_keeps roomCode)
      (getCurrentQuestion_returns roomCode) fun q hq => ?_
    obtain ⟨refreshed, question⟩ := q
    cases question with
    | none => trivial
    | some question =>
      refine All.bind ((all_perform _).mpr
        ⟨⟨(refreshed.getD room).session, _⟩, ⟨?_, by exact nofun⟩, rfl⟩) fun _ =>
          All.bind (buildQuestionEnded_keeps _ _ _) fun ⟨_, _⟩ =>
            broadcastToRoom_keeps roomCode (by trivial) none
      cases refreshed with
      | none => exact roomCode_of_answers hroom
      | some r => exact hq r rfl

lemma handleStartGame_keeps (roomCode : String) (hostId : UUID) :
    Keeps (.host roomCode) (handleStartGame roomCode hostId) :=
  All.bind (startGame_keeps roomCode hostId) fun questions =>
    All.bind (All.forM fun _ _ => All.bind (broadcastToRoom_keeps roomCode (by trivial) none)
      fun _ => (all_perform _).mpr trivial) fun _ => (sendQuestion_keeps roomCode _ _).host

lemma handleHostMessage_keeps (roomCode : String) (hostId : UUID) (data : ClientMessage) :
    Keeps (.host roomCode) (handleHostMessage roomCode hostId data) := by
  refine All.tryCatch ?_ fun _ => sendToHost_keeps _ _
  cases data with
  | startGame => exact handleStartGame_keeps roomCode hostId
  | nextQuestion => exact (handleNextQuestion_keeps roomCode).host
  | answer _ _ | malformed => trivial

lemma Keeps.frames {roomCode : String} {α : Type} {x : Handler α} (h : Keeps (.host roomCode) x) :
    Keeps (.frames roomCode) x := by
  refine All.mono h fun o ho => ?_
  cases o <;> first | exact ho.elim | exact ho

lemma hostFrames_keeps (roomCode : String) (hostId : UUID) (frames : List ClientMessage) :
    Keeps (.frames roomCode) (hostFrames roomCode hostId frames) :=
  All.forM fun data _ => All.perform_bind trivial fun _ _ =>
    (handleHostMessage_keeps roomCode hostId data).frames

end Router

def Call.footprint : Call → Footprint
  | .joinRoom _ _ _ =>
    .joining fun c => ∃ p : GamePlayer, p.score = 0 ∧ c = { newPlayer := some p }
  | .hostFrames roomCode _ _ => .frames roomCode
  | .playerFrame _ playerId data => .only (data.Commits playerId)
  | .questionTimeout timer => .only (Changes.Closes (Runtime.upper timer.roomCode))
  | .playerEndpoint _ _ _ _ => .serving fun c => ∃ p, c = { connected := some p }
  | .hostEndpoint _ _ _ _ | .subscriber _ | .delivery _ => .serving fun _ => False

lemma code_keeps (call : Call) : Keeps call.footprint (code call) := by
  cases call with
  | joinRoom roomCode nickname user =>
    exact joinRoomRoute_keeps (by exact fun p hp => ⟨p, hp, rfl⟩)
      (by trivial) roomCode nickname user
  | hostFrames roomCode hostId frames => exact hostFrames_keeps roomCode hostId frames
  | playerFrame roomCode playerId data => exact handlePlayerMessage_keeps roomCode playerId data
  | questionTimeout timer => exact questionTimeout_keeps _ _ _
  | playerEndpoint id roomCode origin wsToken =>
    exact websocketPlayerEndpoint_keeps (by exact fun p b => ⟨(p, b), rfl⟩) (by trivial) id roomCode
      origin wsToken
  | hostEndpoint id roomCode origin hostUser =>
    exact websocketHostEndpoint_keeps (by trivial) _ _ _ _
  | subscriber roomCode => exact (all_perform _).mpr (by trivial)
  | delivery roomCode => exact deliverNext_keeps (by trivial) roomCode

def Op.OffRegistry : {β : Type} → Op β → Prop
  | _, .accept _ | _, .joinRoom .. | _, .leaveRoom .. | _, .awaitCancelled _ | _, .forget ..
  | _, .releaseLock | _, .disconnected _ | _, .close .. | _, .subscribe _ | _, .listen _ => False
  | _, _ => True

abbrev OffRegistry {α : Type} (x : Handler α) : Prop := x.All system.Answers Op.OffRegistry

lemma Keeps.off {F : Footprint} {α : Type} {x : Handler α} (h : Keeps F x) (hF : ¬F.registers) :
    OffRegistry x := by
  apply All.mono h
  intro β o ho
  cases o <;> trivial

namespace Call

variable {call : Call} {changes : Changes}

lemma status_of_footprint (h : call.footprint.commits changes) :
    ∀ s ∈ changes.session, s.current.status ≠ .waiting := by
  intro s hs
  cases call with
  | hostFrames room hostId frames =>
    obtain ⟨d, hd, rfl⟩ := h
    cases hs
    exact hd.2
  | questionTimeout timer =>
    obtain ⟨g, hg, rfl⟩ := h
    cases hs
    exact nofun
  | playerFrame room playerId data =>
    obtain ⟨-, -, -, -, -, p, a, -, -, rfl⟩ := h.ofAnswer
    cases hs
  | joinRoom room nickname user =>
    obtain ⟨p, -, rfl⟩ := h
    cases hs
  | playerEndpoint id room origin wsToken =>
    obtain ⟨p, rfl⟩ := h
    cases hs
  | hostEndpoint | subscriber | delivery => exact h.elim

lemma newPlayer_of_footprint (h : call.footprint.commits changes)
    (hc : ∀ roomCode nickname user, call ≠ .joinRoom roomCode nickname user) :
    changes.newPlayer = none := by
  cases call with
  | joinRoom room nickname user => exact (hc room nickname user rfl).elim
  | hostFrames room hostId frames =>
    obtain ⟨d, -, rfl⟩ := h
    rfl
  | questionTimeout timer =>
    obtain ⟨g, -, rfl⟩ := h
    rfl
  | playerFrame room playerId data =>
    obtain ⟨-, -, -, -, -, p, a, -, -, rfl⟩ := h.ofAnswer
    rfl
  | playerEndpoint id room origin wsToken =>
    obtain ⟨p, rfl⟩ := h
    rfl
  | hostEndpoint | subscriber | delivery => exact h.elim

end Call

end Askit.Game

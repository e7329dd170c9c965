import Askit.Game.System

/-! Which messages a coroutine puts on the wire. -/

namespace Askit.Game

open Interleaving Coro

variable [Runtime]

/-- What is sent or published satisfies `F`. -/
def Op.Sends (F : Frame → Prop) : {β : Type} → Op β → Prop
  | _, .sendJson _ message => F message
  | _, .publish _ envelope => F envelope.message
  | _, _ => True

abbrev Sends (F : Frame → Prop) {α : Type} (x : Handler α) :
    Prop := x.All system.Answers (Op.Sends F)

namespace Messages

variable {F : Frame → Prop} {roomCode : String}

lemma sendQuietly (websocket : Socket) {message : Frame} (h : F message) :
    Sends F (Game.sendQuietly websocket message) :=
  All.tryCatch ((all_perform _).mpr h) fun _ => trivial

lemma sendToHost {message : Frame} (h : F message) :
    Sends F (Game.sendToHost roomCode message) := by
  apply All.perform_bind trivial
  intro websocket _
  cases websocket with
  | none => trivial
  | some websocket => exact sendQuietly websocket h

lemma sendToPlayer (playerId : UUID) {message : Frame} (h : F message) :
    Sends F (Game.sendToPlayer playerId message) := by
  apply All.perform_bind trivial
  intro websocket _
  cases websocket with
  | none => trivial
  | some websocket => exact sendQuietly websocket h

lemma sendToLocalRoom {message : Frame} (h : F message) (excludePlayerId : Option UUID) :
    Sends F (Game.sendToLocalRoom roomCode message excludePlayerId) := by
  apply All.perform_bind trivial
  intro connections _
  apply All.forM
  intro websocket _
  exact All.perform_bind trivial fun playerId _ => All.ite (fun _ => trivial) fun _ =>
    sendQuietly websocket h

lemma broadcastToRoom {message : Frame} (h : F message) (excludePlayerId : Option UUID) :
    Sends F (Game.broadcastToRoom roomCode message excludePlayerId) :=
  All.tryCatch ((all_perform _).mpr h) fun _ => sendToLocalRoom h excludePlayerId

lemma disconnectFrom (websocket : Socket) (playerId : Option UUID) :
    Sends F (Game.disconnectFrom websocket roomCode playerId) := by
  apply All.perform_bind trivial
  intro cancelled _
  apply All.bind
  · apply All.ite
    · intro _
      exact All.tryCatch ((all_perform _).mpr trivial) fun _ => All.perform_bind trivial
        fun _ _ => trivial
    · exact fun _ => trivial
  · exact fun _ => (all_perform _).mpr trivial

lemma setPlayerConnected (playerId : UUID) (connected : Bool) :
    Sends F (Game.setPlayerConnected playerId connected) :=
  All.perform_bind trivial fun _ _ => (all_perform _).mpr trivial

lemma attempt {α : Type} {x : Handler α} (h : Sends F x) : Sends F (Game.attempt x) :=
  All.tryCatch (h.map _) fun _ => trivial

lemma getCurrentQuestion : Sends F (Game.getCurrentQuestion roomCode) := by
  apply All.perform_bind trivial
  intro room _
  cases room with
  | none => trivial
  | some room =>
    apply All.ite
    · exact fun _ => trivial
    intro _
    apply All.perform_bind trivial
    intro questionIds _
    cases questionIds with
    | none => trivial
    | some questionIds =>
      dsimp only
      split
      · exact All.perform_bind trivial fun _ _ => trivial
      · trivial

lemma getLeaderboard : Sends F (Game.getLeaderboard roomCode) := by
  apply All.perform_bind trivial
  intro room _
  cases room with
  | none => trivial
  | some room =>
    exact All.perform_bind trivial fun _ _ => All.perform_bind trivial fun _ _ => trivial

lemma computeAnswerDistribution (sessionId : UUID) (question : QuizQuestion) :
    Sends F (Game.computeAnswerDistribution sessionId question) :=
  All.perform_bind trivial fun _ _ => trivial

lemma buildQuestionEnded (sessionId : UUID) (question : QuizQuestion) :
    Sends F (Game.buildQuestionEnded roomCode sessionId question) :=
  All.bind (computeAnswerDistribution sessionId question) fun _ => All.bind getLeaderboard
    fun _ => trivial

lemma answerDetails (forHost : Bool) (sessionId : UUID) (question : QuizQuestion) :
    Sends F (Game.answerDetails forHost sessionId question) :=
  All.ite (fun _ => All.perform_bind trivial fun _ _ => trivial) fun _ => trivial

lemma buildGameFinished : Sends F (Game.buildGameFinished roomCode) := by
  apply All.perform_bind trivial
  intro room _
  cases room with
  | none => trivial
  | some room =>
    apply All.bind getLeaderboard
    exact fun _ => All.perform_bind trivial fun _ _ => trivial

lemma announceFinished (hF : ∀ finished, F (.gameFinished finished)) (room : Room)
    (finished : WSGameFinished) :
    Sends F (Game.announceFinished roomCode room finished) :=
  All.ite (fun _ => broadcastToRoom (hF _) _) fun _ =>
    All.bind (sendToHost (hF _)) fun _ => All.forM fun targetId _ => sendToPlayer targetId (hF _)

lemma endGame (hF : ∀ finished, F (.gameFinished finished)) : Sends F (Game.endGame roomCode) := by
  apply All.perform_bind trivial
  intro room _
  cases room with
  | none => trivial
  | some room =>
    apply All.perform_bind trivial
    intro endedAt _
    apply All.perform_bind trivial
    intro _ _
    apply All.bind buildGameFinished
    rintro (_ | ⟨room, finished⟩)
    · trivial
    · exact All.bind (announceFinished hF room finished) fun _ => (all_perform _).mpr trivial

lemma sendFinished {send : Frame → Handler Unit}
    (hsend : ∀ finished, Sends F (send (.gameFinished finished))) (room : Room)
    (payload : WSGameFinished → WSGameFinished) :
    Sends F (Game.sendFinished send roomCode room payload) := by
  apply All.ite
  · intro _
    apply All.bind buildGameFinished
    rintro (_ | ⟨_, finished⟩)
    · trivial
    · exact hsend _
  · exact fun _ => trivial

lemma leavePlayer (hF : ∀ playerId nickname, F (.playerLeft playerId nickname)) (websocket : Socket)
    (player : GamePlayer) : Sends F (Game.leavePlayer websocket roomCode player) := by
  apply All.bind (disconnectFrom websocket (some player.playerId))
  intro _
  apply All.bind (attempt (setPlayerConnected player.playerId false))
  exact fun _ => broadcastToRoom (hF _ _) none

end Messages

end Askit.Game

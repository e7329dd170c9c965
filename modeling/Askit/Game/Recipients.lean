import Askit.Game.LiveFeed
import Askit.Game.Locality
import Askit.Game.Messages

/-! Which socket is sent which frame, and when. What only the host may see goes to the host's
sockets, what is one player's to sockets that have shown the player's token, and correct answers are
shown after the question is closed. -/

namespace Askit.Game

open Interleaving Machine Coro Tables

def Frame.Shared : Frame → Prop
  | .hostAnswerUpdate _ | .roomState _ | .answerResult _ | .error .. => False
  | .gameFinished finished => finished.publicResults = true
  | _ => True

section

variable [Runtime]

def HostSocket (c : system.Config) (roomCode : String) (websocket : Socket) : Prop :=
  ∃ j id origin hostUser room, c.calls[j]? = some (.hostEndpoint id roomCode origin hostUser) ∧
    websocket = ⟨.host, id⟩ ∧ ⟨j, .getRoom roomCode, .ok (some room)⟩ ∈ c.world.history ∧
      room.session.hostId = hostUser

def PlayerSocket (c : system.Config) (roomCode : String) (playerId : UUID) (websocket : Socket) :
    Prop :=
  ∃ j id origin token room, c.calls[j]? = some (.playerEndpoint id roomCode origin (some token)) ∧
    websocket = ⟨.player, id⟩ ∧ ⟨j, .getWsToken token, .ok (some playerId)⟩ ∈ c.world.history ∧
    ⟨j, .getRoom roomCode, .ok (some room)⟩ ∈ c.world.history ∧ ∃ p ∈ room.players,
      p.playerId = playerId

def RoomSocket (c : system.Config) (roomCode : String) (websocket : Socket) : Prop :=
  HostSocket c roomCode websocket ∨ ∃ playerId, PlayerSocket c roomCode playerId websocket

def OwnSocket (c : system.Config) (roomCode : String) (playerId : UUID) (websocket : Socket) :
    Prop :=
  ∃ code, Runtime.upper code = Runtime.upper roomCode ∧ PlayerSocket c code playerId websocket

def Entitled (c : system.Config) (call : Call) (websocket : Socket) : Frame → Prop
  | .hostAnswerUpdate _ => HostSocket c call.room websocket
  | .answerResult _ => ∃ playerId data, call = .playerFrame call.room playerId data ∧
      OwnSocket c call.room playerId websocket
  | .error .. => HostSocket c call.room websocket ∨ ∃ playerId data,
      call = .playerFrame call.room playerId data ∧ OwnSocket c call.room playerId websocket
  | .roomState state => HostSocket c call.room websocket ∨
      state.hostAnswerDetails = [] ∧ ∃ playerId, OwnSocket c call.room playerId websocket
  | .gameFinished finished => HostSocket c call.room websocket ∨ ∃ playerId, OwnSocket c call.room
      playerId websocket ∧
      (finished.publicResults = false → ∀ e ∈ finished.finalLeaderboard, e.playerId = playerId)
  | _ => RoomSocket c call.room websocket

def Closes (j : ℕ) (roomCode : String) (index : ℕ) (history : List (Event Op Exn)) : Prop :=
  ∃ g, ⟨j, .commit { session := some ⟨g, { g with status := .revealing }⟩ }, .ok ()⟩ ∈ history ∧
    g.roomCode = Runtime.upper roomCode ∧ g.currentQuestionIndex = index

def FindsClosed (j : ℕ) (roomCode : String) (index : ℕ) (history : List (Event Op Exn)) : Prop :=
  ∃ room, ⟨j, .getRoom roomCode, .ok (some room)⟩ ∈ history ∧ room.session.status = .revealing ∧
    room.session.currentQuestionIndex = index

def Overtaken (j : ℕ) (call : Call) (index : ℕ) (history : List (Event Op Exn)) : Prop :=
  ∃ timer room, call = .questionTimeout timer ∧ Closes j timer.roomCode
    timer.questionIndex history ∧
    ⟨j, .getRoom timer.roomCode, .ok (some room)⟩ ∈ history ∧
      room.session.currentQuestionIndex = index ∧
    index ≠ timer.questionIndex

def Shows (j : ℕ) (roomCode : String) (index : ℕ) (ended : WSQuestionEnded)
    (history : List (Event Op Exn)) : Prop :=
  0 < index ∧ ∃ ids question, ⟨j, .getQuestions roomCode, .ok (some ids)⟩ ∈ history ∧
    ids[index - 1]? = some question.questionId ∧
      ⟨j, .getQuestion question.questionId, .ok (some question)⟩ ∈ history ∧
    ended.questionId = question.questionId ∧ ended.correctAnswerIds = correctAnswerIds question

def Earned (roomCode : String) (playerId : UUID) (result : WSAnswerResult)
    (history : List (Event Op Exn)) : Prop :=
  ∃ j player record question room, ⟨j, .commit (.answer player record), .ok ()⟩ ∈ history ∧
    record.playerId = playerId ∧ ⟨j, .getQuestion record.questionId,
      .ok (some question)⟩ ∈ history ∧
    result = ⟨record.isCorrect, correctAnswerIds question, record.pointsEarned,
      record.timeTakenMs⟩ ∧
    ⟨j, .getRoom roomCode, .ok (some room)⟩ ∈ history ∧ room.session.showImmediateFeedback = true

/-- The correct answers that the frame shows may be known to those who are sent it by the
process. -/
def Due (j : ℕ) (call : Call) (history : List (Event Op Exn)) : Frame → Prop
  | .answerResult result => ∃ playerId data, call = .playerFrame call.room playerId data ∧
      Earned call.room playerId result history
  | .questionEnded ended => ∃ index, Shows j call.room index ended history ∧
      (Closes j call.room index history ∨ Overtaken j call index history)
  | .roomState state => ∀ ended ∈ state.questionEnded, ∃ index, Shows j call.room index
      ended history ∧
      FindsClosed j call.room index history
  | _ => True

def Traceable (c : system.Config) (i : ℕ) (call : Call) (history : List (Event Op Exn))
    (message : Frame) : Prop :=
  Due i call history message ∨
    message.Shared ∧ ∃ j call', c.calls[j]? = some call' ∧ call'.room = call.room ∧
      Due j call' history message

section Mono

variable {roomCode : String} {l l' : List (Event Op Exn)}

lemma Closes.mono {j index : ℕ} (h : Closes j roomCode index l) (hl : l ⊆ l') :
    Closes j roomCode index l' := by
  obtain ⟨g, hev, hg⟩ := h
  exact ⟨g, hl hev, hg⟩

omit [Runtime] in
lemma FindsClosed.mono {j index : ℕ} (h : FindsClosed j roomCode index l) (hl : l ⊆ l') :
    FindsClosed j roomCode index l' := by
  obtain ⟨room, hev, hroom⟩ := h
  exact ⟨room, hl hev, hroom⟩

lemma Overtaken.mono {j index : ℕ} {call : Call} (h : Overtaken j call index l) (hl : l ⊆ l') :
    Overtaken j call index l' := by
  obtain ⟨timer, room, hcall, hcloses, hread, hindex⟩ := h
  exact ⟨timer, room, hcall, hcloses.mono hl, hl hread, hindex⟩

omit [Runtime] in
lemma Shows.mono {j index : ℕ} {ended : WSQuestionEnded} (h : Shows j roomCode index ended l)
    (hl : l ⊆ l') :
    Shows j roomCode index ended l' := by
  obtain ⟨hindex, ids, question, hids, hid, hquestion, hended⟩ := h
  exact ⟨hindex, ids, question, hl hids, hid, hl hquestion, hended⟩

omit [Runtime] in
lemma Earned.mono {playerId : UUID} {result : WSAnswerResult}
    (h : Earned roomCode playerId result l) (hl : l ⊆ l') :
    Earned roomCode playerId result l' := by
  obtain ⟨j, player, record, question, room, hcommit, hp, hq, hr, hroom, hshown⟩ := h
  exact ⟨j, player, record, question, room, hl hcommit, hp, hl hq, hr, hl hroom, hshown⟩

end Mono

section Extends

variable {c d : system.Config} {roomCode : String} {playerId : UUID} {websocket : Socket}

def Extends (c d : system.Config) :
    Prop := c.calls <+: d.calls ∧ c.world.history <+: d.world.history

lemma Extends.called (h : Extends c d) {j : ℕ} {call : Call} (hj : c.calls[j]? = some call) :
    d.calls[j]? = some call := by
  obtain ⟨l, hl⟩ := h.1
  rw [← hl, List.getElem?_append_left (List.getElem?_eq_some_iff.mp hj).1]
  exact hj

lemma extends_step (a : system.Act) (c : system.Config) : Extends c (step a c) :=
    ⟨calls_grow a c, history_grows a c⟩

lemma HostSocket.mono (h : HostSocket c roomCode websocket) (hd : Extends c d) :
    HostSocket d roomCode websocket := by
  obtain ⟨j, id, origin, hostUser, room, hcall, hw, hread, hhost⟩ := h
  exact ⟨j, id, origin, hostUser, room, hd.called hcall, hw, hd.2.subset hread, hhost⟩

lemma PlayerSocket.mono (h : PlayerSocket c roomCode playerId websocket) (hd : Extends c d) :
    PlayerSocket d roomCode playerId websocket := by
  obtain ⟨j, id, origin, token, room, hcall, hw, htoken, hread, hp⟩ := h
  exact ⟨j, id, origin, token, room, hd.called hcall, hw, hd.2.subset htoken, hd.2.subset hread, hp⟩

lemma RoomSocket.mono (h : RoomSocket c roomCode websocket) (hd : Extends c d) :
    RoomSocket d roomCode websocket := by
  rcases h with h | ⟨playerId, h⟩
  · exact .inl (h.mono hd)
  · exact .inr ⟨playerId, h.mono hd⟩

end Extends

namespace Recipients

abbrev Ev := Event Op Exn

variable {i : ℕ} {call : Call} {roomCode : String} {playerId : UUID} {websocket : Socket}
    {message : Frame}
variable {l l' : List Ev} {α β γ : Type}

lemma due_mono (h : Due i call l message) (hl : l ⊆ l') : Due i call l' message := by
  cases message with
  | answerResult result =>
    obtain ⟨playerId, data, hcall, hr⟩ := h
    exact ⟨playerId, data, hcall, hr.mono hl⟩
  | questionEnded ended =>
    obtain ⟨index, hshows, hclosed⟩ := h
    exact ⟨index, hshows.mono hl, hclosed.imp (·.mono hl) (·.mono hl)⟩
  | roomState state =>
    intro ended hended
    obtain ⟨index, hshows, hclosed⟩ := h ended hended
    exact ⟨index, hshows.mono hl, hclosed.mono hl⟩
  | _ => trivial

def Finds (i : ℕ) (call : Call) (l : List Ev) (playerId : UUID) : Prop :=
  ∃ room, ⟨i, .getRoom call.room, .ok (some room)⟩ ∈ l ∧ ∃ p ∈ room.players, p.playerId = playerId

omit [Runtime] in
lemma Finds.mono (h : Finds i call l playerId) (hl : l ⊆ l') : Finds i call l' playerId := by
  obtain ⟨room, hread, hp⟩ := h
  exact ⟨room, hl hread, hp⟩

def Personal (i : ℕ) (call : Call) (l : List Ev) (playerId : UUID) : Frame → Prop
  | .roomState state => state.hostAnswerDetails = [] ∧ Finds i call l playerId
  | .answerResult _ | .error .. => ∃ data, call = .playerFrame call.room playerId data
  | .gameFinished finished => Finds i call l playerId ∧ ∃ room room',
      ⟨i, .getRoom call.room, .ok (some room)⟩ ∈ l ∧
      ⟨i, .getRoom call.room, .ok (some room')⟩ ∈ l ∧ finished.publicResults =
        room'.session.publicResults ∧
      (room.session.publicResults = true ∨ ∀ e ∈ finished.finalLeaderboard, e.playerId = playerId)
  | _ => False

inductive Sent (i : ℕ) (call : Call) (l : List Ev) (websocket : Socket) : Frame → Prop
  | host {message : Frame} (found : ⟨i, .hostSocket call.room, .ok (some websocket)⟩ ∈ l)
      (own : ∀ result, message ≠ .answerResult result) (due : Due i call l message) :
        Sent i call l websocket message
  | player {message : Frame} (playerId : UUID)
      (found : ⟨i, .playerSocket playerId, .ok (some websocket)⟩ ∈ l)
      (personal : Personal i call l playerId message) (due : Due i call l message) :
        Sent i call l websocket message
  | room {message : Frame} (sockets : List Socket)
      (found : ⟨i, .roomSockets call.room, .ok sockets⟩ ∈ l)
      (mem : websocket ∈ sockets) (shared : message.Shared) (due : Due i call l message) :
        Sent i call l websocket message
  | relay (sockets : List Socket) (e : Envelope)
      (found : ⟨i, .roomSockets call.room, .ok sockets⟩ ∈ l)
      (mem : websocket ∈ sockets) (heard : ⟨i, .listen call.room, .ok e⟩ ∈ l) :
        Sent i call l websocket e.message

def Admitted (i : ℕ) (call : Call) (l : List Ev) (websocket : Socket) (roomCode : String) :
    Option UUID → Prop
  | some playerId => ∃ id origin token room, call =
    .playerEndpoint id roomCode origin (some token) ∧
      websocket = ⟨.player, id⟩ ∧ ⟨i, .getWsToken token, .ok (some playerId)⟩ ∈ l ∧
      ⟨i, .getRoom roomCode, .ok (some room)⟩ ∈ l ∧ ∃ p ∈ room.players, p.playerId = playerId
  | none => ∃ id origin hostUser room, call = .hostEndpoint id roomCode origin hostUser ∧
      websocket = ⟨.host, id⟩ ∧
      ⟨i, .getRoom roomCode, .ok (some room)⟩ ∈ l ∧ room.session.hostId = hostUser

/-- What a process may send, publish and register, given what it has done before. -/
def Duty (call : Call) (l : List Ev) : Ev → Prop
  | ⟨i, .sendJson websocket message, _⟩ => Sent i call l websocket message
  | ⟨i, .publish room e, _⟩ => room = call.room ∧ e.message.Shared ∧ Due i call l e.message
  | ⟨i, .joinRoom websocket room playerId, _⟩ => Admitted i call l websocket room playerId
  | _ => True

abbrev Follows (i : ℕ) (call : Call) (Q : Except Exn α → List Ev → Prop) (x : Handler α)
    (l : List Ev) : Prop :=
  x.Follows system.Answers i (Duty call) Q l

def Quiet : {β : Type} → Op β → Prop
  | _, .sendJson .. | _, .publish .. | _, .joinRoom .. => False
  | _, _ => True

lemma quiet_duty {o : Op β} (ho : Quiet o) (r : Except Exn β) : Duty call l ⟨i, o, r⟩ := by
  cases o with
  | sendJson | publish | joinRoom => exact ho.elim
  | _ => trivial

lemma quiet_follows {x : Handler α} (hx : x.All system.Answers Quiet) :
    Follows i call (fun _ l' => l <+: l') x l :=
  .of_all hx (fun _ r _ ho _ hl => ⟨quiet_duty ho r, hl.trans (List.prefix_append _ _)⟩)
    (List.prefix_refl l)

lemma quiet_bind {o : Op γ} {f : γ → Handler β} {Q : Except Exn β → List Ev → Prop} (ho : Quiet o)
    (hf : ∀ a, system.Answers o a → Follows i call Q (f a) (l ++ [⟨i, o, .ok a⟩]))
    (he : ∀ e, Q (.error e) (l ++ [⟨i, o, .error e⟩])) : Follows i call Q (await o >>= f) l :=
  .perform_bind (fun r _ => quiet_duty ho r) hf he

lemma quiet_of {x : Handler α} (hs : Sends (fun _ => False) x) (ho : OffRegistry x) :
    x.All system.Answers Quiet := by
  apply (hs.and ho).mono
  rintro β o ⟨hs, ho⟩
  cases o with
  | sendJson | publish => exact hs.elim
  | joinRoom => exact ho.elim
  | _ => trivial

section ConnectionManager

omit [Runtime] in
lemma Personal.mono (h : Personal i call l playerId message) (hl : l ⊆ l') :
    Personal i call l' playerId message := by
  cases message with
  | gameFinished finished =>
    obtain ⟨hfinds, room, room', hroom, hroom', h⟩ := h
    exact ⟨hfinds.mono hl, room, room', hl hroom, hl hroom', h⟩
  | roomState state => exact ⟨h.1, h.2.mono hl⟩
  | _ => exact h

lemma Sent.mono (h : Sent i call l websocket message) (hl : l ⊆ l') :
    Sent i call l' websocket message := by
  cases h with
  | host found own due => exact .host (hl found) own (due_mono due hl)
  | player playerId found personal due =>
    exact .player playerId (hl found) (personal.mono hl) (due_mono due hl)
  | room sockets found mem shared due => exact .room sockets (hl found) mem shared (due_mono due hl)
  | relay sockets e found mem heard => exact .relay sockets e (hl found) mem (hl heard)

lemma sendQuietly_follows (h : Sent i call l websocket message) :
    Follows i call (fun _ l' => l <+: l') (sendQuietly websocket message) l := by
  apply Follows.tryCatch (S := fun _ l' => l <+: l')
  · exact Follows.perform fun r _ => ⟨h, List.prefix_append _ _⟩
  · exact fun _ _ h => h
  · exact fun _ _ h => h

lemma sendToHost_follows (hown : ∀ result, message ≠ .answerResult result)
    (hdue : Due i call l message) :
    Follows i call (fun _ l' => l <+: l') (sendToHost call.room message) l := by
  apply quiet_bind (by trivial)
  · rintro (_ | websocket) -
    · exact List.prefix_append _ _
    · have hsent : Sent i call (l ++ [⟨i, .hostSocket call.room, .ok (some websocket)⟩])
          websocket message :=
        .host (by simp) hown (due_mono hdue (List.subset_append_left _ _))
      exact (sendQuietly_follows hsent).mono fun _ _ hl => (List.prefix_append _ _).trans hl
  · exact fun _ => List.prefix_append _ _

lemma sendToPlayer_follows (hpersonal : Personal i call l playerId message)
    (hdue : Due i call l message) :
    Follows i call (fun _ l' => l <+: l') (sendToPlayer playerId message) l := by
  apply quiet_bind (by trivial)
  · rintro (_ | websocket) -
    · exact List.prefix_append _ _
    · have hl : l ⊆ l ++ [⟨i, .playerSocket playerId, .ok (some websocket)⟩] :=
        List.subset_append_left _ _
      have hsent : Sent i call (l ++ [⟨i, .playerSocket playerId, .ok (some websocket)⟩])
          websocket message :=
        .player playerId (by simp) (hpersonal.mono hl) (due_mono hdue hl)
      exact (sendQuietly_follows hsent).mono fun _ _ hl => (List.prefix_append _ _).trans hl
  · exact fun _ => List.prefix_append _ _

lemma sendToLocalRoom_follows (excludePlayerId : Option UUID)
    (h : ∀ sockets, ∀ w ∈ sockets,
      Sent i call (l ++ [⟨i, .roomSockets call.room, .ok sockets⟩]) w message) :
    Follows i call (fun _ l' => l <+: l')
      (sendToLocalRoom call.room message excludePlayerId) l := by
  apply quiet_bind (by trivial)
  swap
  · exact fun _ => List.prefix_append _ _
  intro connections _
  have hsends : Follows i call (fun _ l' =>
    l ++ [⟨i, .roomSockets call.room, .ok connections⟩] <+: l')
      (connections.forM fun w => do
        let playerId ← await (.socketPlayer w)
        if excludePlayerId.isSome ∧ playerId = excludePlayerId then pure ()
          else sendQuietly w message)
      (l ++ [⟨i, .roomSockets call.room, .ok connections⟩]) := by
    apply Follows.forM _ (List.prefix_refl _)
    intro w hw l₁ h₁
    apply quiet_bind (by trivial)
    swap
    · exact fun _ => h₁.trans (List.prefix_append _ _)
    intro found _
    apply Follows.ite
    · exact fun _ => h₁.trans (List.prefix_append _ _)
    intro _
    have hsent : Sent i call (l₁ ++ [⟨i, .socketPlayer w, .ok found⟩]) w message :=
      (h connections w hw).mono (h₁.trans (List.prefix_append _ _)).subset
    exact (sendQuietly_follows hsent).mono fun _ _ hl =>
      (h₁.trans (List.prefix_append _ _)).trans hl
  exact hsends.mono fun _ _ hl => (List.prefix_append _ _).trans hl

lemma broadcastToRoom_follows (excludePlayerId : Option UUID) (hshared : message.Shared)
    (hdue : Due i call l message) :
    Follows i call (fun _ l' => l <+: l')
      (broadcastToRoom call.room message excludePlayerId) l := by
  apply Follows.tryCatch (S := fun _ l' => l <+: l')
  · exact Follows.perform fun _ _ => ⟨⟨rfl, hshared, hdue⟩, List.prefix_append _ _⟩
  · exact fun _ _ h => h
  · intro _ l₁ h₁
    have hlocal : Follows i call (fun _ l' => l₁ <+: l')
        (sendToLocalRoom call.room message excludePlayerId) l₁ := by
      apply sendToLocalRoom_follows
      intro sockets w hw
      exact .room sockets (by simp) hw hshared
        (due_mono hdue (h₁.trans (List.prefix_append _ _)).subset)
    exact hlocal.mono fun _ _ hl => h₁.trans hl

lemma deliverNext_follows : Follows i call (fun _ _ => True) (deliverNext call.room) l := by
  apply quiet_bind (by trivial)
  swap
  · exact fun _ => trivial
  intro e _
  have hlocal : Follows i call (fun _ l' => l ++ [⟨i, .listen call.room, .ok e⟩] <+: l')
      (sendToLocalRoom call.room e.message e.excludePlayerId)
        (l ++ [⟨i, .listen call.room, .ok e⟩]) :=
    sendToLocalRoom_follows _ fun sockets w hw => .relay sockets e (by simp) hw (by simp)
  exact hlocal.mono fun _ _ _ => trivial

end ConnectionManager

end Recipients

end

end Askit.Game

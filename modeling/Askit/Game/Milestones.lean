import Askit.Game.Roster
import Askit.Interleaving.Trace

/-! The milestones of an endpoint: it has joined, set the flag of its player, begun to leave. -/

namespace Askit.Game

open Interleaving Machine Coro Tables

inductive Seat
  | player (playerId : UUID)
  | host (roomCode : String)
  deriving DecidableEq, Repr

def Seat.of (roomCode : String) : Option UUID → Seat
  | some playerId => .player playerId
  | none => .host roomCode

/-- The entry of `_players` or `_hosts`. -/
def Registry.seat (r : Registry) : Seat → Option Socket
  | .player playerId => r.playerSocket playerId
  | .host roomCode => r.hosts roomCode

inductive Milestone
  | joined (seat : Seat) (websocket : Socket)
  | connected (playerId : UUID) (connected : Bool)
  | left
  | forgot
  deriving DecidableEq, Repr

def milestone : Event Op Exn → Option Milestone
  | ⟨_, .joinRoom websocket roomCode playerId, .ok _⟩ =>
    some (.joined (Seat.of roomCode playerId) websocket)
  | ⟨_, .commit changes, .ok _⟩ => changes.connected.map fun p => .connected p.1 p.2
  | ⟨_, .disconnected _, _⟩ | ⟨_, .leaveRoom .., _⟩ => some .left
  | ⟨_, .forget .., .ok _⟩ => some .forgot
  | _ => none

def milestones (l : List (Event Op Exn)) : List Milestone := l.filterMap milestone

/-- The endpoint has registered its socket and has not begun to leave. -/
def present (seat : Seat) : List Milestone → Bool
  | .joined s _ :: rest => s = seat && .left ∉ rest
  | _ => false

def holds (seat : Seat) (websocket : Socket) : List Milestone → Bool
  | .joined s w :: rest => s = seat && w = websocket && .forgot ∉ rest
  | _ => false

lemma milestones_append (l : List (Event Op Exn)) (ev : Event Op Exn) :
    milestones (l ++ [ev]) = milestones l ++ (milestone ev).toList := by
  simp [milestones, List.filterMap_append, List.filterMap_cons]
  cases milestone ev <;> rfl

def tokenPlayer (l : List (Event Op Exn)) : Option UUID :=
  l.findSome? fun ev => match ev with
    | ⟨_, .getWsToken _, .ok playerId⟩ => playerId
    | _ => none

/-- Whose endpoint the call is, as far as `l` shows, and its socket. -/
def Call.seat (l : List (Event Op Exn)) : Call → Option (Seat × Socket)
  | .playerEndpoint id _ _ _ => (tokenPlayer l).map fun p => (.player p, ⟨.player, id⟩)
  | .hostEndpoint id roomCode _ _ => some (.host roomCode, ⟨.host, id⟩)
  | _ => none

lemma Call.seat_mono {call : Call} {l l' : List (Event Op Exn)} {x : Seat × Socket} (h : l <+: l')
    (hs : call.seat l = some x) : call.seat l' = some x := by
  obtain ⟨rest, rfl⟩ := h
  cases call with
  | playerEndpoint id roomCode origin wsToken =>
    obtain ⟨p, hp, rfl⟩ := Option.map_eq_some_iff.mp hs
    have hp : tokenPlayer (l ++ rest) = some p := by
      rw [tokenPlayer, List.findSome?_append]
      exact Option.or_eq_some_iff.mpr (.inl hp)
    exact congrArg (Option.map _) hp
  | _ => exact hs

section

variable [Runtime]

def Sequenced (call : Call) (l : List (Event Op Exn)) : Event Op Exn → Prop
  | ⟨_, .joinRoom websocket roomCode playerId, _⟩ => milestones l = [] ∧
      call.seat l = some (Seat.of roomCode playerId, websocket) ∧ ∀ p ∈ playerId,
        ∃ (i : ℕ) (code : String) (room : Room), ⟨i, .getRoom code, .ok (some room)⟩ ∈ l ∧
          ∃ q ∈ room.players, q.playerId = p
  | ⟨_, .disconnected websocket, _⟩ =>
    (∃ p, milestones l = [.joined (.player p) websocket, .connected p true]) ∨
      ∃ code, milestones l = [.joined (.host code) websocket]
  | ⟨_, .forget roomCode playerId, _⟩ => ∃ websocket rest,
      milestones l = .joined (Seat.of roomCode playerId) websocket :: rest ∧ .left ∈ rest
  | ⟨_, .commit changes, _⟩ => ∀ p b, changes.connected = some (p, b) → ∃ websocket rest,
      milestones l = .joined (.player p) websocket :: rest ∧ (b = false → .left ∈ rest)
  | _ => True

/-- An endpoint that returns has removed the entry that it made. -/
def Ended (r : Except Exn Unit) (l : List (Event Op Exn)) : Prop :=
  r = .ok () → milestones l = [] ∨ .forgot ∈ milestones l

def Op.Unmarked : {β : Type} → Op β → Prop
  | _, .joinRoom .. | _, .leaveRoom .. | _, .forget .. | _, .disconnected _ | _, .commit _ => False
  | _, _ => True

namespace Presence

variable {i : ℕ} {call : Call} {α β : Type} {l : List (Event Op Exn)} {seat : Seat}
variable {websocket : Socket}

abbrev Follows (i : ℕ) (call : Call) (Q : Except Exn α → List (Event Op Exn) → Prop)
    (x : Handler α) (l : List (Event Op Exn)) : Prop :=
  x.Follows system.Answers i (Sequenced call) Q l

omit [Runtime] in
lemma unmarked_milestone {o : Op β} (ho : o.Unmarked) (r : Except Exn β) :
    milestone ⟨i, o, r⟩ = none := by
  cases o <;> first | rfl | exact ho.elim

omit [Runtime] in
lemma sequenced_unmarked {o : Op β} (ho : o.Unmarked) (r : Except Exn β) :
    Sequenced call l ⟨i, o, r⟩ := by
  cases o <;> trivial

def Same (l l' : List (Event Op Exn)) : Prop := l <+: l' ∧ milestones l' = milestones l

omit [Runtime] in
lemma same_append {o : Op β} (ho : o.Unmarked) (r : Except Exn β) : Same l (l ++ [⟨i, o, r⟩]) := by
  refine ⟨List.prefix_append _ _, ?_⟩
  rw [milestones_append, unmarked_milestone ho]
  exact List.append_nil _

omit [Runtime] in
lemma Same.trans {l' l'' : List (Event Op Exn)} (h : Same l l') (h' : Same l' l'') : Same l l'' :=
  ⟨h.1.trans h'.1, h'.2.trans h.2⟩

lemma unmarked_all {x : Handler α} (hx : x.All system.Answers Op.Unmarked) :
    Follows i call (fun _ l' => Same l l') x l := by
  apply Coro.Follows.of_all hx _ ⟨List.prefix_refl _, rfl⟩
  exact fun o r l ho _ h => ⟨sequenced_unmarked ho r, h.trans (same_append ho r)⟩

lemma unmarked_of_keeps {x : Handler α} (hk : Keeps (.only fun _ => False) x) :
    x.All system.Answers Op.Unmarked := by
  apply All.mono hk
  intro β o ho
  cases o <;> trivial

def Leaving (seat : Seat) (l : List (Event Op Exn)) : Prop :=
  ∃ websocket rest, milestones l = .joined seat websocket :: rest ∧ .left ∈ rest

def Gone (seat : Seat) (l : List (Event Op Exn)) : Prop :=
  Leaving seat l ∧ .forgot ∈ milestones l

lemma disconnectFrom_follows {roomCode : String} (playerId : Option UUID) {rest : List Milestone}
    (hl : milestones l = .joined (Seat.of roomCode playerId) websocket :: rest) (w : Socket) :
    Follows i call (fun r l' => r = .ok () → Gone (Seat.of roomCode playerId) l')
      (disconnectFrom w roomCode playerId) l := by
  apply Coro.Follows.perform_bind (fun _ _ => by trivial)
  swap
  · exact fun e h => by cases h
  intro cancelled _
  have hleft : milestones (l ++ [⟨i, .leaveRoom w roomCode, .ok cancelled⟩]) =
      .joined (Seat.of roomCode playerId) websocket :: (rest ++ [.left]) := by
    rw [milestones_append, hl]
    rfl
  generalize l ++ [⟨i, .leaveRoom w roomCode, .ok cancelled⟩] = l' at hleft
  have hwait : (unsubscribeFromRoom roomCode cancelled).All system.Answers Op.Unmarked := by
    apply All.ite
    · intro _
      exact All.tryCatch ((all_perform _).mpr trivial) fun _ =>
        All.perform_bind (by trivial) fun _ _ => trivial
    · exact fun _ => trivial
  apply Coro.Follows.bind (unmarked_all hwait)
  swap
  · exact fun e l'' _ h => by cases h
  intro _ l'' hsame
  have hleft : milestones l'' = .joined (Seat.of roomCode playerId)
      websocket :: (rest ++ [.left]) :=
    hsame.2.trans hleft
  apply Coro.Follows.perform
  intro r _
  refine ⟨⟨websocket, _, hleft, by simp⟩, ?_⟩
  rintro rfl
  have hgone : milestones (l'' ++ [⟨i, .forget roomCode playerId, .ok ()⟩]) =
      .joined (Seat.of roomCode playerId) websocket :: (rest ++ [.left] ++ [.forgot]) := by
    rw [milestones_append, hleft]
    rfl
  exact ⟨⟨websocket, _, hgone, by simp⟩, by simp [hgone]⟩

omit [Runtime] in
lemma Gone.ended {r : Except Exn Unit} (h : Gone seat l) : Ended r l := fun _ => .inr h.2

omit [Runtime] in
lemma Gone.mono {l' : List (Event Op Exn)} (h : Gone seat l) (hl : Same l l') : Gone seat l' := by
  obtain ⟨⟨w, rest, hm, hleft⟩, hgone⟩ := h
  exact ⟨⟨w, rest, hl.2.trans hm, hleft⟩, hl.2.symm ▸ hgone⟩

lemma setPlayerConnected_follows {p : UUID} {connected : Bool} {rest : List Milestone}
    (hl : milestones l = .joined (.player p) websocket :: rest)
    (hrest : connected = false → .left ∈ rest) :
    Follows i call (fun r l' => l <+: l' ∧ milestones l' = milestones l ++
      if r = .ok () then [.connected p connected] else []) (setPlayerConnected p connected) l := by
  have hprefix : ∀ (o o' : Op Unit) (r r' : Except Exn Unit),
      l <+: l ++ [⟨i, o, r⟩] ++ [⟨i, o', r'⟩] := by
    intro o o' r r'
    rw [List.append_assoc]
    exact List.prefix_append _ _
  apply Coro.Follows.perform_bind (fun _ _ => by trivial)
  · intro _ _
    have hsame : milestones (l ++ [⟨i, .updateConnected p connected, .ok ()⟩]) = milestones l := by
      rw [milestones_append]
      exact List.append_nil _
    apply Coro.Follows.perform
    intro r _
    refine ⟨?_, hprefix _ _ _ _, ?_⟩
    · rintro p' b ⟨⟩
      exact ⟨websocket, rest, hsame.trans hl, hrest⟩
    · rw [milestones_append, hsame]
      cases r <;> rfl
  · intro e
    refine ⟨List.prefix_append _ _, ?_⟩
    rw [milestones_append]
    rfl

lemma leavePlayer_follows {roomCode : String} {player : GamePlayer} {rest : List Milestone}
    (hl : milestones l = .joined (.player player.playerId) websocket :: rest) (w : Socket) :
    Follows i call Ended (leavePlayer w roomCode player) l := by
  apply Coro.Follows.bind (disconnectFrom_follows (some player.playerId) hl w)
  swap
  · exact fun e l' _ h => by cases h
  intro _ l' hgone
  have hgone := hgone rfl
  obtain ⟨⟨ws, rest', hm, hleft⟩, hforgot⟩ := hgone
  apply Coro.Follows.bind (S := fun _ l' => .forgot ∈ milestones l')
  · apply (Coro.Follows.reify (setPlayerConnected_follows hm fun _ => hleft)).mono
    rintro _ l'' ⟨r, -, -, hm'⟩
    rw [hm']
    exact List.mem_append_left _ hforgot
  swap
  · exact fun e l'' _ h => by cases h
  intro _ l'' hforgot
  have hlast : (broadcastToRoom roomCode (.playerLeft player.playerId player.nickname) none).All
    system.Answers
      Op.Unmarked := unmarked_of_keeps (broadcastToRoom_keeps roomCode (by trivial) none)
  exact (unmarked_all hlast).mono fun r l h _ => .inr (h.2.symm ▸ hforgot)

lemma buildRoomState_unmarked (roomCode : String) (forHost : Bool) :
    (attempt (buildRoomState roomCode forHost)).All system.Answers Op.Unmarked :=
  unmarked_of_keeps (attempt_keeps (buildRoomState_keeps roomCode forHost))

lemma connect_follows (roomCode : String) (playerId : Option UUID) (hl : milestones l = [])
    (hs : call.seat l = some (Seat.of roomCode playerId, websocket))
    (hp : ∀ p ∈ playerId, ∃ (i : ℕ) (code : String) (room : Room),
      ⟨i, .getRoom code, .ok (some room)⟩ ∈ l ∧ ∃ q ∈ room.players, q.playerId = p) :
    Follows i call (fun r l' => milestones l' =
        if r = .ok () then [.joined (Seat.of roomCode playerId) websocket] else [])
      (do
        await (.accept websocket)
        await (.joinRoom websocket roomCode playerId)) l := by
  apply Coro.Follows.perform_bind (fun _ _ => by trivial)
  · intro _ _
    have hsame : milestones (l ++ [⟨i, .accept websocket, .ok ()⟩]) = [] := by
      rw [milestones_append, hl]
      rfl
    apply Coro.Follows.perform
    intro r _
    refine ⟨⟨hsame, Call.seat_mono (List.prefix_append _ _) hs, fun p hpp => ?_⟩, ?_⟩
    · obtain ⟨j, code, room, hmem, hq⟩ := hp p hpp
      exact ⟨j, code, room, List.mem_append_left _ hmem, hq⟩
    · rw [milestones_append, hsame]
      cases r <;> rfl
  · intro e
    rw [milestones_append, hl]
    rfl

lemma disconnect_close_follows {roomCode : String} (playerId : Option UUID) {rest : List Milestone}
    (hl : milestones l = .joined (Seat.of roomCode playerId) websocket :: rest) (w : Socket)
    (code : ℕ) (reason : String) :
    Follows i call Ended (disconnectFrom w roomCode playerId >>= fun _ =>
      await (.close w code reason))
      l := by
  apply Coro.Follows.bind (disconnectFrom_follows playerId hl w)
  swap
  · exact fun e l' _ h => by cases h
  intro _ l' hgone
  have hclose : (await (.close w code reason)).All system.Answers Op.Unmarked :=
    (all_perform _).mpr (by trivial)
  exact (unmarked_all hclose).mono fun r l'' h => ((hgone rfl).mono h).ended

lemma disconnected_follows {Q : Except Exn (Except Exn Unit) → List (Event Op Exn) → Prop}
    (hl : (∃ p, milestones l = [.joined (.player p) websocket, .connected p true]) ∨
      ∃ code, milestones l = [.joined (.host code) websocket])
    (hQ : ∀ r l', l <+: l' → milestones l' = milestones l ++ [.left] → Q (.ok r) l') :
    Follows i call Q (attempt (await (.disconnected websocket))) l := by
  have hend : Follows i call (fun _ l' => l <+: l' ∧ milestones l' = milestones l ++ [.left])
      (await (.disconnected websocket)) l :=
    Coro.Follows.perform fun r _ => ⟨hl, List.prefix_append _ _, milestones_append _ _⟩
  apply (Coro.Follows.reify hend).mono
  rintro _ l' ⟨r, rfl, hprefix, hm⟩
  exact hQ r l' hprefix hm

lemma servePlayer_follows {roomCode : String} {room : Room} {player : GamePlayer} {code : String}
    {r : Room} {w : Socket} (hl : milestones l = [])
    (hs : call.seat l = some (.player player.playerId, w)) {j : ℕ}
    (hmem : ⟨j, .getRoom code, .ok (some r)⟩ ∈ l) (hq : player ∈ r.players) :
    Follows i call Ended (servePlayer w roomCode room player) l := by
  apply Coro.Follows.bind (connect_follows roomCode (some player.playerId) hl hs ?_)
  rotate_left 2
  · rintro p ⟨⟩
    exact ⟨j, code, r, hmem, player, hq, rfl⟩
  swap
  · exact fun e l' _ h => by cases h
  intro _ l' hl'
  have hl' : milestones l' = [.joined (.player player.playerId) w] := by simpa [Seat.of] using hl'
  apply Coro.Follows.bind (setPlayerConnected_follows hl' (fun h => by cases h))
  swap
  · exact fun e l'' _ h => by cases h
  intro _ l'' h''
  have hl'' : milestones l'' = [.joined (.player player.playerId) w,
      .connected player.playerId true] := by
    simpa [hl'] using h''.2
  apply Coro.Follows.bind (unmarked_all (buildRoomState_unmarked roomCode false))
  swap
  · exact fun e l' _ h => by cases h
  intro state l' hsame
  have hl' := hsame.2.trans hl''
  cases state with
  | error e => exact disconnect_close_follows (some player.playerId) hl' w _ _
  | ok state =>
    apply Coro.Follows.bind (unmarked_all
      (unmarked_of_keeps (greetPlayer_keeps roomCode room player state)))
    swap
    · exact fun e l' _ h => by cases h
    intro _ l'' hsame
    have hl'' := hsame.2.trans hl'
    apply Coro.Follows.bind (S := fun _ l => milestones l = .joined (.player player.playerId) w ::
      [.connected player.playerId true, .left])
    · apply disconnected_follows (.inl ⟨_, hl''⟩)
      intro r l' _ hl'
      rw [hl', hl'']
      rfl
    · exact fun _ l' hl' => leavePlayer_follows hl' w
    · exact fun e l' _ h => by cases h

lemma serveHost_follows {roomCode : String} {room : Room} {w : Socket} (hl : milestones l = [])
    (hs : call.seat l = some (.host roomCode, w)) :
    Follows i call Ended (serveHost w roomCode room) l := by
  apply Coro.Follows.bind (connect_follows roomCode none hl hs ?_)
  rotate_left 2
  · rintro p ⟨⟩
  swap
  · exact fun e l' _ h => by cases h
  intro _ l' hl'
  have hl' : milestones l' = [.joined (.host roomCode) w] := by simpa [Seat.of] using hl'
  apply Coro.Follows.bind (unmarked_all (buildRoomState_unmarked roomCode true))
  swap
  · exact fun e l' _ h => by cases h
  intro state l'' hsame
  have hl'' := hsame.2.trans hl'
  cases state with
  | error e => exact disconnect_close_follows none hl'' w _ _
  | ok state =>
    apply Coro.Follows.bind (unmarked_all
      (unmarked_of_keeps (greetHost_keeps roomCode room state)))
    swap
    · exact fun e l' _ h => by cases h
    intro _ l' hsame
    have hl' := hsame.2.trans hl''
    apply Coro.Follows.bind (S := fun _ l => milestones l = .joined (.host roomCode) w :: [.left])
    · apply disconnected_follows (.inr ⟨_, hl'⟩)
      intro r l'' _ h
      rw [h, hl']
      rfl
    · intro _ l'' hl''
      exact (disconnectFrom_follows none hl'' w).mono fun r l h hr => (h hr).ended hr
    · exact fun e l' _ h => by cases h

lemma close_follows (hl : milestones l = []) (w : Socket) (code : ℕ) (reason : String) :
    Follows i call Ended (await (.close w code reason)) l := by
  have hclose : (await (.close w code reason)).All system.Answers Op.Unmarked :=
    (all_perform _).mpr (by trivial)
  exact (unmarked_all hclose).mono fun r l' h _ => .inl (h.2.trans hl)

lemma websocketPlayerEndpoint_follows (id : ℕ) (roomCode : String)
    (origin wsToken : Option String) :
    Follows i (.playerEndpoint id roomCode origin wsToken) Ended
      (websocketPlayerEndpoint id roomCode origin wsToken) [] := by
  apply Coro.Follows.ite (fun _ => close_follows rfl _ _ _)
  intro _
  cases wsToken.filter (· ≠ "") with
  | none => exact close_follows rfl _ _ _
  | some token =>
    apply Coro.Follows.perform_bind (fun _ _ => by trivial)
    swap
    · exact fun e h => by cases h
    intro playerId _
    cases playerId with
    | none => exact close_follows rfl _ _ _
    | some playerId =>
      apply Coro.Follows.perform_bind (fun _ _ => by trivial)
      swap
      · exact fun e h => by cases h
      intro room _
      cases room with
      | none => exact close_follows rfl _ _ _
      | some room =>
        dsimp only
        split
        · rename_i player hfind
          obtain rfl : player.playerId = playerId := by simpa using List.find?_some hfind
          exact servePlayer_follows rfl rfl (List.mem_append_right _ (List.mem_singleton_self _))
            (List.mem_of_find?_eq_some hfind)
        · exact close_follows rfl _ _ _

lemma websocketHostEndpoint_follows (id : ℕ) (roomCode : String) (origin : Option String)
    (hostUser : UUID) : Follows i (.hostEndpoint id roomCode origin hostUser) Ended
      (websocketHostEndpoint id roomCode origin hostUser) [] := by
  apply Coro.Follows.ite (fun _ => close_follows rfl _ _ _)
  intro _
  apply Coro.Follows.perform_bind (fun _ _ => by trivial)
  swap
  · exact fun e h => by cases h
  intro room _
  cases room with
  | none => exact close_follows rfl _ _ _
  | some room =>
    apply Coro.Follows.ite (fun _ => close_follows rfl _ _ _)
    exact fun _ => serveHost_follows rfl rfl

lemma markless_follows {x : Handler Unit} {F : Footprint} (hk : Keeps F x) (hr : ¬F.registers)
    (hF : ∀ changes, F.commits changes → changes.connected = none) : Follows i call Ended x [] := by
  apply (Coro.Follows.of_all hk (A := fun l => milestones l = []) (P := Sequenced call) ?_ rfl).mono
  · exact fun r l hl _ => .inl hl
  intro β o r l ho _ hl
  rw [milestones_append, hl]
  cases o with
  | commit changes =>
    have hc := hF changes ho
    refine ⟨fun p b h => ?_, ?_⟩
    · rw [hc] at h
      cases h
    · cases r <;> simp [milestone, hc]
  | _ => first | exact (hr ho).elim | exact ⟨trivial, rfl⟩

lemma delivery_follows (roomCode : String) : Follows i call Ended (deliverNext roomCode) [] := by
  have hlisten : (await (.listen roomCode)).All system.Answers Op.Unmarked :=
    (all_perform _).mpr (by trivial)
  apply Coro.Follows.bind (unmarked_all hlisten)
  · intro envelope l hl
    have hsend := unmarked_of_keeps
      (sendToLocalRoom_keeps roomCode envelope.message envelope.excludePlayerId)
    exact (unmarked_all hsend).mono fun r l' h _ => .inl (h.2.trans hl.2)
  · exact fun e l hl _ => .inl hl.2

lemma code_follows (i : ℕ) (call : Call) : Follows i call Ended (code call) [] := by
  have hkeeps := code_keeps call
  cases call with
  | joinRoom roomCode nickname user =>
    apply markless_follows hkeeps id
    rintro changes ⟨p, -, rfl⟩
    rfl
  | hostFrames roomCode hostId frames =>
    apply markless_follows hkeeps id
    rintro changes ⟨s, -, rfl⟩
    rfl
  | playerFrame roomCode playerId data =>
    apply markless_follows hkeeps id
    intro changes h
    obtain ⟨-, -, -, -, -, player, a, -, -, rfl⟩ := ClientMessage.Commits.ofAnswer h
    rfl
  | questionTimeout timer =>
    apply markless_follows hkeeps id
    rintro changes ⟨s, -, rfl⟩
    rfl
  | playerEndpoint id roomCode origin wsToken => exact websocketPlayerEndpoint_follows _ _ _ _
  | hostEndpoint id roomCode origin hostUser => exact websocketHostEndpoint_follows _ _ _ _
  | subscriber roomCode =>
    have hsubscribe : (await (.subscribe roomCode)).All system.Answers Op.Unmarked :=
      (all_perform _).mpr (by trivial)
    exact (unmarked_all hsubscribe).mono fun r l h _ => .inl h.2
  | delivery roomCode => exact delivery_follows roomCode

end Presence

end

end Askit.Game

import Askit.Game.Passages

/-! An endpoint that no failure cuts short undoes what it has done. -/

namespace Askit.Game

open Interleaving Machine Coro Tables

section

variable [Runtime]

namespace Cleanup

variable {i : ℕ} {call : Call} {α β : Type} {l l' l'' : List (Event Op Exn)} {websocket : Socket}
variable {roomCode : String} {p : UUID}

lemma leavePlayer_follows {player : GamePlayer} (w : Socket) (hread : Read player.playerId l)
    (hl : passages l = [.entered w roomCode (some player.playerId),
      .flagged player.playerId true]) :
    Follows i call Departed (leavePlayer w roomCode player) l := by
  apply Coro.Follows.bind (disconnectFrom_follows w roomCode (some player.playerId))
  swap
  · exact fun e l' h => departed_of_error h
  rintro _ l₁ ⟨h, -⟩
  obtain ⟨hgrown, h₁⟩ := h rfl
  apply Coro.Follows.bind (Coro.Follows.reify
    (setPlayerConnected_follows w roomCode false (hread.mono hgrown) (by simp [h₁, hl])))
  swap
  · rintro e l' ⟨v, h, -⟩
    cases h
  rintro v l₂ ⟨_, ⟨⟩, h₂⟩
  have hbroadcast : (broadcastToRoom roomCode (.playerLeft player.playerId player.nickname)
    none).All system.Answers
      Op.Unmarked := Presence.unmarked_of_keeps (broadcastToRoom_keeps roomCode (by trivial) none)
  cases v with
  | error e =>
    have hescaped := h₂.2 e rfl
    exact (unmarked_follows hbroadcast).mono fun r l' h hnot => (hnot (hescaped.mono h.1)).elim
  | ok _ =>
    obtain ⟨-, h₂⟩ := h₂.1 rfl
    apply (unmarked_follows hbroadcast).mono
    rintro r l' ⟨-, h'⟩ -
    rw [h', h₂, h₁, hl]
    exact .player w roomCode player.playerId

lemma servePlayer_follows {room : Room} {player : GamePlayer} (w : Socket)
    (hcall : call.socket = some w) (hread : Read player.playerId l) (hl : passages l = []) :
    Follows i call Departed (servePlayer w roomCode room player) l := by
  apply Coro.Follows.bind (connect_follows w roomCode (some player.playerId) hcall hl)
  swap
  · rintro e l₁ ⟨-, h₁⟩ -
    rw [h₁]
    exact .refused
  rintro _ l₁ ⟨hgrown₁, h₁⟩
  rw [if_pos rfl] at h₁
  have hread₁ := hread.mono hgrown₁
  apply Coro.Follows.bind (setPlayerConnected_follows w roomCode true hread₁ (by simp [h₁]))
  swap
  · exact fun e l' h => departed_of_error h
  rintro _ l₂ ⟨h, -⟩
  obtain ⟨hgrown₂, h₂⟩ := h rfl
  rw [h₁] at h₂
  have hread₂ := hread₁.mono hgrown₂
  have hentered : passages l₂ ≠ [] := by simp [h₂]
  have hplayer : building l₂ = false := by
    rw [building, h₂]
    rfl
  apply Coro.Follows.bind (Coro.Follows.reify (loud_follows
    (Presence.unmarked_of_keeps (buildRoomState_keeps roomCode false))
    (buildRoomState_raises roomCode false) hentered hplayer))
  swap
  · rintro e l' ⟨v, h, -⟩
    cases h
  rintro state l₃ ⟨_, ⟨⟩, hstill₃, hescapes⟩
  cases state with
  | error e =>
    apply escaped_follows _ (hescapes e rfl)
    exact All.bind (disconnectFrom_parting w roomCode _) fun _ => (all_perform _).mpr (by trivial)
  | ok state =>
    apply Coro.Follows.bind (loud_follows
      (Presence.unmarked_of_keeps (greetPlayer_keeps roomCode room player state))
      (greetPlayer_raises roomCode room player state) (hstill₃.2.symm ▸ hentered)
        (not_building hplayer hstill₃))
    swap
    · exact fun e l' h => departed_of_error h
    rintro _ l₄ ⟨hstill₄, -⟩
    have hstill := hstill₃.trans hstill₄
    apply Coro.Follows.bind (disconnected_follows w)
    swap
    · rintro e l' ⟨v, h, -⟩
      cases h
    rintro _ l₅ ⟨-, -, hstill₅⟩
    have hstill := (hstill₃.trans hstill₄).trans hstill₅
    exact leavePlayer_follows w (hread₂.mono hstill.1) (hstill.2.trans h₂)

lemma greetHost_follows (room : Room) (state : Option WSRoomState) (hl : passages l ≠ [])
    (hstate : state = none → building l = false) :
    Follows i call (fun r l' => Still l l' ∧ ∀ e, r = .error e → Escapes l')
      (greetHost roomCode room state) l := by
  have hfinished {l₁ : List (Event Op Exn)} (hstill : Still l l₁) (hb : building l₁ = false) :
      Follows i call (fun r l' => Still l l' ∧ ∀ e, r = .error e → Escapes l')
        (sendFinished (sendToHost roomCode) roomCode room id) l₁ := by
    apply (loud_follows _ (sendFinished_raises (sendToHost_raises roomCode) roomCode room id)
      (hstill.2.symm ▸ hl) hb).mono
    · exact fun r l' h => ⟨hstill.trans h.1, h.2⟩
    · exact Presence.unmarked_of_keeps
        (sendFinished_keeps (sendToHost_keeps roomCode) roomCode room id)
  cases state with
  | none => exact hfinished (Still.refl l) (hstate rfl)
  | some state =>
    apply Coro.Follows.bind (S := fun r l' => (r = .ok () → Still l l' ∧ building l' = false) ∧
      (Still l l' ∧ ∀ e, r = .error e → Escapes l'))
    · apply Coro.Follows.perform_bind (fun _ _ => by trivial)
      · intro websocket _
        have hstill : Still l (l ++ [⟨i, .hostSocket roomCode, .ok websocket⟩]) :=
          still_append (by trivial) _
        have hbuilt : building (l ++ [⟨i, .hostSocket roomCode, .ok websocket⟩]) = false := by
          simp [building, builtState]
        generalize l ++ [⟨i, .hostSocket roomCode, .ok websocket⟩] = l₁ at hstill hbuilt
        cases websocket with
        | none => exact ⟨fun _ => ⟨hstill, hbuilt⟩, hstill, fun e h => (by cases h)⟩
        | some w =>
          have hsend : (sendQuietly w (.roomState state)).All system.Answers Op.Unmarked :=
            All.tryCatch ((all_perform _).mpr (by trivial)) fun _ => all_pure ()
          apply (loud_follows hsend (sendQuietly_raises _ _) (hstill.2.symm ▸ hl) hbuilt).mono
          rintro r l' ⟨h, hescapes⟩
          exact ⟨fun _ => ⟨hstill.trans h, not_building hbuilt h⟩, hstill.trans h, hescapes⟩
      · intro e
        refine ⟨fun h => (by cases h), still_append (by trivial) _, fun _ _ => ?_⟩
        exact escapes_of_error (o := .hostSocket roomCode) hl rfl
          (fun h => Bool.false_ne_true h.2) e
    · rintro _ l₁ ⟨h, -⟩
      obtain ⟨hstill, hbuilt⟩ := h rfl
      exact hfinished hstill hbuilt
    · exact fun e l' h => h.2

lemma serveHost_follows {room : Room} (w : Socket) (hcall : call.socket = some w)
    (hl : passages l = []) :
    Follows i call Departed (serveHost w roomCode room) l := by
  apply Coro.Follows.bind (connect_follows w roomCode none hcall hl)
  swap
  · rintro e l₁ ⟨-, h₁⟩ -
    rw [h₁]
    exact .refused
  rintro _ l₁ ⟨-, h₁⟩
  rw [if_pos rfl] at h₁
  apply Coro.Follows.bind (Coro.Follows.reify (buildRoomState_follows roomCode true))
  swap
  · rintro e l' ⟨v, h, -⟩
    cases h
  rintro state l₂ ⟨_, ⟨⟩, hstill₂, hbuilt⟩
  have h₂ := hstill₂.2.trans h₁
  cases state with
  | error e =>
    apply Coro.Follows.bind (disconnectFrom_follows w roomCode none)
    swap
    · exact fun e l' h => departed_of_error h
    rintro _ l₃ ⟨h, -⟩
    obtain ⟨-, h₃⟩ := h rfl
    apply (unmarked_follows ((all_perform _).mpr (by trivial))).mono
    rintro r l' ⟨-, h'⟩ -
    rw [h', h₃, h₂]
    exact .host w roomCode
  | ok state =>
    apply Coro.Follows.bind (greetHost_follows room state (by simp [h₂]) ?_)
    rotate_left 2
    · rintro rfl
      simp [building, hbuilt rfl]
    swap
    · exact fun e l' h => departed_of_error h
    rintro _ l₃ ⟨hstill₃, -⟩
    apply Coro.Follows.bind (disconnected_follows w)
    swap
    · rintro e l' ⟨v, h, -⟩
      cases h
    rintro _ l₄ ⟨-, -, hstill₄⟩
    apply (disconnectFrom_follows w roomCode none).mono
    rintro r l₅ ⟨hok, hescapes⟩ hnot
    cases r with
    | error e => exact (hnot (hescapes e rfl)).elim
    | ok _ =>
      rw [(hok rfl).2, hstill₄.2, hstill₃.2, h₂]
      exact .host w roomCode

lemma close_follows (hl : passages l = []) (w : Socket) (code : ℕ) (reason : String) :
    Follows i call Departed (await (.close w code reason)) l := by
  apply (unmarked_follows ((all_perform _).mpr (by trivial))).mono
  rintro r l' ⟨-, h'⟩ -
  rw [h', hl]
  exact .refused

lemma websocketPlayerEndpoint_follows (id : ℕ) (roomCode : String)
    (origin wsToken : Option String) :
    Follows i (.playerEndpoint id roomCode origin wsToken) Departed
      (websocketPlayerEndpoint id roomCode origin wsToken) [] := by
  apply Coro.Follows.ite (fun _ => close_follows rfl _ _ _)
  intro _
  cases wsToken.filter (· ≠ "") with
  | none => exact close_follows rfl _ _ _
  | some token =>
    apply Coro.Follows.perform_bind (fun _ _ => by trivial)
    swap
    · exact fun e _ => .refused
    intro playerId _
    cases playerId with
    | none => exact close_follows rfl _ _ _
    | some playerId =>
      apply Coro.Follows.perform_bind (fun _ _ => by trivial)
      swap
      · exact fun e _ => .refused
      intro room _
      cases room with
      | none => exact close_follows rfl _ _ _
      | some room =>
        dsimp only
        split
        · rename_i player hfind
          exact servePlayer_follows _ rfl
            ⟨_, _, room, List.mem_append_right _ (List.mem_singleton_self _),
            player, List.mem_of_find?_eq_some hfind, rfl⟩ rfl
        · exact close_follows rfl _ _ _

lemma websocketHostEndpoint_follows (id : ℕ) (roomCode : String) (origin : Option String)
    (hostUser : UUID) :
    Follows i (.hostEndpoint id roomCode origin hostUser) Departed
      (websocketHostEndpoint id roomCode origin hostUser) [] := by
  apply Coro.Follows.ite (fun _ => close_follows rfl _ _ _)
  intro _
  apply Coro.Follows.perform_bind (fun _ _ => by trivial)
  swap
  · exact fun e _ => .refused
  intro room _
  cases room with
  | none => exact close_follows rfl _ _ _
  | some room =>
    apply Coro.Follows.ite (fun _ => close_follows rfl _ _ _)
    exact fun _ => serveHost_follows _ rfl rfl

lemma unpassed_follows {x : Handler Unit} {F : Footprint} (hk : Keeps F x) (hr : ¬F.registers)
    (hF : ∀ changes, F.commits changes → changes.connected = none) :
    Follows i call Departed x [] := by
  apply (Coro.Follows.of_all hk (A := fun l => passages l = []) (P := Dutiful call) ?_ rfl).mono
  · intro r l hl _
    rw [hl]
    exact .refused
  intro β o r l ho _ hl
  rw [passages_append, hl]
  cases o with
  | commit changes =>
    have hc := hF changes ho
    refine ⟨.inl ⟨hl, hc⟩, ?_⟩
    cases r <;> simp [passage, hc]
  | _ => first | exact (hr ho).elim | exact ⟨trivial, rfl⟩

lemma aside_follows {x : Handler Unit} (hx : x.All system.Answers Op.Unmarked) :
    Follows i call Departed x [] := by
  apply (unmarked_follows hx).mono
  rintro r l ⟨-, h⟩ -
  rw [h]
  exact .refused

lemma code_follows (i : ℕ) (call : Call) : Follows i call Departed (code call) [] := by
  have hkeeps := code_keeps call
  cases call with
  | joinRoom roomCode nickname user =>
    apply unpassed_follows hkeeps id
    rintro changes ⟨p, -, rfl⟩
    rfl
  | hostFrames roomCode hostId frames =>
    apply unpassed_follows hkeeps id
    rintro changes ⟨s, -, rfl⟩
    rfl
  | playerFrame roomCode playerId data =>
    apply unpassed_follows hkeeps id
    intro changes h
    obtain ⟨-, -, -, -, -, player, a, -, -, rfl⟩ := ClientMessage.Commits.ofAnswer h
    rfl
  | questionTimeout timer =>
    apply unpassed_follows hkeeps id
    rintro changes ⟨s, -, rfl⟩
    rfl
  | playerEndpoint id roomCode origin wsToken => exact websocketPlayerEndpoint_follows _ _ _ _
  | hostEndpoint id roomCode origin hostUser => exact websocketHostEndpoint_follows _ _ _ _
  | subscriber roomCode => exact aside_follows ((all_perform _).mpr (by trivial))
  | delivery roomCode =>
    apply aside_follows
    apply All.perform_bind (by trivial)
    exact fun envelope _ => Presence.unmarked_of_keeps (sendToLocalRoom_keeps roomCode _ _)

end Cleanup

end

end Askit.Game

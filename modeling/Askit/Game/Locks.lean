import Askit.Game.Placement
import Askit.Game.RoomViews
import Askit.Game.Tickets
import Askit.Interleaving.Erasure

/-! What a process does inside the locked section. -/

namespace Askit.Game

open Interleaving Machine Coro Tables

section

variable [Runtime]

def roomSystem : Machine Op Exn Unit where
  State := State
  Call := Call
  Env := Outside
  exec := exec
  ready := ready
  code := code
  enter := enter
  env e s := e.act s

def onlyRoom (roomCode : String) : Eraser system roomSystem where
  stays call := decide (Runtime.upper (Call.room call) = roomCode)
  call call := call
  env e := Outside.env e
  shadow := Op.outside

def socketsOf (roomCode : String) (calls : List Call) : List Socket :=
  (calls.filter fun call => Runtime.upper call.room = roomCode).filterMap Call.socket

namespace Isolation

abbrev Ev := Event Op Exn

section Duty

variable {i : ℕ} {l : List Ev} {α β γ : Type}

def locks : Ev → Option Bool
  | ⟨_, .leaveRoom .., .ok _⟩ => some true
  | ⟨_, .forget .., .ok _⟩ | ⟨_, .releaseLock, .ok _⟩ => some false
  | _ => none

def Inside (l : List Ev) : Prop := (l.filterMap locks).getLast? = some true

omit [Runtime] in
lemma inside_append_of_none {ev : Ev} (h : locks ev = none) : Inside (l ++ [ev]) ↔ Inside l := by
  simp [Inside, h]

omit [Runtime] in
lemma inside_append_of_some {ev : Ev} {b : Bool} (h : locks ev = some b) :
    Inside (l ++ [ev]) ↔ b = true := by
  simp [Inside, h]

/-- The lock is released by whoever holds it, and a process inserts one player, whose identifier it
has drawn. -/
def Duty (l : List Ev) : Ev → Prop
  | ⟨_, .forget .., _⟩ | ⟨_, .releaseLock, _⟩ => Inside l
  | ⟨i, .commit changes, _⟩ => ∀ p ∈ changes.newPlayer, ⟨i, .uuid4, .ok p.playerId⟩ ∈ l ∧
      ∀ changes' r, ⟨i, .commit changes', r⟩ ∈ l → changes'.newPlayer = none
  | _ => True

abbrev Follows (i : ℕ) (Q : Except Exn α → List Ev → Prop) (x : Handler α) (l : List Ev) : Prop :=
  x.Follows system.Answers i Duty Q l

/-- Neither leaves the critical section nor inserts a player. -/
def Op.Plain : {β : Type} → Op β → Prop
  | _, .forget .. | _, .releaseLock => False
  | _, .commit changes => changes.newPlayer = none
  | _, _ => True

omit [Runtime] in
lemma plain_duty {o : Op β} (ho : Op.Plain o) (r : Except Exn β) : Duty l ⟨i, o, r⟩ := by
  cases o with
  | commit changes =>
    intro p hp
    rw [show changes.newPlayer = none from ho] at hp
    cases hp
  | forget | releaseLock => exact ho.elim
  | _ => trivial

lemma plain_ends {x : Handler α} (hx : x.All system.Answers Op.Plain) :
    Follows i (fun _ _ => True) x l :=
  .of_all hx (fun _ r _ ho _ _ => ⟨plain_duty ho r, trivial⟩) trivial

lemma plain_bind {x : Handler α} {f : α → Handler β} (hx : x.All system.Answers Op.Plain)
    (hf : ∀ a l', Follows i (fun _ _ => True) (f a) l') : Follows i (fun _ _ => True) (x >>= f) l :=
  Follows.bind (plain_ends hx) (fun a l' _ => hf a l') fun _ _ _ => trivial

lemma plain_of_keeps {x : Handler α} {F : Footprint} (hk : Keeps F x) (hr : ¬F.registers)
    (hF : ∀ changes, F.commits changes → changes.newPlayer = none) :
    x.All system.Answers Op.Plain := by
  apply All.mono hk
  intro β o ho
  cases o with
  | commit changes => exact hF changes ho
  | forget | releaseLock => exact (hr ho).elim
  | _ => trivial

lemma plain_of_silent {x : Handler α} (hk : Keeps .silent x) : x.All system.Answers Op.Plain :=
  plain_of_keeps hk id fun _ => False.elim

lemma plain_attempt {x : Handler α} (hx : x.All system.Answers Op.Plain) :
    (attempt x).All system.Answers Op.Plain :=
  All.tryCatch (hx.map _) fun _ => trivial

lemma disconnectFrom_follows (websocket : Socket) (roomCode : String) (playerId : Option UUID) :
    Follows i (fun _ _ => True) (disconnectFrom websocket roomCode playerId) l := by
  apply Follows.perform_bind
  · exact fun _ _ => trivial
  swap
  · exact fun _ => trivial
  intro cancelled _
  have hinside : Inside (l ++ [⟨i, .leaveRoom websocket roomCode, .ok cancelled⟩]) :=
    (inside_append_of_some rfl).mpr rfl
  apply Follows.bind (S := fun r l' => ∀ u, r = .ok u → Inside l')
  · unfold unsubscribeFromRoom
    apply Follows.ite
    · intro _
      apply Follows.tryCatch (S := fun _ l' => Inside l')
      · apply Follows.perform
        exact fun r _ => ⟨trivial, (inside_append_of_none (by cases r <;> rfl)).mpr hinside⟩
      · exact fun _ l' h _ _ => h
      · intro e l' h
        apply Follows.perform_bind
        · exact fun _ _ => h
        · rintro _ _ u ⟨⟩
        · rintro _ u ⟨⟩
    · exact fun _ _ _ => hinside
  · intro _ l' h
    apply Follows.perform
    exact fun _ _ => ⟨h () rfl, trivial⟩
  · exact fun _ _ _ => trivial

def Op.CommitsNothing : {β : Type} → Op β → Prop
  | _, .commit _ => False
  | _, _ => True

omit [Runtime] in
lemma no_commit_append (hl : ∀ changes r, (⟨i, .commit changes, r⟩ : Ev) ∉ l) {o : Op β}
    (ho : Op.CommitsNothing o) (r : Except Exn β) :
    ∀ changes r', (⟨i, .commit changes, r'⟩ : Ev) ∉ l ++ [⟨i, o, r⟩] := by
  intro changes r' h
  rcases List.mem_append.mp h with h | h
  · exact hl changes r' h
  · cases List.mem_singleton.mp h
    exact ho

lemma joinRoomRoute_follows (roomCode nickname : String) (user : Option UUID) :
    Follows i (fun _ _ => True) (joinRoomRoute roomCode nickname user) [] := by
  apply Follows.bind (S := fun _ _ => True)
  · apply Follows.perform_bind
    · exact fun _ _ => trivial
    swap
    · exact fun _ => trivial
    rintro (_ | room) -
    · trivial
    iterate 4
      apply Follows.require_bind
      swap
      · exact fun _ => trivial
      intro _
    apply Follows.perform_bind
    · exact fun _ _ => trivial
    swap
    · exact fun _ => trivial
    intro playerId _
    apply Follows.perform_bind
    · rintro r - _ ⟨⟩
      have hnone : ∀ changes r, (⟨i, .commit changes, r⟩ : Ev) ∉ [] := fun _ _ h => (by cases h)
      have hread := no_commit_append hnone (o := .getRoom roomCode) (by trivial) (.ok (some room))
      have hdrawn := no_commit_append hread (o := .uuid4) (by trivial) (.ok playerId)
      exact ⟨by simp, fun changes' r' h => absurd h (hdrawn changes' r')⟩
    · exact fun _ _ => plain_ends (All.perform_bind (by trivial) fun _ _ => trivial)
    · exact fun _ => trivial
  · exact fun _ _ _ => plain_ends (All.perform_bind (by trivial) fun _ _ =>
      (all_perform _).mpr (by trivial))
  · exact fun _ _ _ => trivial

lemma servePlayer_follows (websocket : Socket) (roomCode : String) (room : Room)
    (player : GamePlayer) :
    Follows i (fun _ _ => True) (servePlayer websocket roomCode room player) l := by
  have hconnected (connected : Bool) : (setPlayerConnected player.playerId connected).All
      system.Answers Op.Plain :=
    All.perform_bind (by trivial) fun _ _ => (all_perform _).mpr rfl
  apply plain_bind (All.perform_bind (by trivial) fun _ _ => (all_perform _).mpr (by trivial))
  intro _ l
  apply plain_bind (hconnected true)
  intro _ l
  apply plain_bind (plain_attempt (plain_of_silent (buildRoomState_keeps roomCode false)))
  rintro (e | state) l
  · apply Follows.bind (disconnectFrom_follows _ _ _)
    · exact fun _ _ _ => plain_ends ((all_perform _).mpr (by trivial))
    · exact fun _ _ _ => trivial
  · apply plain_bind (plain_of_silent (greetPlayer_keeps roomCode room player state))
    intro _ l
    apply plain_bind (plain_attempt ((all_perform _).mpr (by trivial)))
    intro _ l
    apply Follows.bind (disconnectFrom_follows _ _ _)
    · intro _ l _
      apply plain_ends
      apply All.bind (plain_attempt (hconnected false))
      exact fun _ => plain_of_silent (broadcastToRoom_keeps roomCode (by trivial) none)
    · exact fun _ _ _ => trivial

lemma serveHost_follows (websocket : Socket) (roomCode : String) (room : Room) :
    Follows i (fun _ _ => True) (serveHost websocket roomCode room) l := by
  apply plain_bind (All.perform_bind (by trivial) fun _ _ => (all_perform _).mpr (by trivial))
  intro _ l
  apply plain_bind (plain_attempt (plain_of_silent (buildRoomState_keeps roomCode true)))
  rintro (e | state) l
  · apply Follows.bind (disconnectFrom_follows _ _ _)
    · exact fun _ _ _ => plain_ends ((all_perform _).mpr (by trivial))
    · exact fun _ _ _ => trivial
  · apply plain_bind (plain_of_silent (greetHost_keeps roomCode room state))
    intro _ l
    apply plain_bind (plain_attempt ((all_perform _).mpr (by trivial)))
    exact fun _ _ => disconnectFrom_follows _ _ _

lemma close_follows (websocket : Socket) (number : ℕ) (reason : String) :
    Follows i (fun _ _ => True) (await (.close websocket number reason)) l :=
  plain_ends ((all_perform _).mpr (by trivial))

lemma websocketPlayerEndpoint_follows (id : ℕ) (roomCode : String)
    (origin wsToken : Option String) :
    Follows i (fun _ _ => True) (websocketPlayerEndpoint id roomCode origin wsToken) [] := by
  apply Follows.ite
  · exact fun _ => close_follows _ _ _
  intro _
  cases wsToken.filter (· ≠ "") with
  | none => exact close_follows _ _ _
  | some token =>
    apply plain_bind ((all_perform _).mpr (by trivial))
    rintro (_ | playerId) l
    · exact close_follows _ _ _
    apply plain_bind ((all_perform _).mpr (by trivial))
    rintro (_ | room) l
    · exact close_follows _ _ _
    dsimp only
    cases room.players.find? fun p => p.playerId = playerId with
    | none => exact close_follows _ _ _
    | some player => exact servePlayer_follows _ _ _ _

lemma websocketHostEndpoint_follows (id : ℕ) (roomCode : String) (origin : Option String)
    (hostUser : UUID) :
    Follows i (fun _ _ => True) (websocketHostEndpoint id roomCode origin hostUser) [] := by
  apply Follows.ite
  · exact fun _ => close_follows _ _ _
  intro _
  apply plain_bind ((all_perform _).mpr (by trivial))
  rintro (_ | room) l
  · exact close_follows _ _ _
  apply Follows.ite
  · exact fun _ => close_follows _ _ _
  · exact fun _ => serveHost_follows _ _ _

lemma code_follows (i : ℕ) (call : Call) : Follows i (fun _ _ => True) (Game.code call) [] := by
  have hkeeps := code_keeps call
  cases call with
  | joinRoom roomCode nickname user => exact joinRoomRoute_follows _ _ _
  | hostFrames roomCode hostId frames =>
    apply plain_ends (plain_of_keeps hkeeps id ?_)
    rintro changes ⟨s, -, rfl⟩
    rfl
  | playerFrame roomCode playerId data =>
    apply plain_ends (plain_of_keeps hkeeps id ?_)
    intro changes h
    obtain ⟨-, -, -, -, -, player, a, -, -, rfl⟩ := ClientMessage.Commits.ofAnswer h
    rfl
  | questionTimeout timer =>
    apply plain_ends (plain_of_keeps hkeeps id ?_)
    rintro changes ⟨s, -, rfl⟩
    rfl
  | playerEndpoint id roomCode origin wsToken => exact websocketPlayerEndpoint_follows _ _ _ _
  | hostEndpoint id roomCode origin hostUser => exact websocketHostEndpoint_follows _ _ _ _
  | subscriber roomCode => exact plain_ends ((all_perform _).mpr (by trivial))
  | delivery roomCode =>
    apply plain_bind ((all_perform _).mpr (by trivial))
    exact fun envelope _ => plain_ends (plain_of_silent (sendToLocalRoom_keeps roomCode _ _))

end Duty

end Isolation

end

end Askit.Game

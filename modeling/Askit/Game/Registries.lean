import Askit.Game.Seating
import Askit.Game.System
import Askit.Interleaving.Abstraction

/-! The three models of the connection manager take their steps from the same code, and whoever has
made the same changes keeps the same book. -/

namespace Askit.Game

open Interleaving Machine Coro

section Code

inductive Tasked : ∀ β γ : Type, Op β → ConnectionManager.Op γ → (β → γ → Prop) → Prop
  | accept (websocket : Socket) : Tasked _ _ (.accept websocket) (.accept websocket) Eq
  | joinRoom (websocket : Socket) (roomCode : String) (playerId : Option UUID) :
      Tasked _ _ (.joinRoom websocket roomCode playerId) (.joinRoom websocket roomCode playerId) Eq
  | leaveRoom (websocket : Socket) (roomCode : String) :
      Tasked _ _ (.leaveRoom websocket roomCode) (.leaveRoom websocket roomCode) fun b task =>
        b = task.isSome
  | awaitCancelled (roomCode : String) (task : ℕ) : Tasked _ _ (.awaitCancelled roomCode)
      (.awaitTask task) Eq
  | forget (roomCode : String) (playerId : Option UUID) :
      Tasked _ _ (.forget roomCode playerId) (.forget roomCode playerId) Eq
  | releaseLock : Tasked _ _ .releaseLock .releaseLock Eq
  | roomSockets (roomCode : String) : Tasked _ _ (.roomSockets roomCode) (.roomSockets roomCode) Eq
  | socketPlayer (websocket : Socket) : Tasked _ _ (.socketPlayer websocket)
      (.socketPlayer websocket) Eq
  | sendJson (websocket : Socket) (parcel : ConnectionManager.Parcel) :
      Tasked _ _ (.sendJson websocket parcel.message) (.sendJson websocket parcel) Eq
  | publish (roomCode : String) (parcel : ConnectionManager.Parcel) :
      Tasked _ _ (.publish roomCode ⟨parcel.message, parcel.excludePlayerId⟩)
        (.publish roomCode parcel) Eq

variable (websocket : Socket) (roomCode : String) (playerId : Option UUID)

lemma connect_alike (p : UUID) :
    Alike Tasked (connect websocket roomCode p) (ConnectionManager.connect websocket roomCode p) :=
  .perform_bind (.accept websocket) fun _ _ _ => .perform (.joinRoom websocket roomCode (some p))

lemma connectHost_alike :
    Alike Tasked (connectHost websocket roomCode)
      (ConnectionManager.connectHost websocket roomCode) :=
  .perform_bind (.accept websocket) fun _ _ _ => .perform (.joinRoom websocket roomCode none)

lemma unsubscribeFromRoom_alike (task : Option ℕ) :
    Alike Tasked (unsubscribeFromRoom roomCode task.isSome)
      (ConnectionManager.awaitCancelled task) := by
  cases task with
  | none => exact .done _
  | some task =>
    apply Alike.tryCatch (.perform (.awaitCancelled roomCode task))
    exact fun e => .perform_bind .releaseLock fun _ _ _ => .done _

lemma disconnectFrom_alike : Alike Tasked (disconnectFrom websocket roomCode playerId)
    (ConnectionManager.disconnectFrom websocket roomCode playerId) := by
  apply Alike.perform_bind (.leaveRoom websocket roomCode)
  rintro _ task rfl
  exact (unsubscribeFromRoom_alike roomCode task).bind fun _ => .perform (.forget roomCode playerId)

lemma sendToLocalRoom_alike (parcel : ConnectionManager.Parcel)
    (hempty : parcel.excludePlayerId ≠ some "") :
    Alike Tasked (sendToLocalRoom roomCode parcel.message parcel.excludePlayerId)
      (ConnectionManager.sendToLocalRoom roomCode parcel) := by
  apply Alike.perform_bind (.roomSockets roomCode)
  rintro connections _ rfl
  apply Alike.forM
  intro websocket _
  apply Alike.perform_bind (.socketPlayer websocket)
  rintro playerId _ rfl
  have hiff : parcel.excludePlayerId.isSome = true ∧ playerId = parcel.excludePlayerId ↔
      parcel.excludes playerId := by
    unfold ConnectionManager.Parcel.excludes
    cases hexclude : parcel.excludePlayerId with
    | none => simp
    | some p =>
      have hp : p ≠ "" := fun h => hempty (hexclude.trans (congrArg some h))
      simp [hp]
  by_cases h : parcel.excludes playerId
  · rw [if_pos (hiff.mpr h), if_pos h]
    exact .done _
  · rw [if_neg (mt hiff.mp h), if_neg h]
    exact .tryCatch (.perform (.sendJson websocket parcel)) fun _ => .done _

lemma broadcastToRoom_alike (parcel : ConnectionManager.Parcel)
    (hempty : parcel.excludePlayerId ≠ some "") :
    Alike Tasked (broadcastToRoom roomCode parcel.message parcel.excludePlayerId)
      (ConnectionManager.broadcastToRoom roomCode parcel) :=
  .tryCatch (.perform (.publish roomCode parcel)) fun _ => sendToLocalRoom_alike
    roomCode parcel hempty

inductive Keyed : ∀ β γ : Type, ConnectionManager.Op β → Connections.Op γ → (β → γ → Prop) → Prop
  | accept (websocket : Socket) : Keyed _ _ (.accept websocket) (.accept websocket) Eq
  | joinRoom (websocket : Socket) (roomCode : String) (playerId : Option UUID) :
      Keyed _ _ (.joinRoom websocket roomCode playerId) (.enterRoom websocket roomCode playerId) Eq
  | leaveRoom (websocket : Socket) (roomCode : String) (playerId : Option UUID) :
      Keyed _ _ (.leaveRoom websocket roomCode) (.leaveRoom websocket roomCode playerId) Eq
  | awaitTask (task : ℕ) : Keyed _ _ (.awaitTask task) (.awaitTask task) Eq
  | forget (roomCode : String) (playerId : Option UUID) :
      Keyed _ _ (.forget roomCode playerId) (.forget roomCode playerId) Eq
  | releaseLock : Keyed _ _ .releaseLock .releaseLock Eq
  | roomSockets (roomCode : String) : Keyed _ _ (.roomSockets roomCode) (.roomSockets roomCode) Eq
  | socketPlayer (websocket : Socket) : Keyed _ _ (.socketPlayer websocket)
      (.socketPlayer websocket) Eq
  | sendJson (websocket : Socket) (parcel : ConnectionManager.Parcel) :
      Keyed _ _ (.sendJson websocket parcel)
        (.sendJson websocket ⟨parcel.message, parcel.excludePlayerId⟩) Eq

lemma connect_keyed (p : UUID) : Alike Keyed (ConnectionManager.connect websocket roomCode p)
    (Connections.connect websocket roomCode p) :=
  .perform_bind (.accept websocket) fun _ _ _ => .perform (.joinRoom websocket roomCode (some p))

lemma connectHost_keyed : Alike Keyed (ConnectionManager.connectHost websocket roomCode)
    (Connections.connectHost websocket roomCode) :=
  .perform_bind (.accept websocket) fun _ _ _ => .perform (.joinRoom websocket roomCode none)

lemma disconnectFrom_keyed : Alike Keyed
    (ConnectionManager.disconnectFrom websocket roomCode playerId)
    (Connections.disconnectFrom websocket roomCode playerId) := by
  apply Alike.perform_bind (.leaveRoom websocket roomCode playerId)
  rintro task _ rfl
  have hawait : Alike Keyed (ConnectionManager.awaitCancelled task)
      (Connections.awaitCancelled task) := by
    cases task with
    | none => exact .done _
    | some task =>
      apply Alike.tryCatch (.perform (.awaitTask task))
      exact fun e => .perform_bind .releaseLock fun _ _ _ => .done _
  exact hawait.bind fun _ => .perform (.forget roomCode playerId)

lemma sendToLocalRoom_keyed (parcel : ConnectionManager.Parcel) :
    Alike Keyed (ConnectionManager.sendToLocalRoom roomCode parcel)
      (Connections.sendToLocalRoom roomCode ⟨parcel.message, parcel.excludePlayerId⟩) := by
  apply Alike.perform_bind (.roomSockets roomCode)
  rintro connections _ rfl
  apply Alike.forM
  intro websocket _
  apply Alike.perform_bind (.socketPlayer websocket)
  rintro playerId _ rfl
  by_cases h : parcel.excludes playerId
  · have h' : ∃ p ∈ (Envelope.mk parcel.message parcel.excludePlayerId).excludePlayerId,
        p ≠ "" ∧ playerId = some p := h
    rw [if_pos h, if_pos h']
    exact .done _
  · have h' : ¬∃ p ∈ (Envelope.mk parcel.message parcel.excludePlayerId).excludePlayerId,
        p ≠ "" ∧ playerId = some p := h
    rw [if_neg h, if_neg h']
    exact .tryCatch (.perform (.sendJson websocket parcel)) fun _ => .done _

end Code

section Runs

variable [Runtime]

def seatChange : Event Op Exn → Option SeatChange
  | ⟨_, .joinRoom websocket roomCode playerId, .ok _⟩ => some (.join websocket roomCode playerId)
  | ⟨_, .leaveRoom websocket roomCode, .ok _⟩ => some (.leave websocket roomCode)
  | ⟨_, .forget roomCode playerId, .ok _⟩ => some (.forget roomCode playerId)
  | ⟨_, .releaseLock, .ok _⟩ => some .unlock
  | _ => none

lemma system_shows : Shows system (fun _ => True)
    (fun s => (State.registry s).seating) Seating.apply seatChange where
  exec i β o s _ := by
    refine ⟨trivial, ?_⟩
    cases o with
    | joinRoom websocket roomCode playerId => exact Registry.seating_join _ _ _ _
    | leaveRoom websocket roomCode => exact Registry.seating_leave _ _ _
    | forget roomCode playerId => exact Registry.seating_forget _ _ _
    | publish roomCode envelope => exact Registry.seating_update _ _ _
    | subscribe roomCode => exact Registry.seating_update _ _ _
    | listen roomCode =>
      simp only [system, exec]
      split
      · exact Registry.seating_update _ _ _
      · rfl
    | commit changes =>
      simp only [system, exec]
      split <;> rfl
    | _ => rfl
  fail i β o e := by cases o <;> rfl
  enter call s t _ h := ⟨trivial, congrArg Registry.seating (enter_eq_some h).2.2⟩
  env e s _ := by
    refine ⟨trivial, ?_⟩
    cases e <;> rfl

end Runs

namespace ConnectionManager

def seatChange : Event Op Exn → Option SeatChange
  | ⟨_, .joinRoom websocket roomCode playerId, .ok _⟩ => some (.join websocket roomCode playerId)
  | ⟨_, .leaveRoom websocket roomCode, .ok _⟩ => some (.leave websocket roomCode)
  | ⟨_, .forget roomCode playerId, .ok _⟩ => some (.forget roomCode playerId)
  | ⟨_, .releaseLock, .ok _⟩ => some .unlock
  | _ => none

lemma manager_shows : Shows manager (fun _ => True) Manager.seating Seating.apply seatChange where
  exec i β o m _ := by
    refine ⟨trivial, ?_⟩
    cases o with
    | joinRoom websocket roomCode playerId => exact Manager.seating_join _ _ _ _
    | leaveRoom websocket roomCode => exact Manager.seating_leave _ _ _
    | forget roomCode playerId => exact Manager.seating_forget _ _ _
    | subscribe task =>
      simp only [manager, exec]
      split
      · split <;> rfl
      · rfl
    | listen task =>
      simp only [manager, exec]
      split <;> rfl
    | _ => rfl
  fail i β o e := by cases o <;> rfl
  enter call m n _ h := by
    refine ⟨trivial, ?_⟩
    cases call with
    | broadcast | subscriber =>
      simp only [manager, enter] at h
      split at h <;> cases h
      rfl
    | _ =>
      cases h
      rfl
  env e m _ := by
    refine ⟨trivial, ?_⟩
    cases e
    rfl

end ConnectionManager

namespace Connections

def seatChange : Event Op Exn → Option SeatChange
  | ⟨_, .enterRoom websocket roomCode playerId, .ok _⟩ => some (.join websocket roomCode playerId)
  | ⟨_, .leaveRoom websocket roomCode _, .ok _⟩ => some (.leave websocket roomCode)
  | ⟨_, .forget roomCode playerId, .ok _⟩ => some (.forget roomCode playerId)
  | ⟨_, .releaseLock, .ok _⟩ => some .unlock
  | _ => none

lemma connections_shows :
    Shows connections Dictionaries.Coherent Dictionaries.seating Seating.apply seatChange where
  exec i β o d h := by
    cases o with
    | enterRoom websocket roomCode playerId =>
      exact ⟨h.enterRoom _ _ _, Dictionaries.seating_enterRoom _ _ _ h⟩
    | leaveRoom websocket roomCode playerId =>
      exact ⟨h.leaveRoom _ _, Dictionaries.seating_leaveRoom _ _ h⟩
    | forget roomCode playerId => exact ⟨h.forget _ _, Dictionaries.seating_forget _ _⟩
    | releaseLock => exact ⟨⟨h.nonempty, h.keys⟩, rfl⟩
    | _ => exact ⟨h, rfl⟩
  fail i β o e := by cases o <;> rfl
  enter call d t h hd := by
    cases call with
    | subscriber =>
      simp only [connections, enter] at hd
      split at hd <;> cases hd
      exact ⟨h, rfl⟩
    | _ =>
      cases hd
      exact ⟨h, rfl⟩
  env e := nomatch e

end Connections

open ConnectionManager (manager) in
open Connections (connections) in
/-- The three models of the connection manager that have made the same changes agree on who is in
which room, on whose sockets these are, on the subscriptions and on the lock. -/
theorem managers_agree [Runtime] {s : State} (hs : s.registry.seating = .empty)
    (acts : List system.Act) (acts' : List manager.Act) (acts'' : List connections.Act)
    (hchanges : (run acts (start s)).world.history.filterMap seatChange =
      (run acts' (start ConnectionManager.Manager.empty)).world.history.filterMap
      ConnectionManager.seatChange)
    (hchanges' : (run acts' (start ConnectionManager.Manager.empty)).world.history.filterMap
        ConnectionManager.seatChange =
      (run acts'' (start Connections.Dictionaries.empty)).world.history.filterMap
      Connections.seatChange) :
    (State.registry (run acts (start s)).world.state).seating =
        ConnectionManager.Manager.seating
        (run acts' (start ConnectionManager.Manager.empty)).world.state ∧
      ConnectionManager.Manager.seating
      (run acts' (start ConnectionManager.Manager.empty)).world.state =
        Connections.Dictionaries.seating
        (run acts'' (start Connections.Dictionaries.empty)).world.state := by
  have hsystem := (system_shows.run (s := s) trivial acts).2
  have hmanager := (ConnectionManager.manager_shows.run (s := ConnectionManager.Manager.empty)
    trivial acts').2
  have hconnections := (Connections.connections_shows.run (s := Connections.Dictionaries.empty)
    ⟨fun _ h => (by cases h), fun _ => rfl⟩ acts'').2
  rw [hs] at hsystem
  exact ⟨hsystem.trans ((congrArg (List.foldl _ _) hchanges).trans hmanager.symm),
    hmanager.trans ((congrArg (List.foldl _ _) hchanges').trans hconnections.symm)⟩

end Askit.Game

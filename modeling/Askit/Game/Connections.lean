import Askit.Game.Operations
import Askit.Interleaving.Machine

/-! The four dictionaries of the connection manager, key by key. Between two awaits of a critical
section nothing else runs, and an await inside one gives back what the awaited task has ended
with. -/

namespace Askit.Game.Connections

open Interleaving Machine Coro

/-- `tasks` counts the subscriber tasks that have been created; an entry of `_subscriptions` is one
of them. -/
structure Dictionaries where
  rooms : String → Option (List Socket)
  players : List (UUID × Socket)
  hosts : String → Option Socket
  subscriptions : String → Option ℕ
  locked : Bool
  tasks : ℕ

namespace Dictionaries

def empty : Dictionaries := ⟨fun _ => none, [], fun _ => none, fun _ => none, false, 0⟩

def subscribeToRoom (d : Dictionaries) (roomCode : String) : Dictionaries :=
  if (d.subscriptions roomCode).isSome then d
  else { d with
    subscriptions := Function.update d.subscriptions roomCode (some d.tasks)
    tasks := d.tasks + 1 }

section Subscribe

variable (d : Dictionaries) (roomCode : String)

@[simp] lemma rooms_subscribeToRoom : (d.subscribeToRoom roomCode).rooms = d.rooms := by
  unfold subscribeToRoom
  split <;> rfl

@[simp] lemma players_subscribeToRoom : (d.subscribeToRoom roomCode).players = d.players := by
  unfold subscribeToRoom
  split <;> rfl

@[simp] lemma hosts_subscribeToRoom : (d.subscribeToRoom roomCode).hosts = d.hosts := by
  unfold subscribeToRoom
  split <;> rfl

@[simp] lemma locked_subscribeToRoom : (d.subscribeToRoom roomCode).locked = d.locked := by
  unfold subscribeToRoom
  split <;> rfl

end Subscribe

def newRoom (d : Dictionaries) (roomCode : String) : Dictionaries :=
  { d with rooms := Function.update d.rooms roomCode (some []) }

def addSocket (d : Dictionaries) (websocket : Socket) (roomCode : String) : Dictionaries :=
  { d with rooms := Function.update d.rooms roomCode ((d.rooms roomCode).map (insert websocket)) }

/-- `self._players[player_id] = websocket`, or the same for a host. -/
def seat (d : Dictionaries) (websocket : Socket) (roomCode : String) : Option UUID → Dictionaries
  | some p => { d with players := (p, websocket) :: d.players.filter (·.1 ≠ p) }
  | none => { d with hosts := Function.update d.hosts roomCode (some websocket) }

section Seat

variable (d : Dictionaries) (websocket : Socket) (roomCode : String) (playerId : Option UUID)

@[simp] lemma rooms_seat : (d.seat websocket roomCode playerId).rooms = d.rooms := by
  cases playerId <;> rfl

@[simp] lemma subscriptions_seat :
    (d.seat websocket roomCode playerId).subscriptions = d.subscriptions := by
  cases playerId <;> rfl

@[simp] lemma locked_seat : (d.seat websocket roomCode playerId).locked = d.locked := by
  cases playerId <;> rfl

end Seat

/-- The critical section of `connect` and `connect_host`. -/
def enterRoom (d : Dictionaries) (websocket : Socket) (roomCode : String) (playerId : Option UUID) :
    Dictionaries :=
  let d' := if (d.rooms roomCode).isNone then (d.newRoom roomCode).subscribeToRoom roomCode else d
  (d'.addSocket websocket roomCode).seat websocket roomCode playerId

/-- The critical section of `disconnect` and `disconnect_host` up to the await of the task. -/
def leaveRoom (d : Dictionaries) (websocket : Socket) (roomCode : String) :
    Option ℕ × Dictionaries :=
  match d.rooms roomCode with
  | none => (none, { d with locked := true })
  | some sockets =>
    if sockets.erase websocket = [] then
      (d.subscriptions roomCode,
        { d with
          rooms := Function.update d.rooms roomCode none
          subscriptions := Function.update d.subscriptions roomCode none
          locked := true })
    else
      (none, { d with
        rooms := Function.update d.rooms roomCode (some (sockets.erase websocket)),
          locked := true })

def forget (d : Dictionaries) (roomCode : String) : Option UUID → Dictionaries
  | some p => { d with players := d.players.filter (·.1 ≠ p), locked := false }
  | none => { d with hosts := Function.update d.hosts roomCode none, locked := false }

end Dictionaries

section Dictionaries

variable (d : Dictionaries) (websocket : Socket) (roomCode room : String) (playerId : Option UUID)

lemma rooms_enterRoom : (d.enterRoom websocket roomCode playerId).rooms room =
    if room = roomCode then some (insert websocket ((d.rooms roomCode).getD []))
      else d.rooms room := by
  simp only [Dictionaries.enterRoom, Dictionaries.rooms_seat, Dictionaries.addSocket]
  by_cases hroom : room = roomCode
  · subst hroom
    cases h : d.rooms room <;> simp [h, Dictionaries.newRoom]
  · cases h : d.rooms roomCode <;> simp [hroom, Dictionaries.newRoom]

lemma subscriptions_enterRoom (h : (d.rooms roomCode).isSome = (d.subscriptions roomCode).isSome) :
    ((d.enterRoom websocket roomCode playerId).subscriptions room).isSome =
      if room = roomCode then true else (d.subscriptions room).isSome := by
  simp only [Dictionaries.enterRoom, Dictionaries.subscriptions_seat, Dictionaries.addSocket]
  by_cases hroom : room = roomCode
  · subst hroom
    cases hr : d.rooms room <;> cases hs : d.subscriptions room <;>
      simp [hr, hs, Dictionaries.newRoom, Dictionaries.subscribeToRoom] at h ⊢
  · cases hr : d.rooms roomCode <;> cases hs : d.subscriptions roomCode <;>
      simp [hroom, hs, Dictionaries.newRoom, Dictionaries.subscribeToRoom]

lemma players_enterRoom : (d.enterRoom websocket roomCode playerId).players =
    match playerId with
    | some p => (p, websocket) :: d.players.filter (·.1 ≠ p)
    | none => d.players := by
  simp only [Dictionaries.enterRoom]
  cases h : d.rooms roomCode <;> cases playerId <;>
    simp [Dictionaries.seat, Dictionaries.addSocket, Dictionaries.newRoom]

lemma hosts_enterRoom : (d.enterRoom websocket roomCode playerId).hosts =
    match playerId with
    | some _ => d.hosts
    | none => Function.update d.hosts roomCode (some websocket) := by
  simp only [Dictionaries.enterRoom]
  cases h : d.rooms roomCode <;> cases playerId <;>
    simp [Dictionaries.seat, Dictionaries.addSocket, Dictionaries.newRoom]

lemma rooms_leaveRoom : (d.leaveRoom websocket roomCode).2.rooms room =
    if room = roomCode then
      ((d.rooms roomCode).map fun sockets => sockets.erase websocket).filter (· ≠ [])
    else d.rooms room := by
  unfold Dictionaries.leaveRoom
  split
  case h_1 h =>
    by_cases hroom : room = roomCode
    · subst hroom
      simp [h]
    · simp [hroom]
  case h_2 sockets h =>
    split
    case isTrue he => by_cases hroom : room = roomCode <;> simp [hroom, h, he, Option.filter]
    case isFalse he => by_cases hroom : room = roomCode <;> simp [hroom, h, he, Option.filter]

lemma subscriptions_leaveRoom (h : (d.rooms roomCode).isSome = (d.subscriptions roomCode).isSome) :
    ((d.leaveRoom websocket roomCode).2.subscriptions room).isSome =
      if room = roomCode then ((d.leaveRoom websocket roomCode).2.rooms roomCode).isSome
      else (d.subscriptions room).isSome := by
  rw [rooms_leaveRoom, if_pos rfl]
  unfold Dictionaries.leaveRoom
  split
  case h_1 hr =>
    rw [hr] at h
    by_cases hroom : room = roomCode
    · subst hroom
      simp [hr, ← h]
    · simp [hroom]
  case h_2 sockets hr =>
    rw [hr] at h
    split
    case isTrue he => by_cases hroom : room = roomCode <;> simp [hroom, hr, he]
    case isFalse he => by_cases hroom : room = roomCode <;> simp [hroom, hr, he, ← h]

lemma leaveRoom_rest : (d.leaveRoom websocket roomCode).2.players = d.players ∧
    (d.leaveRoom websocket roomCode).2.hosts = d.hosts ∧
    (d.leaveRoom websocket roomCode).2.locked = true := by
  unfold Dictionaries.leaveRoom
  split
  · exact ⟨rfl, rfl, rfl⟩
  · split
    · exact ⟨rfl, rfl, rfl⟩
    · exact ⟨rfl, rfl, rfl⟩

lemma forget_rest : (d.forget roomCode playerId).rooms = d.rooms ∧
    (d.forget roomCode playerId).subscriptions = d.subscriptions ∧
    (d.forget roomCode playerId).locked = false := by
  cases playerId <;> exact ⟨rfl, rfl, rfl⟩

end Dictionaries

inductive Op : Type → Type
  | accept (websocket : Socket) : Op Unit
  | enterRoom (websocket : Socket) (roomCode : String) (playerId : Option UUID) : Op Unit
  | leaveRoom (websocket : Socket) (roomCode : String) (playerId : Option UUID) : Op (Option ℕ)
  | awaitTask (task : ℕ) : Op Unit
  | forget (roomCode : String) (playerId : Option UUID) : Op Unit
  | releaseLock : Op Unit
  | subscribe (roomCode : String) : Op Unit
  | listen (roomCode : String) : Op Unit
  | roomSockets (roomCode : String) : Op (List Socket)
  | socketPlayer (websocket : Socket) : Op (Option UUID)
  | sendJson (websocket : Socket) (envelope : Envelope) : Op Unit

def exec {β : Type} : Op β → Dictionaries → Except Exn β × Dictionaries
  | .accept _, d => (.ok (), d)
  | .enterRoom websocket roomCode playerId, d => (.ok (), d.enterRoom websocket roomCode playerId)
  | .leaveRoom websocket roomCode _, d =>
    (.ok (d.leaveRoom websocket roomCode).1, (d.leaveRoom websocket roomCode).2)
  | .awaitTask _, d => (.ok (), d)
  | .forget roomCode playerId, d => (.ok (), d.forget roomCode playerId)
  | .releaseLock, d => (.ok (), { d with locked := false })
  | .subscribe _, d => (.ok (), d)
  | .listen _, d => (.ok (), d)
  | .roomSockets roomCode, d => (.ok ((d.rooms roomCode).getD []), d)
  | .socketPlayer websocket, d =>
    (.ok ((d.players.find? fun entry => entry.2 = websocket).map Prod.fst), d)
  | .sendJson _ _, d => (.ok (), d)

def ready {β : Type} : Op β → Dictionaries → Bool
  | .enterRoom .., d | .leaveRoom .., d => !d.locked
  | _, _ => true

abbrev Handler := Coro Op Exn

abbrev await {α : Type} (o : Op α) : Handler α := Coro.perform o

def connectTo (websocket : Socket) (roomCode : String) (playerId : Option UUID) : Handler Unit := do
  await (.accept websocket)
  await (.enterRoom websocket roomCode playerId)

def connectHost (websocket : Socket) (roomCode : String) : Handler Unit :=
  connectTo websocket roomCode none

def connect (websocket : Socket) (roomCode : String) (playerId : UUID) : Handler Unit :=
  connectTo websocket roomCode (some playerId)

/-- The lock is released on every way out of the critical section. -/
def awaitCancelled : Option ℕ → Handler Unit
  | some task =>
    tryCatch (await (.awaitTask task)) fun e => do
      await .releaseLock
      throw e
  | none => pure ()

def disconnectFrom (websocket : Socket) (roomCode : String) (playerId : Option UUID) :
    Handler Unit := do
  let task ← await (.leaveRoom websocket roomCode playerId)
  awaitCancelled task
  await (.forget roomCode playerId)

def disconnectHost (websocket : Socket) (roomCode : String) : Handler Unit :=
  disconnectFrom websocket roomCode none

def disconnect (websocket : Socket) (roomCode : String) (playerId : UUID) : Handler Unit :=
  disconnectFrom websocket roomCode (some playerId)

/-- An empty `exclude_player_id` excludes nobody; errors of a send are logged and swallowed. -/
def sendUnlessExcluded (envelope : Envelope) (websocket : Socket) : Handler Unit := do
  let playerId ← await (.socketPlayer websocket)
  if ∃ p ∈ envelope.excludePlayerId, p ≠ "" ∧ playerId = some p then pure ()
  else tryCatch (await (.sendJson websocket envelope)) fun _ => pure ()

def sendToLocalRoom (roomCode : String) (envelope : Envelope) : Handler Unit := do
  let connections ← await (.roomSockets roomCode)
  connections.forM (sendUnlessExcluded envelope)

/-- The task, over the messages that it receives. It logs whatever ends it. -/
def subscriber (roomCode : String) (messages : List Envelope) : Handler Unit :=
  tryCatch
    (do
      await (.subscribe roomCode)
      messages.forM fun envelope => do
        await (.listen roomCode)
        sendToLocalRoom roomCode envelope)
    fun _ => pure ()

inductive Call
  | connect (websocket : Socket) (roomCode : String) (playerId : Option UUID)
  | disconnect (websocket : Socket) (roomCode : String) (playerId : Option UUID)
  | subscriber (task : ℕ) (roomCode : String) (messages : List Envelope)
  deriving DecidableEq

def code : Call → Handler Unit
  | .connect websocket roomCode (some playerId) => connect websocket roomCode playerId
  | .connect websocket roomCode none => connectHost websocket roomCode
  | .disconnect websocket roomCode (some playerId) => disconnect websocket roomCode playerId
  | .disconnect websocket roomCode none => disconnectHost websocket roomCode
  | .subscriber _ roomCode messages => subscriber roomCode messages

def enter : Call → Dictionaries → Option Dictionaries
  | .subscriber task _ _, d => if task < d.tasks then some d else none
  | _, d => some d

def connections : Machine Op Exn Unit where
  State := Dictionaries
  Call := Call
  Env := Empty
  exec := exec
  ready := ready
  code := code
  enter := enter
  env e _ := nomatch e

/-- Only an await can raise, and that of a task raises what the task has ended with. -/
def raisesAwaited : connections.Transition → Bool
  | ⟨c, .fault i e⟩ =>
    match c.procs[i]? with
    | some ⟨_, .await o _⟩ =>
      match o with
      | .awaitTask task => c.procs.any fun
        | ⟨.subscriber t _ _, .done (.error e')⟩ => t = task && e' = e
        | _ => false
      | .forget .. | .releaseLock => false
      | _ => true
    | _ => true
  | _ => true

def Call.connects (websocket : Socket) : Call → Bool
  | .connect w _ _ => w = websocket
  | _ => false

def Call.disconnects (websocket : Socket) : Call → Bool
  | .disconnect w _ _ => w = websocket
  | _ => false

/-- A socket connects once, and disconnects at most once and as what it has connected. -/
def orderly : connections.Transition → Bool
  | ⟨c, .spawn (.connect websocket _ _)⟩ => c.calls.all fun call => !Call.connects websocket call
  | ⟨c, .spawn (.disconnect websocket roomCode playerId)⟩ =>
    (c.procs.any fun
      | ⟨.connect w r p, .done (.ok ())⟩ => w = websocket && r = roomCode && p = playerId
      | _ => false) &&
    c.calls.all fun call => !Call.disconnects websocket call
  | _ => true

end Askit.Game.Connections

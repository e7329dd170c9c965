import Askit.Game.Operations
import Askit.Interleaving.Machine

/-! The connection manager on its own: the subscriber tasks that it creates and cancels are told
apart, and a task that has failed stays in the table of subscriptions. -/

namespace Askit.Game.ConnectionManager

open Interleaving Coro

/-- What a broadcast publishes. The serial number is not part of the payload; it tells broadcasts of
the same message apart. -/
structure Parcel where
  serial : ℕ
  message : Frame
  excludePlayerId : Option UUID
  deriving DecidableEq, Repr

/-- A subscriber task. It is `listening` from its SUBSCRIBE on, and `broken` once it has lost its
connection to Redis. -/
structure Task where
  roomCode : String
  started : Bool
  listening : Bool
  cancelled : Bool
  broken : Bool
  inbox : List Parcel
  deriving DecidableEq, Repr

def Task.hears (t : Task) (roomCode : String) : Bool :=
  t.roomCode = roomCode && t.listening && !t.cancelled

/-- The entries of `_subscriptions` are positions in `tasks`. -/
structure Manager where
  rooms : String → List Socket
  players : List (UUID × Socket)
  hosts : String → Option Socket
  subscriptions : String → Option ℕ
  locked : Bool
  tasks : List Task
  broadcasts : ℕ

namespace Manager

def empty : Manager := ⟨fun _ => [], [], fun _ => none, fun _ => none, false, [], 0⟩

def setPlayer (players : List (UUID × Socket)) (playerId : UUID) (websocket : Socket) :
    List (UUID × Socket) :=
  if playerId ∈ players.map Prod.fst then
    players.map fun entry => if entry.1 = playerId then (playerId, websocket) else entry
  else players ++ [(playerId, websocket)]

/-- `_subscribe_to_room`, for a room that has no entry in `_rooms`. -/
def subscribeToRoom (m : Manager) (roomCode : String) : Manager :=
  if m.subscriptions roomCode = none then
    { m with
      subscriptions := Function.update m.subscriptions roomCode (some m.tasks.length)
      tasks := m.tasks ++ [⟨roomCode, false, false, false, false, []⟩] }
  else m

/-- The critical section of `connect` and `connect_host`. -/
def join (m : Manager) (websocket : Socket) (roomCode : String) (playerId : Option UUID) :
    Manager :=
  let m' := if m.rooms roomCode = [] then m.subscribeToRoom roomCode else m
  { m' with
    rooms := Function.update m.rooms roomCode (insert websocket (m.rooms roomCode))
    players := match playerId with
      | some p => setPlayer m.players p websocket
      | none => m.players
    hosts := match playerId with
      | some _ => m.hosts
      | none => Function.update m.hosts roomCode (some websocket) }

/-- `_unsubscribe_from_room` up to the point where it awaits the task. -/
def unsubscribe (m : Manager) (roomCode : String) : Manager :=
  match m.subscriptions roomCode with
  | some task =>
    { m with
      subscriptions := Function.update m.subscriptions roomCode none
      tasks := m.tasks.modify task fun t => { t with cancelled := true } }
  | none => m

/-- The critical section of `disconnect` up to the same point. -/
def leave (m : Manager) (websocket : Socket) (roomCode : String) : Option ℕ × Manager :=
  let rest := (m.rooms roomCode).erase websocket
  let m' := { m with rooms := Function.update m.rooms roomCode rest, locked := true }
  if m.rooms roomCode ≠ [] ∧ rest = [] then (m.subscriptions roomCode, m'.unsubscribe roomCode)
  else (none, m')

def forget (m : Manager) (roomCode : String) : Option UUID → Manager
  | some p => { m with players := m.players.filter (·.1 ≠ p), locked := false }
  | none => { m with hosts := Function.update m.hosts roomCode none, locked := false }

/-- A published message reaches the subscribers that are there. -/
def publish (m : Manager) (roomCode : String) (parcel : Parcel) : Manager :=
  { m with
    tasks := m.tasks.map fun t =>
      if t.hears roomCode then { t with inbox := t.inbox ++ [parcel] } else t }

def modifyTask (m : Manager) (task : ℕ) (f : Task → Task) : Manager :=
  { m with tasks := m.tasks.modify task f }

end Manager

inductive Op : Type → Type
  | accept (websocket : Socket) : Op Unit
  | joinRoom (websocket : Socket) (roomCode : String) (playerId : Option UUID) : Op Unit
  | leaveRoom (websocket : Socket) (roomCode : String) : Op (Option ℕ)
  | awaitTask (task : ℕ) : Op Unit
  | forget (roomCode : String) (playerId : Option UUID) : Op Unit
  | releaseLock : Op Unit
  | publish (roomCode : String) (parcel : Parcel) : Op Unit
  | roomSockets (roomCode : String) : Op (List Socket)
  | socketPlayer (websocket : Socket) : Op (Option UUID)
  | sendJson (websocket : Socket) (parcel : Parcel) : Op Unit
  | subscribe (task : ℕ) : Op Unit
  | listen (task : ℕ) : Op Parcel

def exec {β : Type} : Op β → Manager → Except Exn β × Manager
  | .accept _, m => (.ok (), m)
  | .joinRoom websocket roomCode playerId, m => (.ok (), m.join websocket roomCode playerId)
  | .leaveRoom websocket roomCode, m =>
    (.ok (m.leave websocket roomCode).1, (m.leave websocket roomCode).2)
  | .awaitTask _, m => (.ok (), m)
  | .forget roomCode playerId, m => (.ok (), m.forget roomCode playerId)
  | .releaseLock, m => (.ok (), { m with locked := false })
  | .publish roomCode parcel, m => (.ok (), m.publish roomCode parcel)
  | .roomSockets roomCode, m => (.ok (m.rooms roomCode), m)
  | .socketPlayer websocket, m =>
    (.ok ((m.players.find? fun entry => entry.2 = websocket).map Prod.fst), m)
  | .sendJson _ _, m => (.ok (), m)
  | .subscribe task, m =>
    match m.tasks[task]? with
    | some t =>
      if t.broken then (.error .failure, m)
      else (.ok (), m.modifyTask task fun t => { t with listening := true })
    | none => (.error .failure, m)
  | .listen task, m =>
    match m.tasks[task]? with
    | some ⟨_, _, _, _, false, parcel :: _⟩ =>
      (.ok parcel, m.modifyTask task fun t => { t with inbox := t.inbox.tail })
    | _ => (.error .failure, m)

/-- A cancelled task makes no further step of its own, and one that listens waits for a message or
for the loss of its connection. -/
def ready {β : Type} : Op β → Manager → Bool
  | .joinRoom .., m | .leaveRoom .., m => !m.locked
  | .subscribe task, m => m.tasks[task]?.any fun t => !t.cancelled
  | .listen task, m => m.tasks[task]?.any fun t => !t.cancelled && (t.broken || !t.inbox.isEmpty)
  | _, _ => true

abbrev Handler := Coro Op Exn

abbrev await {α : Type} (o : Op α) : Handler α := Coro.perform o

def connectHost (websocket : Socket) (roomCode : String) : Handler Unit := do
  await (.accept websocket)
  await (.joinRoom websocket roomCode none)

def connect (websocket : Socket) (roomCode : String) (playerId : UUID) : Handler Unit := do
  await (.accept websocket)
  await (.joinRoom websocket roomCode (some playerId))

/-- The lock is released on every way out of the critical section. -/
def awaitCancelled : Option ℕ → Handler Unit
  | some task =>
    tryCatch (await (.awaitTask task)) fun e => do
      await .releaseLock
      throw e
  | none => pure ()

def disconnectFrom (websocket : Socket) (roomCode : String) (playerId : Option UUID) :
    Handler Unit := do
  let task ← await (.leaveRoom websocket roomCode)
  awaitCancelled task
  await (.forget roomCode playerId)

def disconnectHost (websocket : Socket) (roomCode : String) : Handler Unit :=
  disconnectFrom websocket roomCode none

def disconnect (websocket : Socket) (roomCode : String) (playerId : UUID) : Handler Unit :=
  disconnectFrom websocket roomCode (some playerId)

/-- An empty `exclude_player_id` excludes nobody. -/
def Parcel.excludes (parcel : Parcel) (playerId : Option UUID) : Prop :=
  ∃ p ∈ parcel.excludePlayerId, p ≠ "" ∧ playerId = some p

instance (parcel : Parcel) (playerId : Option UUID) : Decidable (parcel.excludes playerId) :=
  inferInstanceAs (Decidable (∃ p ∈ parcel.excludePlayerId, p ≠ "" ∧ playerId = some p))

def sendUnlessExcluded (parcel : Parcel) (websocket : Socket) : Handler Unit := do
  let playerId ← await (.socketPlayer websocket)
  if parcel.excludes playerId then pure ()
  else tryCatch (await (.sendJson websocket parcel)) fun _ => pure ()

def sendToLocalRoom (roomCode : String) (parcel : Parcel) : Handler Unit := do
  let connections ← await (.roomSockets roomCode)
  connections.forM (sendUnlessExcluded parcel)

def broadcastToRoom (roomCode : String) (parcel : Parcel) : Handler Unit :=
  tryCatch (await (.publish roomCode parcel)) fun _ => sendToLocalRoom roomCode parcel

def deliverNext (task : ℕ) (roomCode : String) : Handler Unit := do
  let parcel ← await (.listen task)
  sendToLocalRoom roomCode parcel

/-- The task, over the first `rounds` messages that it receives. It logs whatever ends it. -/
def subscriber (task : ℕ) (roomCode : String) (rounds : ℕ) : Handler Unit :=
  tryCatch
    (do
      await (.subscribe task)
      (List.replicate rounds ()).forM fun _ => deliverNext task roomCode)
    fun _ => pure ()

inductive Call
  | connect (websocket : Socket) (roomCode : String) (playerId : UUID)
  | connectHost (websocket : Socket) (roomCode : String)
  | disconnect (websocket : Socket) (roomCode : String) (playerId : UUID)
  | disconnectHost (websocket : Socket) (roomCode : String)
  | broadcast (roomCode : String) (parcel : Parcel)
  | subscriber (task : ℕ) (roomCode : String) (rounds : ℕ)

def code : Call → Handler Unit
  | .connect websocket roomCode playerId => ConnectionManager.connect websocket roomCode playerId
  | .connectHost websocket roomCode => ConnectionManager.connectHost websocket roomCode
  | .disconnect websocket roomCode playerId =>
    ConnectionManager.disconnect websocket roomCode playerId
  | .disconnectHost websocket roomCode => ConnectionManager.disconnectHost websocket roomCode
  | .broadcast roomCode parcel => broadcastToRoom roomCode parcel
  | .subscriber task roomCode rounds => ConnectionManager.subscriber task roomCode rounds

/-- A task that has been created runs once, unless it has been cancelled before. -/
def enter : Call → Manager → Option Manager
  | .broadcast _ parcel, m =>
    if parcel.serial = m.broadcasts then some { m with broadcasts := m.broadcasts + 1 } else none
  | .subscriber task roomCode _, m =>
    if m.tasks[task]?.any fun t => t.roomCode = roomCode && !t.started && !t.cancelled then
      some (m.modifyTask task fun t => { t with started := true })
    else none
  | _, m => some m

/-- The task loses its connection to Redis, and with it what it has not read. -/
inductive Env
  | breaks (task : ℕ)

def Env.act (m : Manager) : Env → Manager
  | .breaks task => m.modifyTask task fun t =>
    { t with listening := false, broken := true, inbox := [] }

def manager : Machine Op Exn Unit where
  State := Manager
  Call := Call
  Env := Env
  exec := exec
  ready := ready
  code := code
  enter := enter
  env e m := e.act m

end Askit.Game.ConnectionManager

import Askit.Game.Presence
import Askit.Interleaving.Sequential
import Askit.Interleaving.Simulation

/-! Server processes that share the database and Redis, each with a connection manager of its own,
and what their sockets receive. -/

namespace Askit.Game

open Interleaving Machine Coro

namespace Registry

def unused : Registry := ⟨fun _ => [], [], fun _ => none, fun _ => none, false⟩

/-- What an operation of an endpoint does to the dictionaries of its process. -/
def after (r : Registry) : {β : Type} → Op β → Registry
  | _, .joinRoom websocket roomCode playerId => r.join websocket roomCode playerId
  | _, .leaveRoom websocket roomCode => (r.leave websocket roomCode).2
  | _, .forget roomCode playerId => r.forget roomCode playerId
  | _, _ => r

def socketPlayer (r : Registry) (websocket : Socket) : Option UUID :=
  (r.players.find? fun entry => entry.2 = websocket).map Prod.fst

end Registry

/-- An operation and the process that performs it. -/
structure Placed (n : ℕ) (β : Type) where
  process : Fin n
  op : Op β

/-- A handler rests where it waits for its client, and where it sleeps. -/
def Op.waits : {β : Type} → Op β → Bool
  | _, .receiveJson | _, .disconnected _ | _, .sleep _ => true
  | _, _ => false

def Placed.waits {n : ℕ} {β : Type} (o : Placed n β) : Bool := o.op.waits

/-- A timer may fire on any process, so that there are more runs than those in which it fires where
it has been created. -/
structure Cluster (n : ℕ) where
  db : Db
  redis : Redis
  now : Time
  draws : ℕ
  timers : List Timer
  registries : Fin n → Registry
  received : List (Socket × Frame)

namespace Cluster

variable {n : ℕ}

/-- No socket is connected yet. -/
def opened (n : ℕ) (s : State) : Cluster n :=
  ⟨s.db, s.redis, s.now, s.draws, s.timers, fun _ => Registry.unused, []⟩

def view (s : Cluster n) (p : Fin n) : State :=
  ⟨s.db, s.redis, s.registries p, s.now, s.draws, s.timers⟩

def put (s : Cluster n) (p : Fin n) (t : State) : Cluster n :=
  { s with
    db := t.db
    redis := t.redis
    now := t.now
    draws := t.draws
    timers := t.timers
    registries := Function.update s.registries p t.registry }

def act (s : Cluster n) : Env → Cluster n
  | .clock now => { s with now := now }
  | .lose key => { s with redis := s.redis.lose key }

def framesTo (s : Cluster n) (websocket : Socket) : List Frame :=
  (s.received.filter fun r => r.1 = websocket).map Prod.snd

end Cluster

def Call.process {n : ℕ} (place : Socket → Fin n) (p : Fin n) : Call → Fin n
  | .playerEndpoint id .. => place ⟨.player, id⟩
  | .hostEndpoint id .. => place ⟨.host, id⟩
  | _ => p

def Call.delivers : Call → Bool
  | .subscriber _ | .delivery _ => true
  | _ => false

section

variable [Runtime] {n : ℕ}

def execAt (p : Fin n) {β : Type} : Op β → Cluster n → Except Exn β × Cluster n
  | .sendJson websocket message, s =>
    (.ok (), { s with received := s.received ++ [(websocket, message)] })
  | o, s => ((exec o (s.view p)).1, s.put p (exec o (s.view p)).2)

/-- Every process is subscribed, and its subscriber sends the message on before anything else
happens. -/
def publishTo (roomCode : String) (envelope : Envelope) (s : Cluster n) : Cluster n :=
  (List.finRange n).foldl (fun s q => ((sendToLocalRoom roomCode envelope.message
    envelope.excludePlayerId).alone (execAt q) s).2) s

def execPlaced : {β : Type} → Placed n β → Cluster n → Except Exn β × Cluster n
  | _, ⟨_, .publish roomCode envelope⟩, s => (.ok (), publishTo roomCode envelope s)
  | _, ⟨p, o⟩, s => execAt p o s

/-- The processes of a deployment that holds each socket at its place. -/
def cluster (n : ℕ) (place : Socket → Fin n) : Machine (Placed n) Exn Unit where
  State := Cluster n
  Call := Fin n × Call
  Env := Env
  exec := execPlaced
  ready o s := ready o.op (s.view o.process)
  code call := (code call.2).translate (Placed.mk (call.2.process place call.1))
  enter call s := if call.2.delivers then none else (enter call.2 (s.view call.1)).map
    (s.put call.1)
  env e s := s.act e

/-- One process that holds all the sockets. -/
abbrev oneProcess : Machine (Placed 1) Exn Unit := cluster 1 fun _ => 0

def onOneProcess {place : Socket → Fin n} : (cluster n place).Turn → oneProcess.Turn :=
  Turn.map (fun call => (0, call.2)) id

end

section

variable {n : ℕ}

/-- The dictionaries that the registrations and removals of these processes make. -/
def registered (on : Fin n → Bool) (history : List (Event (Placed n) Exn)) : Registry :=
  history.foldl (fun r ev => if on ev.op.process then r.after ev.op.op else r) Registry.unused

/-- The step finds in the dictionaries of its process, or of each that it reaches, what it would
find there if all the sockets were registered on one. A message that Redis does not take goes to the
sockets of one process only. -/
def FindsAll (place : Socket → Fin n) (history : List (Event (Placed n) Exn)) :
    Event (Placed n) Exn → Prop
  | ⟨_, ⟨p, .playerSocket playerId⟩, _⟩ =>
    (registered (· = p) history).playerSocket playerId =
      (registered (fun _ => true) history).playerSocket playerId
  | ⟨_, ⟨p, .hostSocket roomCode⟩, _⟩ =>
    (registered (· = p) history).hosts roomCode =
      (registered (fun _ => true) history).hosts roomCode
  | ⟨_, ⟨_, .publish roomCode envelope⟩, _⟩ => ∀ playerId ∈ envelope.excludePlayerId,
    ∀ websocket ∈ (registered (fun _ => true) history).rooms roomCode,
      ((registered (· = place websocket) history).socketPlayer websocket = some playerId ↔
        (registered (fun _ => true) history).socketPlayer websocket = some playerId)
  | ⟨_, ⟨_, .roomSockets _⟩, _⟩ | ⟨_, ⟨_, .socketPlayer _⟩, _⟩ => False
  | _ => True

instance (place : Socket → Fin n) (history : List (Event (Placed n) Exn)) :
    DecidablePred (FindsAll place history) := by
  rintro ⟨i, ⟨p, o⟩, r⟩
  induction o using Op.casesOn <;> unfold FindsAll <;> infer_instance

end

end Askit.Game

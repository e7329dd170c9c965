import Askit.Game.Router

/-! The running system: which coroutines there are, how they come to be started, and what the
environment does to the shared state. -/

namespace Askit.Game

open Interleaving Machine Coro

/-- A frame of a player's socket is a process of its own; the frames of one host socket are
handled by one process, in the order received. -/
inductive Call
  | joinRoom (roomCode nickname : String) (user : Option UUID)
  | hostFrames (roomCode : String) (hostId : UUID) (frames : List ClientMessage)
  | playerFrame (roomCode : String) (playerId : UUID) (data : ClientMessage)
  | questionTimeout (timer : Timer)
  | playerEndpoint (id : ℕ) (roomCode : String) (origin wsToken : Option String)
  | hostEndpoint (id : ℕ) (roomCode : String) (origin : Option String) (hostUser : UUID)
  | subscriber (roomCode : String)
  | delivery (roomCode : String)

/-- Anything from outside: the clock is read anew, or a Redis key is gone. -/
inductive Env
  | clock (now : Time)
  | lose (key : RedisKey)

def Env.act (s : State) : Env → State
  | .clock now => { s with now := now }
  | .lose key => { s with redis := s.redis.lose key }

variable [Runtime]

def code : Call → Handler Unit
  | .joinRoom roomCode nickname user => joinRoomRoute roomCode nickname user
  | .hostFrames roomCode hostId frames => Askit.Game.hostFrames roomCode hostId frames
  | .playerFrame roomCode playerId data => handlePlayerMessage roomCode playerId data
  | .questionTimeout t => Askit.Game.questionTimeout t.roomCode t.questionIndex t.timeLimitMs
  | .playerEndpoint id roomCode origin wsToken =>
    websocketPlayerEndpoint id roomCode origin wsToken
  | .hostEndpoint id roomCode origin hostUser => websocketHostEndpoint id roomCode origin hostUser
  | .subscriber roomCode => await (.subscribe roomCode)
  | .delivery roomCode => deliverNext roomCode

/-- Frames come from sockets that an endpoint has admitted, and a timer runs once when created. -/
def enter : Call → State → Option State
  | .hostFrames roomCode hostId _, s =>
    if ∃ g ∈ s.db.sessions.get? (Runtime.upper roomCode), g.hostId = hostId then some s else none
  | .playerFrame roomCode playerId _, s =>
    if ∃ g ∈ s.db.sessions.get? (Runtime.upper roomCode),
      ∃ p ∈ s.db.players.get? playerId, p.sessionId = g.sessionId then some s else none
  | .questionTimeout t, s => if t ∈ s.timers then some { s with timers := s.timers.erase t }
      else none
  | _, s => some s

def system : Machine Op Exn Unit where
  State := State
  Call := Call
  Env := Env
  exec := exec
  ready := ready
  code := code
  enter := enter
  env e s := e.act s

/-- No call raises, and Redis keeps its keys. -/
def Faithful : system.Act → Prop
  | .fault _ _ | .env (.lose _) => False
  | _ => True

instance : DecidablePred Faithful
  | .fault _ _ | .env (.lose _) => isFalse id
  | .spawn _ | .run _ | .env (.clock _) => isTrue trivial

lemma Faithful.noFault {a : system.Act} (h : Faithful a) (i : ℕ) (e : Exn) : a ≠ .fault i e := by
  rintro rfl
  exact h

lemma enter_eq_some {call : Call} {s u : State} (h : enter call s = some u) :
    u.db = s.db ∧ u.redis = s.redis ∧ u.registry = s.registry := by
  cases call with
  | hostFrames | playerFrame | questionTimeout =>
    simp only [enter] at h
    split at h <;> cases h
    exact ⟨rfl, rfl, rfl⟩
  | _ =>
    cases h
    exact ⟨rfl, rfl, rfl⟩

/-! A room with two questions and two players, for concrete runs. -/

namespace Sample

def question (id : String) (position : ℕ) : QuizQuestion :=
  ⟨id, "?", position, 30000, false, [⟨id ++ "a", "yes", true⟩, ⟨id ++ "b", "no", false⟩]⟩

def quiz : Quiz := ⟨"quiz", "Quiz", none, [question "q1" 1, question "q2" 2]⟩

def session : GameSession :=
  ⟨"session", "ABCDEF", "quiz", "host", false, false, false, false, .waiting, 0, none, none⟩

def players : List GamePlayer :=
  [⟨"p1", "session", "Ann", none, 0, true⟩, ⟨"p2", "session", "Ben", none, 0, true⟩]

def state : State where
  db := ⟨⟨⟨[quiz], by decide⟩, by decide⟩, ⟨[session], by decide⟩, ⟨players, by decide⟩,
    Tables.Table.empty, by decide⟩
  redis := ⟨fun _ => none, fun _ => none, fun _ _ => [], fun _ => none, fun _ => none⟩
  registry := ⟨fun _ => [], [], fun _ => none, fun _ => none, false⟩
  now := 0
  draws := 0
  timers := []

end Sample

end Askit.Game

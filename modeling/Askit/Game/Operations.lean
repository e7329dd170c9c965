import Askit.Game.Store
import Askit.Interleaving.Contract

/-! The operations that the game's coroutines await, each one atomic step on the shared state:
SQL statements and commits, Redis commands, socket traffic, and the accesses to the clock, the
task set and the connection registry that happen between two awaits. -/

namespace Askit.Game

open Interleaving

inductive Endpoint
  | player
  | host
  deriving DecidableEq, Repr

/-- A WebSocket, by the endpoint that serves it. -/
structure Socket where
  endpoint : Endpoint
  id : ℕ
  deriving DecidableEq, Repr

structure Envelope where
  message : Frame
  excludePlayerId : Option UUID
  deriving DecidableEq, Repr

structure Subscription where
  listening : Bool
  inbox : List Envelope
  deriving DecidableEq, Repr

/-- `ConnectionManager`; a room without sockets has no entry in `_rooms`. -/
structure Registry where
  rooms : String → List Socket
  players : List (UUID × Socket)
  hosts : String → Option Socket
  subscriptions : String → Option Subscription
  locked : Bool

structure Timer where
  roomCode : String
  questionIndex : ℕ
  timeLimitMs : ℕ
  deriving DecidableEq, Repr

structure State where
  db : Db
  redis : Redis
  registry : Registry
  now : Time
  draws : ℕ
  timers : List Timer

inductive LogEntry
  | answerSubmitted (roomCode : String) (playerId : UUID) (isCorrect : Bool) (points : ℤ)
  | answerIgnored (reason : Exn) (playerId : UUID)

inductive Op : Type → Type
  | getRoom (roomCode : String) : Op (Option Room)
  | getQuestion (questionId : UUID) : Op (Option QuizQuestion)
  | getPlayer (playerId : UUID) : Op (Option GamePlayer)
  | selectedAnswers (sessionId questionId : UUID) : Op (List (List String))
  | answersWithPlayers (sessionId questionId : UUID) : Op (List (GamePlayerAnswer × GamePlayer))
  | updateConnected (playerId : UUID) (connected : Bool) : Op Unit
  | commit (changes : Changes) : Op Unit
  | rollback : Op Unit
  | getQuestions (roomCode : String) : Op (Option (List UUID))
  | setQuestions (roomCode : String) (ids : List UUID) (ex : ℕ) : Op Unit
  | expireQuestions (roomCode : String) (ex : ℕ) : Op Unit
  | getQuestionStart (roomCode : String) : Op (Option Time)
  | setQuestionStart (roomCode : String) (t : Time) (ex : ℕ) : Op Unit
  | sismemberAnswered (roomCode : String) (index : ℕ) (playerId : UUID) : Op Bool
  | saddAnswered (roomCode : String) (index : ℕ) (playerId : UUID) : Op Unit
  | expireAnswered (roomCode : String) (index ex : ℕ) : Op Unit
  | getPrevRanking (roomCode : String) : Op (Option (List (UUID × ℕ)))
  | setPrevRanking (roomCode : String) (ranking : List (UUID × ℕ)) (ex : ℕ) : Op Unit
  | deletePrevRanking (roomCode : String) : Op Unit
  | getWsToken (token : String) : Op (Option UUID)
  | setWsToken (token : String) (playerId : UUID) (ex : ℕ) : Op Unit
  | publish (roomCode : String) (envelope : Envelope) : Op Unit
  | sleep (ms : ℕ) : Op Unit
  | now : Op Time
  | createTask (timer : Timer) : Op Unit
  | shuffle (questions : List QuizQuestion) : Op (List QuizQuestion)
  | uuid4 : Op UUID
  | log (entry : LogEntry) : Op Unit
  | receiveJson : Op Unit
  | accept (websocket : Socket) : Op Unit
  | disconnected (websocket : Socket) : Op Unit
  | sendJson (websocket : Socket) (message : Frame) : Op Unit
  | close (websocket : Socket) (code : ℕ) (reason : String) : Op Unit
  | joinRoom (websocket : Socket) (roomCode : String) (playerId : Option UUID) : Op Unit
  | leaveRoom (websocket : Socket) (roomCode : String) : Op Bool
  | awaitCancelled (roomCode : String) : Op Unit
  | forget (roomCode : String) (playerId : Option UUID) : Op Unit
  | releaseLock : Op Unit
  | playerSocket (playerId : UUID) : Op (Option Socket)
  | hostSocket (roomCode : String) : Op (Option Socket)
  | roomSockets (roomCode : String) : Op (List Socket)
  | socketPlayer (websocket : Socket) : Op (Option UUID)
  | subscribe (roomCode : String) : Op Unit
  | listen (roomCode : String) : Op Envelope

abbrev Handler := Coro Op Exn

abbrev await {α : Type} (o : Op α) : Handler α := Coro.perform o

lemma lookup_remove (players : List (UUID × Socket)) (p q : UUID) :
    (players.filter (·.1 ≠ p)).lookup q = if q = p then none else players.lookup q := by
  induction players with
  | nil => simp
  | cons entry players ih =>
    obtain ⟨r, websocket⟩ := entry
    by_cases hr : r = p
    · rw [List.filter_cons_of_neg (by simpa using hr), ih, List.lookup_cons, hr]
      by_cases hq : q = p
      · simp [hq]
      · simp [hq, beq_eq_false_iff_ne.mpr hq]
    · rw [List.filter_cons_of_pos (by simpa using hr), List.lookup_cons, List.lookup_cons, ih]
      by_cases hq : q = r
      · simp [hq, hr]
      · simp [beq_eq_false_iff_ne.mpr hq]

namespace Registry

def playerSocket (r : Registry) (playerId : UUID) : Option Socket := r.players.lookup playerId

/-- The body of the critical section of `connect` and `connect_host`. -/
def join (r : Registry) (websocket : Socket) (roomCode : String) (playerId : Option UUID) :
    Registry :=
  { r with
    rooms := Function.update r.rooms roomCode (insert websocket (r.rooms roomCode))
    subscriptions := if r.rooms roomCode = [] ∧ r.subscriptions roomCode = none then
        Function.update r.subscriptions roomCode (some ⟨false, []⟩) else r.subscriptions
    players := match playerId with
      | some p => (p, websocket) :: r.players.filter (·.1 ≠ p)
      | none => r.players
    hosts := match playerId with
      | some _ => r.hosts
      | none => Function.update r.hosts roomCode (some websocket) }

/-- The critical section of `disconnect` up to the point where it may await the subscriber. -/
def leave (r : Registry) (websocket : Socket) (roomCode : String) : Bool × Registry :=
  let rest := (r.rooms roomCode).erase websocket
  let r' := { r with rooms := Function.update r.rooms roomCode rest, locked := true }
  if r.rooms roomCode ≠ [] ∧ rest = [] then
    ((r.subscriptions roomCode).isSome,
      { r' with subscriptions := Function.update r.subscriptions roomCode none })
  else (false, r')

def forget (r : Registry) (roomCode : String) : Option UUID → Registry
  | some p => { r with players := r.players.filter (·.1 ≠ p), locked := false }
  | none => { r with hosts := Function.update r.hosts roomCode none, locked := false }

def update (r : Registry) (roomCode : String) (f : Subscription → Subscription) : Registry :=
  { r with
    subscriptions := Function.update r.subscriptions roomCode ((r.subscriptions roomCode).map f) }

/-- A published message reaches the subscriber that is listening at that moment. -/
def deliver (e : Envelope) (s : Subscription) : Subscription :=
  if s.listening then { s with inbox := s.inbox ++ [e] } else s

def pending (r : Registry) (roomCode : String) : List Envelope :=
  ((r.subscriptions roomCode).map Subscription.inbox).getD []

end Registry

variable [Runtime]

def exec {β : Type} : Op β → State → Except Exn β × State
  | .getRoom roomCode, s => (.ok (s.db.room? (Runtime.upper roomCode)), s)
  | .getQuestion questionId, s => (.ok (s.db.question? questionId), s)
  | .getPlayer playerId, s => (.ok (s.db.players.get? playerId), s)
  | .selectedAnswers sessionId questionId, s =>
    (.ok ((s.db.answersOf sessionId questionId).map fun r => r.1.selectedAnswerIds), s)
  | .answersWithPlayers sessionId questionId, s => (.ok (s.db.answersOf sessionId questionId), s)
  | .updateConnected _ _, s => (.ok (), s)
  | .commit changes, s =>
    match s.db.commit changes with
    | some db => (.ok (), { s with db := db })
    | none => (.error .integrityError, s)
  | .rollback, s => (.ok (), s)
  | .getQuestions roomCode, s => (.ok (s.redis.questions roomCode), s)
  | .setQuestions roomCode ids _, s =>
    (.ok (), { s with redis := s.redis.setQuestions roomCode (some ids) })
  | .expireQuestions _ _, s => (.ok (), s)
  | .getQuestionStart roomCode, s => (.ok (s.redis.questionStart roomCode), s)
  | .setQuestionStart roomCode t _, s =>
    (.ok (), { s with redis := s.redis.setQuestionStart roomCode (some t) })
  | .sismemberAnswered roomCode index playerId, s =>
    (.ok (decide (playerId ∈ s.redis.answered roomCode index)), s)
  | .saddAnswered roomCode index playerId, s =>
    (.ok (), { s with
      redis := s.redis.setAnswered roomCode index
        (insert playerId (s.redis.answered roomCode index)) })
  | .expireAnswered _ _ _, s => (.ok (), s)
  | .getPrevRanking roomCode, s => (.ok (s.redis.prevRanking roomCode), s)
  | .setPrevRanking roomCode ranking _, s =>
    (.ok (), { s with redis := s.redis.setPrevRanking roomCode (some ranking) })
  | .deletePrevRanking roomCode, s =>
    (.ok (), { s with redis := s.redis.setPrevRanking roomCode none })
  | .getWsToken token, s => (.ok (s.redis.wsToken token), s)
  | .setWsToken token playerId _, s =>
    (.ok (), { s with redis := s.redis.setWsToken token (some playerId) })
  | .publish roomCode envelope, s =>
    (.ok (), { s with registry := s.registry.update roomCode (Registry.deliver envelope) })
  | .sleep _, s => (.ok (), s)
  | .now, s => (.ok s.now, s)
  | .createTask timer, s => (.ok (), { s with timers := s.timers ++ [timer] })
  | .shuffle questions, s =>
    (.ok (Runtime.shuffle s.draws questions), { s with draws := s.draws + 1 })
  | .uuid4, s => (.ok (Runtime.uuid4 s.draws), { s with draws := s.draws + 1 })
  | .log _, s => (.ok (), s)
  | .receiveJson, s => (.ok (), s)
  | .accept _, s => (.ok (), s)
  | .disconnected _, s => (.ok (), s)
  | .sendJson _ _, s => (.ok (), s)
  | .close _ _ _, s => (.ok (), s)
  | .joinRoom websocket roomCode playerId, s =>
    (.ok (), { s with registry := s.registry.join websocket roomCode playerId })
  | .leaveRoom websocket roomCode, s =>
    (.ok (s.registry.leave websocket roomCode).1,
      { s with registry := (s.registry.leave websocket roomCode).2 })
  | .awaitCancelled _, s => (.ok (), s)
  | .forget roomCode playerId, s =>
    (.ok (), { s with registry := s.registry.forget roomCode playerId })
  | .releaseLock, s => (.ok (), { s with registry := { s.registry with locked := false } })
  | .playerSocket playerId, s => (.ok (s.registry.playerSocket playerId), s)
  | .hostSocket roomCode, s => (.ok (s.registry.hosts roomCode), s)
  | .roomSockets roomCode, s => (.ok (s.registry.rooms roomCode), s)
  | .socketPlayer websocket, s =>
    (.ok ((s.registry.players.find? fun p => p.2 = websocket).map Prod.fst), s)
  | .subscribe roomCode, s =>
    (.ok (), { s with registry := s.registry.update roomCode fun b =>
      { b with listening := true } })
  | .listen roomCode, s =>
    match s.registry.pending roomCode with
    | e :: rest =>
      (.ok e, { s with registry := s.registry.update roomCode fun b => { b with inbox := rest } })
    | [] => (.error .failure, s)

/-- The lock admits one critical section at a time, and a subscriber waits for a message. -/
def ready {β : Type} : Op β → State → Bool
  | .joinRoom _ _ _, s => !s.registry.locked
  | .leaveRoom _ _, s => !s.registry.locked
  | .listen roomCode, s => !(s.registry.pending roomCode).isEmpty
  | _, _ => true

end Askit.Game

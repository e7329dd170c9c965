import Askit.Game.Store
import Askit.Interleaving.Machine
import Askit.Quizzes.Models

/-! `create_room`: its retries when a room code is taken, and the calls of it as a machine. -/

namespace Askit.Rooms

open Interleaving Coro Tables
open Game (UUID Time Runtime GameSession GameSessionStatus)
open Quizzes (QuizStatus)

/-- The columns of a quiz that `create_room` reads. -/
structure QuizRow where
  quizId : UUID
  creatorId : UUID
  status : QuizStatus
  deriving DecidableEq, Repr

structure CreateRoomRequest where
  quizId : UUID
  randomizeQuestions : Bool
  randomizeAnswers : Bool
  showImmediateFeedback : Bool
  publicResults : Bool
  deriving DecidableEq, Repr

/-- A session before it is flushed, without the identifier and the time that it gets then. -/
structure NewSession where
  roomCode : String
  quizId : UUID
  hostId : UUID
  randomizeQuestions : Bool
  randomizeAnswers : Bool
  showImmediateFeedback : Bool
  publicResults : Bool
  deriving DecidableEq, Repr

structure SessionRow where
  session : GameSession
  createdAt : Time
  deriving DecidableEq, Repr

def SessionRow.roomCode (r : SessionRow) : String := r.session.roomCode

def SessionRow.sessionId (r : SessionRow) : UUID := r.session.sessionId

def NewSession.row (n : NewSession) (sessionId : UUID) (createdAt : Time) : SessionRow :=
  ⟨⟨sessionId, n.roomCode, n.quizId, n.hostId, n.randomizeQuestions, n.randomizeAnswers,
    n.showImmediateFeedback, n.publicResults, .waiting, 0, none, none⟩, createdAt⟩

structure RoomResponse where
  sessionId : UUID
  roomCode : String
  quizId : UUID
  status : GameSessionStatus
  playerCount : ℕ
  createdAt : Time
  deriving DecidableEq, Repr

inductive Exn
  | quizNotFoundError
  | quizAccessDeniedError
  | quizNotPlayableError
  | integrityError
  | invalidRequestError
  deriving DecidableEq, Repr

structure Sessions where
  table : Table SessionRow.roomCode
  ids_nodup : (table.rows.map SessionRow.sessionId).Nodup

namespace Sessions

def insert (t : Sessions) (r : SessionRow) : Option Sessions :=
  if h : r.sessionId ∉ t.table.rows.map SessionRow.sessionId then
    match ht : t.table.insert r with
    | some table => some ⟨table, by
        rw [Table.rows_insert ht, List.map_append]
        exact t.ids_nodup.append (List.nodup_singleton _) (by simpa using h)⟩
    | none => none
  else none

def byId (t : Sessions) (sessionId : UUID) : Option SessionRow :=
  t.table.rows.find? fun r => r.sessionId = sessionId

end Sessions

/-- `codes` are the codes that `generate_room_code` draws one after the other. -/
structure State where
  quizzes : Table QuizRow.quizId
  sessions : Sessions
  codes : ℕ → String
  generated : ℕ
  draws : ℕ
  now : Time

inductive Op : Type → Type
  | selectQuiz (quizId : UUID) : Op (Option QuizRow)
  | generateRoomCode : Op String
  | commit (session : NewSession) : Op UUID
  | rollback : Op Unit
  | refresh (sessionId : UUID) : Op (Option SessionRow)

abbrev Handler := Coro Op Exn

abbrev await {α : Type} (o : Op α) : Handler α := Coro.perform o

variable [Runtime]

/-- The identifier is drawn when the insert is flushed, whether it is refused or not. -/
def exec {β : Type} : Op β → State → Except Exn β × State
  | .selectQuiz quizId, s => (.ok (s.quizzes.get? quizId), s)
  | .generateRoomCode, s => (.ok (s.codes s.generated), { s with generated := s.generated + 1 })
  | .commit session, s =>
    match s.sessions.insert (session.row (Runtime.uuid4 s.draws) s.now) with
    | some sessions => (.ok (Runtime.uuid4 s.draws),
        { s with sessions := sessions, draws := s.draws + 1 })
    | none => (.error .integrityError, { s with draws := s.draws + 1 })
  | .rollback, s => (.ok (), s)
  | .refresh sessionId, s => (.ok (s.sessions.byId sessionId), s)

def roomCodeAttempts : ℕ := 5

def newSession (quizId hostId : UUID) (data : CreateRoomRequest) (roomCode : String) : NewSession :=
  ⟨roomCode, quizId, hostId, data.randomizeQuestions, data.randomizeAnswers,
    data.showImmediateFeedback, data.publicResults⟩

/-- The loop, with so many turns left; what is returned identifies the session of the last turn. -/
def storeRoom (session : String → NewSession) : ℕ → Handler UUID
  | 0 => throw .invalidRequestError
  | remaining + 1 => do
    let roomCode ← await .generateRoomCode
    tryCatch (await (.commit (session roomCode))) fun
      | .integrityError => do
        await .rollback
        if remaining = 0 then throw .integrityError else storeRoom session remaining
      | e => throw e

def createRoom (userId : UUID) (data : CreateRoomRequest) : Handler RoomResponse := do
  let some quiz ← await (.selectQuiz data.quizId) | throw .quizNotFoundError
  require (quiz.creatorId = userId) .quizAccessDeniedError
  require (quiz.status = .published) .quizNotPlayableError
  let sessionId ← storeRoom (newSession quiz.quizId userId data) roomCodeAttempts
  let some row ← await (.refresh sessionId) | throw .invalidRequestError
  pure ⟨row.session.sessionId, row.session.roomCode, row.session.quizId, row.session.status, 0,
    row.createdAt⟩

structure Call where
  userId : UUID
  data : CreateRoomRequest

/-- Any number of calls; the environment sets the clock. -/
def system : Machine Op Exn RoomResponse where
  State := State
  Call := Call
  Env := Time
  exec := exec
  ready _ _ := true
  code call := createRoom call.userId call.data
  enter _ s := some s
  env now s := { s with now := now }

end Askit.Rooms

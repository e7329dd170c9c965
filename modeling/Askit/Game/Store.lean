import Askit.Game.Schemas
import Askit.Tables.KeyedTable
import Mathlib.Logic.Function.Basic

/-! The database, what a commit of an ORM session does to it, and the Redis keys of a game. -/

namespace Askit.Game

open Tables

structure Quizzes where
  table : Table Quiz.quizId
  questionIds_nodup : ((table.rows.flatMap Quiz.questions).map QuizQuestion.questionId).Nodup

structure Db where
  quizzes : Quizzes
  sessions : Table GameSession.roomCode
  players : Table GamePlayer.playerId
  answers : Table GamePlayerAnswer.key
  quizId_fk : ∀ g ∈ sessions.rows, g.quizId ∈ quizzes.table.rows.map Quiz.quizId

namespace Db

def question? (d : Db) (questionId : UUID) : Option QuizQuestion :=
  (d.quizzes.table.rows.flatMap Quiz.questions).find? fun q => q.questionId = questionId

lemma questionId_question? {d : Db} {questionId : UUID} {question : QuizQuestion}
    (h : d.question? questionId = some question) : question.questionId = questionId := by
  simpa using List.find?_some h

def playersOf (d : Db) (sessionId : UUID) : List GamePlayer :=
  d.players.rows.filter fun p => p.sessionId = sessionId

def room? (d : Db) (roomCode : String) : Option Room :=
  (d.sessions.get? roomCode).bind fun s =>
    (d.quizzes.table.get? s.quizId).map fun q => ⟨s, d.playersOf s.sessionId, q.loaded⟩

def answersOf (d : Db) (sessionId questionId : UUID) : List (GamePlayerAnswer × GamePlayer) :=
  d.answers.rows.filterMap fun a =>
    if a.questionId = questionId then
      ((d.players.get? a.playerId).filter fun p => p.sessionId = sessionId).map fun p => (a, p)
    else none

end Db

structure Dirty (ρ : Type) where
  loaded : ρ
  current : ρ

/-- A flush writes only the columns whose value has changed since they were loaded. -/
def changed {α : Type} [DecidableEq α] (loaded current row : α) : α :=
  if current = loaded then row else current

lemma changed_loaded {α : Type} [DecidableEq α] (loaded current : α) :
    changed loaded current loaded = current := by
  unfold changed
  split
  · next h => exact h.symm
  · rfl

def GameSession.flush (s : Dirty GameSession) (row : GameSession) : GameSession :=
  { row with
    status := changed s.loaded.status s.current.status row.status
    currentQuestionIndex := changed s.loaded.currentQuestionIndex s.current.currentQuestionIndex
      row.currentQuestionIndex
    startedAt := changed s.loaded.startedAt s.current.startedAt row.startedAt
    endedAt := changed s.loaded.endedAt s.current.endedAt row.endedAt }

@[simp] lemma GameSession.quizId_flush (s : Dirty GameSession) (row : GameSession) :
    (GameSession.flush s row).quizId = row.quizId := rfl

@[simp] lemma GameSession.roomCode_flush (s : Dirty GameSession) (row : GameSession) :
    (GameSession.flush s row).roomCode = row.roomCode := rfl

def GamePlayer.flush (p : Dirty GamePlayer) (row : GamePlayer) : GamePlayer :=
  { row with score := changed p.loaded.score p.current.score row.score }

@[simp] lemma GamePlayer.playerId_flush (p : Dirty GamePlayer) (row : GamePlayer) :
    (GamePlayer.flush p row).playerId = row.playerId := rfl

def GamePlayer.connect (connected : Bool) (row : GamePlayer) : GamePlayer :=
  { row with isConnected := connected }

@[simp] lemma GamePlayer.playerId_connect (connected : Bool) (row : GamePlayer) :
    (row.connect connected).playerId = row.playerId := rfl

/-- What the transaction of one ORM session holds when it commits. `connected` is the pending
`UPDATE` of `_set_player_connected`. -/
structure Changes where
  session : Option (Dirty GameSession) := none
  player : Option (Dirty GamePlayer) := none
  connected : Option (UUID × Bool) := none
  newPlayer : Option GamePlayer := none
  newAnswer : Option GamePlayerAnswer := none

namespace Db

def flushSession (d : Db) : Option (Dirty GameSession) → Table GameSession.roomCode
  | none => d.sessions
  | some s => d.sessions.modify s.loaded.roomCode (GameSession.flush s)
      (GameSession.roomCode_flush s)

lemma quizId_flushSession (d : Db) (s : Option (Dirty GameSession)) :
    ∀ g ∈ (d.flushSession s).rows, g.quizId ∈ d.quizzes.table.rows.map Quiz.quizId := by
  cases s with
  | none => exact d.quizId_fk
  | some s =>
    intro g hg
    obtain ⟨row, hrow, rfl⟩ := List.mem_map.mp hg
    split
    · exact d.quizId_fk row hrow
    · exact d.quizId_fk row hrow

def flushPlayer (t : Table GamePlayer.playerId) :
    Option (Dirty GamePlayer) → Table GamePlayer.playerId
  | none => t
  | some p => t.modify p.loaded.playerId (GamePlayer.flush p) (GamePlayer.playerId_flush p)

def flushConnected (t : Table GamePlayer.playerId) :
    Option (UUID × Bool) → Table GamePlayer.playerId
  | none => t
  | some (playerId, connected) =>
    t.modify playerId (GamePlayer.connect connected) (GamePlayer.playerId_connect connected)

def insertPlayer (d : Db) (t : Table GamePlayer.playerId) :
    Option GamePlayer → Option (Table GamePlayer.playerId)
  | none => some t
  | some p => if d.sessions.rows.any (fun s => s.sessionId = p.sessionId) then t.insert p else none

def insertAnswer (d : Db) : Option GamePlayerAnswer → Option (Table GamePlayerAnswer.key)
  | none => some d.answers
  | some a =>
    if (d.players.get? a.playerId).isSome ∧ (d.question? a.questionId).isSome then
      d.answers.insert a
    else none

/-- The commit is refused as a whole when a unique or a foreign key is violated. -/
def commit (d : Db) (c : Changes) : Option Db :=
  (d.insertAnswer c.newAnswer).bind fun answers =>
    (d.insertPlayer (flushConnected (flushPlayer d.players c.player) c.connected) c.newPlayer).map
      fun players => ⟨d.quizzes, d.flushSession c.session, players, answers,
        d.quizId_flushSession c.session⟩

end Db

/-- The keys of a game; `room` is the code as it came in the URL. -/
structure Redis where
  questions : String → Option (List UUID)
  questionStart : String → Option Time
  answered : String → ℕ → List UUID
  prevRanking : String → Option (List (UUID × ℕ))
  wsToken : String → Option UUID

inductive RedisKey
  | questions (room : String)
  | questionStart (room : String)
  | answered (room : String) (index : ℕ)
  | prevRanking (room : String)
  | wsToken (token : String)

namespace Redis

def setQuestions (r : Redis) (room : String) (ids : Option (List UUID)) : Redis :=
  { r with questions := Function.update r.questions room ids }

def setQuestionStart (r : Redis) (room : String) (t : Option Time) : Redis :=
  { r with questionStart := Function.update r.questionStart room t }

def setAnswered (r : Redis) (room : String) (index : ℕ) (players : List UUID) : Redis :=
  { r with
    answered := Function.update r.answered room (Function.update (r.answered room) index players) }

def setPrevRanking (r : Redis) (room : String) (ranking : Option (List (UUID × ℕ))) : Redis :=
  { r with prevRanking := Function.update r.prevRanking room ranking }

def setWsToken (r : Redis) (token : String) (playerId : Option UUID) : Redis :=
  { r with wsToken := Function.update r.wsToken token playerId }

/-- A key expires, or Redis loses it. -/
def lose (r : Redis) : RedisKey → Redis
  | .questions room => r.setQuestions room none
  | .questionStart room => r.setQuestionStart room none
  | .answered room index => r.setAnswered room index []
  | .prevRanking room => r.setPrevRanking room none
  | .wsToken token => r.setWsToken token none

end Redis

end Askit.Game

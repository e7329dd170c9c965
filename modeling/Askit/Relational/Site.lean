import Askit.Relational.Services
import Askit.Rooms.Services

/-! The runs of the site, whose requests are handled one at a time. -/

namespace Askit.Relational

open Tables
open Game (UUID Time Dirty Runtime GameSession GamePlayer GamePlayerAnswer)
open Quizzes (Platform QuizStatus QuizCreate QuizUpdate)
open Auth (User)
open Rooms (CreateRoomRequest)

/-- Beside the database: the orders of the questions in Redis, under the room codes that the sockets
gave, and the players that a socket has let in. -/
structure Site where
  db : Database
  world : World
  orders : String → Option (List UUID)
  admitted : List (String × UUID)

/-- The requests by which `QuizService` writes. -/
inductive Request
  | createQuiz (userId : UUID) (data : QuizCreate)
  | updateQuiz (quizId userId : UUID) (data : QuizUpdate)
  | setQuizStatus (quizId : UUID) (newStatus : QuizStatus) (userId : UUID)
  | deleteQuiz (quizId userId : UUID)
  | toggleFavorite (quizId userId : UUID)

def World.draw (w : World) : World := { w with draws := w.draws + 1 }

section Runs

variable [Platform]

def Request.run (d : Database) (w : World) : Request → Database × World
  | createQuiz userId data => (serve (Relational.createQuiz userId data) d w).2
  | updateQuiz quizId userId data => (serve (Relational.updateQuiz quizId userId data) d w).2
  | setQuizStatus quizId newStatus userId =>
    (serve (Relational.setQuizStatus quizId newStatus userId) d w).2
  | deleteQuiz quizId userId => (serve (Relational.deleteQuiz quizId userId) d w).2
  | toggleFavorite quizId userId => (serve (Relational.toggleFavorite quizId userId) d w).2

/-- The session of `get_room`. -/
def Rows.room? (d : Rows) (roomCode : String) : Option GameSession :=
  d.sessions.rows.find? fun g => g.roomCode = Runtime.upper roomCode

def newSession (sessionId hostId : UUID) (data : CreateRoomRequest) (roomCode : String) :
    GameSession :=
  ⟨sessionId, roomCode, data.quizId, hostId, data.randomizeQuestions, data.randomizeAnswers,
    data.showImmediateFeedback, data.publicResults, .waiting, 0, none, none⟩

namespace Site

def after (s : Site) (r : Request) :
    Site := { s with db := (r.run s.db s.world).1, world := (r.run s.db s.world).2 }

/-- The requests that are not refused. Where the code checks more than is checked here, or writes
values that no reference depends on, there are more steps than the site can take. -/
inductive Step : Site → Site → Prop
  | request (s : Site) (r : Request) :
      Step s { s with db := (r.run s.db s.world).1, world := (r.run s.db s.world).2 }
  | register {s : Site} {u : User} {d : Database} (hid : u.id = Runtime.uuid4 s.world.draws)
      (h : Sql.insertUser u s.db = .ok d) : Step s { s with db := d, world := s.world.draw }
  | account {s : Site} {userId : UUID} {u : Dirty User} {d : Database}
      (h : Sql.updateUser userId u s.db = .ok d) :
      Step s { s with db := d }
  | createRoom {s : Site} {userId : UUID} {data : CreateRoomRequest} {roomCode : String}
      {quiz : Quiz} {d : Database}
      (hquiz : s.db.quizzes.get? data.quizId = some quiz) (howner : quiz.creatorId = userId)
      (hstatus : quiz.status = .published)
      (h : Sql.insertSession (newSession (Runtime.uuid4 s.world.draws) userId data roomCode)
        s.db = .ok d) :
      Step s { s with db := d, world := s.world.draw }
  | joinRoom {s : Site} {roomCode nickname : String} {user : Option UUID} {g : GameSession}
      {d : Database}
      (hroom : s.db.room? roomCode = some g) (hstatus : g.status = .waiting)
        (hhost : user ≠ some g.hostId)
      (h : Sql.insertPlayer ⟨Runtime.uuid4 s.world.draws, g.sessionId, nickname, user, 0, true⟩
        s.db = .ok d) :
      Step s { s with db := d, world := s.world.draw }
  | connect {s : Site} {roomCode : String} {g : GameSession} {p : GamePlayer}
      (hroom : s.db.room? roomCode = some g)
      (hp : p ∈ s.db.players.rows) (hsession : p.sessionId = g.sessionId) :
      Step s { s with admitted := (roomCode, p.playerId) :: s.admitted }
  | startGame {s : Site} {roomCode : String} {hostId : UUID} {g : GameSession} {ids : List UUID}
      {d : Database}
      (hroom : s.db.room? roomCode = some g) (hhost : g.hostId = hostId)
        (hstatus : g.status = .waiting)
      (h : Sql.updateSession g.sessionId { status := some .starting, startedAt := some s.world.now
        } s.db = .ok d)
      (hids : ids.Perm ((s.db.questionsOf g.quizId).map QuizQuestion.questionId)) :
      Step s { s with db := d, orders := Function.update s.orders roomCode (some ids) }
  -- what follows the start of a game changes the status, the index of the question and the end of
  -- its session
  | progress {s : Site} {sessionId : UUID} {c : SessionSet} {d : Database}
      (h : Sql.updateSession sessionId c s.db = .ok d) : Step s { s with db := d }
  | submitAnswer {s : Site} {roomCode : String} {g : GameSession} {ids : List UUID}
      {a : GamePlayerAnswer}
      {c : PlayerSet} {d e : Database} (hroom : s.db.room? roomCode = some g)
        (hstatus : g.status = .question)
      (hadmitted : (roomCode, a.playerId) ∈ s.admitted) (horder : s.orders roomCode = some ids)
      (hstarted : g.currentQuestionIndex ≠ 0)
        (hcurrent : ids[g.currentQuestionIndex - 1]? = some a.questionId)
      (hscore : Sql.updatePlayer a.playerId c s.db = .ok d) (h : Sql.insertRecord a d = .ok e) :
      Step s { s with db := e }
  | setPlayerConnected {s : Site} {playerId : UUID} {connected : Bool} {d : Database}
      (h : Sql.updatePlayer playerId { isConnected := some connected } s.db = .ok d) :
        Step s { s with db := d }
  | expire (s : Site) (roomCode : String) :
      Step s { s with orders := Function.update s.orders roomCode none }
  -- time passes, and identifiers are drawn for what is not stored here
  | idle {s : Site} {w : World} (h : s.world ≤ w) : Step s { s with world := w }

inductive Reachable : Site → Prop
  | init (now : Time) : Reachable ⟨.empty, ⟨0, now⟩, fun _ => none, []⟩
  | step {s t : Site} : Reachable s → Step s t → Reachable t

lemma Reachable.requests {s : Site} (h : s.Reachable) (rs : List Request) :
    (rs.foldl after s).Reachable := by
  induction rs generalizing s with
  | nil => exact h
  | cons r rs ih => exact ih (.step h (.request s r))

end Site

end Runs

section

attribute [local instance] Platform.ascii

namespace Sample

/-! Two members of the site, of whom one hosts a game that the other one plays. -/

def member : User := { ada with id := Runtime.uuid4 0 }

def grace : User :=
  { ada with id := Runtime.uuid4 1, username := "grace", email := "grace@example.org" }

def oceans : QuizCreate :=
  ⟨"Oceans", none, ["sea"], ⟨30000, .private_, 5⟩,
    [⟨"Largest?", 20000, false, [⟨"Pacific", true⟩, ⟨"Arctic", false⟩]⟩]⟩

def rivers : QuizCreate :=
  ⟨"Rivers", some "of the world", [], ⟨60000, .public_, 9⟩,
    [⟨"Longest?", 30000, true, [⟨"Nile", true⟩, ⟨"Rhine", false⟩]⟩]⟩

def registered : Site := ⟨stored [Sql.insertUser member], ⟨1, 7⟩, fun _ => none, []⟩

lemma registered_reachable : registered.Reachable :=
    .step (.init 7) (.register (u := member) rfl rfl)

def stocked : Site := registered.after (.createQuiz member.id oceans)

lemma stocked_reachable : stocked.Reachable :=
    .step registered_reachable (.request registered (.createQuiz member.id oceans))

def both : Site := ⟨stored [Sql.insertUser member, Sql.insertUser grace], ⟨2, 7⟩, fun _ => none, []⟩

lemma both_reachable : both.Reachable :=
  .step (s := registered) registered_reachable (.register (u := grace) rfl rfl)

def authored : Site :=
  [Request.createQuiz member.id oceans, .createQuiz member.id
    { oceans with title := "Lakes", tags := [] },
    .createQuiz grace.id rivers, .toggleFavorite (Runtime.uuid4 2) member.id, .toggleFavorite
    (Runtime.uuid4 10) grace.id,
    .setQuizStatus (Runtime.uuid4 10) .published grace.id].foldl Site.after both

lemma authored_reachable : authored.Reachable := both_reachable.requests _

lemma authored_world : authored.world = ⟨14, 7⟩ :=
  congrArg₂ World.mk (by decide +kernel : authored.world.draws = 14)
    (by decide +kernel : authored.world.now = 7)

def wrote (write : Write) (d : Database) : Database :=
  match write d with
  | .ok e => e
  | .error _ => d

lemma wrote_eq {write : Write} {d : Database} (h : (write d).isOk = true) :
    write d = .ok (wrote write d) := by
  unfold wrote
  cases hw : write d with
  | ok e => rfl
  | error e =>
    rw [hw] at h
    cases h

def settings : CreateRoomRequest := ⟨Runtime.uuid4 10, false, false, true, true⟩

def room : GameSession := newSession (Runtime.uuid4 14) grace.id settings "ABCDEF"

def player : GamePlayer := ⟨Runtime.uuid4 15, room.sessionId, "mel", some member.id, 0, true⟩

def opened : Site :=
  { authored with db := wrote (Sql.insertSession room) authored.db, world := ⟨15, 7⟩ }

def joined : Site :=
  { opened with db := wrote (Sql.insertPlayer player) opened.db, world := ⟨16, 7⟩ }

def seated : Site := { joined with admitted := ("ABCDEF", player.playerId) :: joined.admitted }

def started : Site :=
  { seated with
    db := wrote (Sql.updateSession room.sessionId { status := some .starting, startedAt := some 7 })
      seated.db
    orders := Function.update seated.orders "ABCDEF" (some [Runtime.uuid4 11]) }

def asked : Site :=
  { started with
    db := wrote (Sql.updateSession room.sessionId
      { status := some .question, currentQuestionIndex := some 1 }) started.db }

def record : GamePlayerAnswer :=
    ⟨player.playerId, Runtime.uuid4 11, [Runtime.uuid4 12], true, 900, 970⟩

def played : Site :=
  { asked with
    db := wrote (Sql.insertRecord record)
      (wrote (Sql.updatePlayer player.playerId { score := some 970 }) asked.db) }

lemma opened_step : authored.Step opened := by
  have hstep := @Site.Step.createRoom _ authored grace.id settings "ABCDEF"
    ⟨Runtime.uuid4 10, grace.id, "Rivers", some "of the world", 60000,
      .public_, .published, some 9, 7, 7⟩
    opened.db (by decide +kernel) rfl rfl
    (by rw [authored_world]; exact @wrote_eq (Sql.insertSession room) _ (by decide +kernel))
  rwa [authored_world] at hstep

lemma joined_step : opened.Step joined :=
  @Site.Step.joinRoom _ opened "abcdef" _ _ room _ (by decide +kernel) rfl (by decide +kernel)
    (@wrote_eq (Sql.insertPlayer player) _ (by decide +kernel))

lemma seated_step : joined.Step seated :=
  .connect (g := room) (by decide +kernel) (by decide +kernel) rfl

lemma started_step : seated.Step started :=
  @Site.Step.startGame _ seated _ grace.id room _ _ (by decide +kernel) rfl rfl
    (@wrote_eq (Sql.updateSession room.sessionId
      { status := some .starting, startedAt := some 7 }) _
      (by decide +kernel))
    (.of_eq (by decide +kernel))

lemma asked_step : started.Step asked := .progress (wrote_eq (by decide +kernel))

lemma played_step : asked.Step played :=
  @Site.Step.submitAnswer _ asked "ABCDEF"
    { room with status := .question, currentQuestionIndex := 1, startedAt := some 7 }
      [Runtime.uuid4 11] record _ _ _
    (by decide +kernel) rfl (by decide +kernel) (by decide +kernel) (by decide) (by decide +kernel)
    (@wrote_eq (Sql.updatePlayer player.playerId { score := some 970 }) _ (by decide +kernel))
    (wrote_eq (by decide +kernel))

lemma played_reachable : played.Reachable :=
  .step (.step (.step (.step (.step (.step authored_reachable opened_step) joined_step) seated_step)
    started_step) asked_step)
    played_step

end Sample

end

end Askit.Relational

import Askit.Quizzes.Models
import Askit.Sorting.Ranking
import Askit.Tables.KeyedTable
import Mathlib.Algebra.Order.Floor.Semiring
import Mathlib.Data.Rat.Floor

/-! The statistics of a quiz's finished sessions, for one quiz and for a list of quizzes. -/

namespace Askit.Quizzes

open Tables
open Game (UUID Time GameSession GamePlayer)

inductive Identifier
  | str (s : String)
  | uuid (id : UUID)
  deriving DecidableEq, Repr

structure TopPlayerOut where
  nickname : String
  score : ℤ
  playedAt : Time
  deriving DecidableEq, Repr

structure QuizStatsOut where
  quizId : String
  timesPlayed : ℕ
  totalPlayers : ℕ
  averageScore : ℤ
  averageDurationSeconds : ℤ
  topPlayers : List TopPlayerOut
  deriving DecidableEq, Repr

inductive StatsExn
  | quizNotFoundError
  | quizAccessDeniedError
  | validationError
  | keyError
  deriving DecidableEq, Repr

/-- The constructor of the model; its field `quiz_id` is declared `str`. -/
def QuizStatsOut.validate (quizId : Identifier) (timesPlayed totalPlayers : ℕ)
    (averageScore averageDurationSeconds : ℤ) (topPlayers : List TopPlayerOut) :
    Except StatsExn QuizStatsOut :=
  match quizId with
  | .str s => .ok ⟨s, timesPlayed, totalPlayers, averageScore, averageDurationSeconds, topPlayers⟩
  | .uuid _ => .error .validationError

structure Archive where
  quizzes : Table Quiz.quizId
  sessions : Table GameSession.sessionId
  players : Table GamePlayer.playerId

structure PlayedSession where
  session : GameSession
  players : List GamePlayer
  deriving DecidableEq, Repr

def Archive.finishedSessions (d : Archive) (wanted : UUID → Bool) : List PlayedSession :=
  (d.sessions.rows.filter fun s => wanted s.quizId && decide (s.status = .finished)).map fun s =>
    ⟨s, d.players.rows.filter fun p => p.sessionId = s.sessionId⟩

def datetimeMin : Time := -62135596800000000

/-- `int(timedelta.total_seconds())`. -/
def wholeSeconds (d : ℤ) : ℤ := d.tdiv 1000000

def duration (s : PlayedSession) : Option ℤ :=
  s.session.startedAt.bind fun started => s.session.endedAt.map fun ended =>
    wholeSeconds (ended - started)

def topPlayerOut (s : PlayedSession) (p : GamePlayer) : TopPlayerOut :=
  ⟨p.nickname, p.score, s.session.startedAt.getD datetimeMin⟩

def sortByScore (players : List TopPlayerOut) : List TopPlayerOut :=
  players.insertionSort fun a b => b.score ≤ a.score

def getQuizStats (d : Archive) (quizId : UUID) (user : UUID) : Except StatsExn QuizStatsOut := do
  let some quiz := d.quizzes.get? quizId | throw .quizNotFoundError
  if quiz.creatorId ≠ user then throw .quizAccessDeniedError
  else
    let sessions := d.finishedSessions fun q => q = quizId
    if sessions = [] then QuizStatsOut.validate (.uuid quizId) 0 0 0 0 []
    else
      let allPlayers := sessions.flatMap PlayedSession.players
      let totalPlayers := allPlayers.length
      let averageScore := if totalPlayers ≠ 0 then (allPlayers.map GamePlayer.score).sum /
        totalPlayers else 0
      let durations := sessions.filterMap duration
      let averageDuration := if durations ≠ [] then durations.sum / durations.length else 0
      let topPlayers := sortByScore (sessions.flatMap fun s => s.players.map (topPlayerOut s))
      QuizStatsOut.validate (.uuid quizId) sessions.length totalPlayers averageScore averageDuration
        (topPlayers.take 10)

def computeQuizStats (quizId : String) (sessions : List PlayedSession) :
    Except StatsExn QuizStatsOut :=
  if sessions = [] then QuizStatsOut.validate (.str quizId) 0 0 0 0 []
  else
    let allPlayers := sessions.flatMap PlayedSession.players
    let totalPlayers := allPlayers.length
    let averageScore := if totalPlayers ≠ 0 then (allPlayers.map GamePlayer.score).sum /
      totalPlayers else 0
    let durations := sessions.filterMap duration
    let averageDuration := if durations ≠ [] then durations.sum / durations.length else 0
    let topPlayers := sortByScore (sessions.flatMap fun s => s.players.map (topPlayerOut s))
    QuizStatsOut.validate (.str quizId) sessions.length totalPlayers averageScore averageDuration
      (topPlayers.take 10)

/-- `sessions_by_quiz`, with a key for each identifier of the request. -/
def sessionsByQuiz (quizIds : List UUID) (sessions : List PlayedSession) :
    UUID → Option (List PlayedSession) :=
  sessions.foldl
    (fun dict s =>
      match dict s.session.quizId with
      | some played => Function.update dict s.session.quizId (some (played ++ [s]))
      | none => dict)
    fun id => if id ∈ quizIds then some [] else none

def getBulkQuizStats (d : Archive) (quizIds : List UUID) (user : UUID) :
    Except StatsExn (List QuizStatsOut) :=
  if quizIds = [] then .ok []
  else
    let foundQuizzes := (d.quizzes.rows.filter fun q => q.quizId ∈ quizIds ∧
      q.creatorId = user).map Quiz.quizId
    let dict := sessionsByQuiz quizIds (d.finishedSessions fun q => q ∈ quizIds)
    (quizIds.filter (· ∈ foundQuizzes)).mapM fun quizId =>
      match dict quizId with
      | some sessions => computeQuizStats quizId sessions
      | none => .error .keyError

def Owned (d : Archive) (user quizId : UUID) : Prop :=
  ∃ quiz ∈ d.quizzes.get? quizId, quiz.creatorId = user

instance (d : Archive) (user quizId : UUID) : Decidable (Owned d user quizId) :=
  inferInstanceAs (Decidable (∃ quiz ∈ d.quizzes.get? quizId, quiz.creatorId = user))

def Archive.sessionsOf (d : Archive) (quizId : UUID) : List PlayedSession :=
  d.finishedSessions fun q => q = quizId

/-- What the statistics of a quiz are to be: floored means, where the mean of nothing is zero, and
the best players, of whom none that is left out scores more. -/
structure Reports (d : Archive) (quizId : UUID) (out : QuizStatsOut) : Prop where
  identifier : out.quizId = quizId
  timesPlayed : out.timesPlayed = (d.sessionsOf quizId).length
  totalPlayers : out.totalPlayers = ((d.sessionsOf quizId).flatMap PlayedSession.players).length
  averageScore : out.averageScore =
    ⌊((((d.sessionsOf quizId).flatMap PlayedSession.players).map GamePlayer.score).sum : ℚ) /
      ((d.sessionsOf quizId).flatMap PlayedSession.players).length⌋
  averageDuration : out.averageDurationSeconds =
    ⌊(((d.sessionsOf quizId).filterMap duration).sum : ℚ) / ((d.sessionsOf quizId).filterMap
      duration).length⌋
  top : ∃ omitted, (out.topPlayers ++ omitted).Perm
      ((d.sessionsOf quizId).flatMap fun s => s.players.map (topPlayerOut s)) ∧
    ∀ t ∈ out.topPlayers, ∀ o ∈ omitted, o.score ≤ t.score
  length : out.topPlayers.length = min 10
    ((d.sessionsOf quizId).flatMap PlayedSession.players).length
  sorted : out.topPlayers.Pairwise fun a b => b.score ≤ a.score

namespace Stats

lemma floor_mean (sum : ℤ) (n : ℕ) : (if n ≠ 0 then sum / (n : ℤ) else 0) = ⌊(sum : ℚ) / n⌋ := by
  split
  · exact (Rat.floor_intCast_div_natCast sum n).symm
  · next h =>
    rw [not_not.mp h]
    simp

lemma sortByScore_perm (players : List TopPlayerOut) : (sortByScore players).Perm players :=
  List.perm_insertionSort _ players

lemma sortByScore_pairwise (players : List TopPlayerOut) :
    (sortByScore players).Pairwise fun a b => b.score ≤ a.score :=
  Sorting.pairwise_insertionSort_key TopPlayerOut.score players

def statsOf (quizId : UUID) (sessions : List PlayedSession) : QuizStatsOut :=
  ⟨quizId, sessions.length, (sessions.flatMap PlayedSession.players).length,
    ⌊(((sessions.flatMap PlayedSession.players).map GamePlayer.score).sum : ℚ) /
      (sessions.flatMap PlayedSession.players).length⌋,
    ⌊((sessions.filterMap duration).sum : ℚ) / (sessions.filterMap duration).length⌋,
    (sortByScore (sessions.flatMap fun s => s.players.map (topPlayerOut s))).take 10⟩

lemma computeQuizStats_eq (quizId : UUID) (sessions : List PlayedSession) :
    computeQuizStats quizId sessions = .ok (statsOf quizId sessions) := by
  rw [computeQuizStats, statsOf, ← floor_mean, ← floor_mean]
  split
  · next h =>
    subst h
    rfl
  · simp only [QuizStatsOut.validate, ne_eq, List.length_eq_zero_iff]

lemma statsOf_reports (d : Archive) (quizId : UUID) :
    Reports d quizId (statsOf quizId (d.sessionsOf quizId)) where
  identifier := rfl
  timesPlayed := rfl
  totalPlayers := rfl
  averageScore := rfl
  averageDuration := rfl
  top := by
    have hsorted := sortByScore_pairwise ((d.sessionsOf quizId).flatMap fun s =>
      s.players.map (topPlayerOut s))
    rw [← List.take_append_drop 10 (sortByScore _), List.pairwise_append] at hsorted
    refine ⟨(sortByScore _).drop 10, ?_, hsorted.2.2⟩
    rw [statsOf, List.take_append_drop]
    exact sortByScore_perm _
  length := by
    rw [statsOf, List.length_take, (sortByScore_perm _).length_eq]
    simp [List.length_flatMap]
  sorted := (sortByScore_pairwise _).sublist (List.take_sublist _ _)

lemma foldl_sessionsByQuiz (sessions : List PlayedSession)
    (dict : UUID → Option (List PlayedSession)) (id : UUID) :
    sessions.foldl
        (fun dict s =>
          match dict s.session.quizId with
          | some played => Function.update dict s.session.quizId (some (played ++ [s]))
          | none => dict)
        dict id =
      (dict id).map fun played => played ++ sessions.filter fun s => s.session.quizId = id := by
  induction sessions generalizing dict with
  | nil => simp
  | cons s sessions ih =>
    rw [List.foldl_cons, ih, List.filter_cons]
    by_cases hid : s.session.quizId = id
    · subst hid
      cases hd : dict s.session.quizId with
      | none => simp [hd]
      | some played => simp
    · cases hd : dict s.session.quizId with
      | none => simp [hid]
      | some played => simp [hid, Function.update_of_ne (Ne.symm hid)]

lemma sessionsByQuiz_eq (d : Archive) {quizIds : List UUID} {id : UUID} (h : id ∈ quizIds) :
    sessionsByQuiz quizIds (d.finishedSessions fun q => q ∈ quizIds) id =
      some (d.sessionsOf id) := by
  rw [sessionsByQuiz, foldl_sessionsByQuiz, if_pos h, Option.map_some, List.nil_append]
  simp only [Archive.sessionsOf, Archive.finishedSessions, List.filter_map, List.filter_filter]
  congr 2
  apply List.filter_congr
  intro s _
  by_cases hid : s.quizId = id
  · simp [hid, h]
  · simp [hid]

lemma mem_found (d : Archive) (user : UUID) {quizIds : List UUID} {id : UUID} (h : id ∈ quizIds) :
    id ∈ (d.quizzes.rows.filter fun q => q.quizId ∈ quizIds ∧ q.creatorId = user).map Quiz.quizId ↔
      Owned d user id := by
  simp only [List.mem_map, List.mem_filter, decide_eq_true_eq, Owned, Option.mem_def,
    Table.get?_eq_some]
  constructor
  · rintro ⟨q, ⟨hq, -, hc⟩, rfl⟩
    exact ⟨q, ⟨hq, rfl⟩, hc⟩
  · rintro ⟨q, ⟨hq, rfl⟩, hc⟩
    exact ⟨q, ⟨hq, h, hc⟩, rfl⟩

lemma mapM_ok {α β ε : Type} {f : α → Except ε β} {g : α → β} {l : List α}
    (h : ∀ a ∈ l, f a = .ok (g a)) :
    l.mapM f = .ok (l.map g) := by
  induction l with
  | nil => rfl
  | cons a l ih =>
    rw [List.mapM_cons, h a List.mem_cons_self, ih fun b hb => h b (List.mem_cons_of_mem a hb)]
    rfl

lemma getBulkQuizStats_eq (d : Archive) (quizIds : List UUID) (user : UUID) :
    getBulkQuizStats d quizIds user =
      .ok ((quizIds.filter fun id => Owned d user id).map fun id =>
        statsOf id (d.sessionsOf id)) := by
  rw [getBulkQuizStats]
  split
  · next h =>
    rw [h]
    rfl
  · have hfilter : quizIds.filter (· ∈ (d.quizzes.rows.filter fun q =>
        q.quizId ∈ quizIds ∧ q.creatorId = user).map Quiz.quizId) = quizIds.filter fun id =>
          Owned d user id := by
      apply List.filter_congr
      intro id hid
      simp only [mem_found d user hid]
    dsimp only
    rw [hfilter]
    apply mapM_ok
    intro id hid
    rw [sessionsByQuiz_eq d (List.mem_of_mem_filter hid)]
    exact computeQuizStats_eq id _

end Stats

/-- The bulk statistics are those of the quizzes that the user owns, in the order of the request and
once for each occurrence. What is reported of a quiz is computed from its own sessions. -/
theorem bulk_stats_report (d : Archive) (user : UUID) :
    ∃ report : UUID → QuizStatsOut, (∀ quizId, Reports d quizId (report quizId)) ∧
      ∀ quizIds, getBulkQuizStats d quizIds user =
        .ok ((quizIds.filter fun id => Owned d user id).map report) :=
  ⟨fun id => Stats.statsOf id (d.sessionsOf id), Stats.statsOf_reports d,
    fun quizIds => Stats.getBulkQuizStats_eq d quizIds user⟩

/-- The statistics of one quiz are those that every bulk request with its identifier reports of
it. -/
def StatsAgree (d : Archive) (user quizId : UUID) : Prop :=
  ∃ out, getQuizStats d quizId user = .ok out ∧ ∀ quizIds, quizId ∈ quizIds →
    ∃ items, getBulkQuizStats d quizIds user = .ok items ∧ ∀ item ∈ items,
      item.quizId = quizId → item = out

/-- The single statistics hand an identifier over where a string is declared. -/
theorem quiz_stats_never_agree (d : Archive) (user quizId : UUID) (h : Owned d user quizId) :
    ¬StatsAgree d user quizId := by
  obtain ⟨quiz, hquiz, howner⟩ := h
  rintro ⟨out, hout, -⟩
  simp only [getQuizStats, Option.mem_def.mp hquiz, howner, ne_eq, not_true_eq_false,
    if_false] at hout
  split at hout <;> cases hout

namespace Sample

/-- Ada's quiz, which has been played once by two players. -/
def archive : Archive where
  quizzes := ⟨[⟨"quiz", "ada", "Quiz", none, 30000, .private_, .published, none, 0, 0, []⟩], by
    decide⟩
  sessions := ⟨[⟨"session", "ABCDEF", "quiz", "ada", false, false, true, true, .finished, 2, some 0,
    some 90000000⟩], by decide⟩
  players :=
    ⟨[⟨"p1", "session", "Ann", none, 700, true⟩, ⟨"p2", "session", "Ben", none, 900, true⟩],
      by decide⟩

def unplayed : Archive := { archive with sessions := Table.empty, players := Table.empty }

end Sample

theorem quiz_stats_never_agree_unplayed : ¬StatsAgree Sample.unplayed "ada" "quiz" :=
  quiz_stats_never_agree Sample.unplayed "ada" "quiz" (by decide)

theorem quiz_stats_raise_once_played : ¬StatsAgree Sample.archive "ada" "quiz" := by
  rintro ⟨out, hout, -⟩
  have hraised : getQuizStats Sample.archive "quiz" "ada" = .error .validationError := by
    decide +kernel
  rw [hraised] at hout
  cases hout

end Askit.Quizzes

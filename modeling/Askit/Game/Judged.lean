import Askit.Game.Effects
import Askit.Interleaving.Trace

/-! How a submission is judged, and what the others leave of what it reads. -/

namespace Askit.Game

open Interleaving Machine Coro Tables

structure Submission where
  roomCode : String
  playerId : UUID
  questionId : String
  answerIds : List String

section

variable [Runtime]

/-- Calls of `submit_answer` and a clock. -/
def submissions : Machine Op Exn WSAnswerResult where
  State := State
  Call := Submission
  Env := Time
  exec := exec
  ready := ready
  code c := submitAnswer c.roomCode c.playerId c.questionId c.answerIds
  enter _ _ := none
  env now s := { s with now := now }

def received (s : State) (subs : List Submission) : submissions.Config :=
    submissions.assembled s subs

def clockReading : Event Op Exn → Option Time
  | ⟨_, .now, .ok t⟩ => some t
  | _ => none

/-- What the `i`-th submission has read from the clock. -/
def clockReadings (i : ℕ) (history : List (Event Op Exn)) : List Time :=
  (own i history).filterMap clockReading

def Unfailing : submissions.Act → Prop
  | .fault _ _ => False
  | _ => True

instance : DecidablePred Unfailing
  | .fault _ _ => isFalse id
  | .spawn _ | .run _ | .env _ => isTrue trivial

/-- The submissions have returned the same, and have left the same scores, records and sets of those
who have answered. -/
structure SameOutcome (c d : submissions.Config) : Prop where
  results : c.procs = d.procs
  players : ∀ id, (State.db c.world.state).players.get? id =
    (State.db d.world.state).players.get? id
  answers : ∀ key, (State.db c.world.state).answers.get? key =
    (State.db d.world.state).answers.get? key
  answered : ∀ room index id, id ∈ (State.redis c.world.state).answered room index ↔
    id ∈ (State.redis d.world.state).answered room index

namespace Submissions

structure Own (playerId : UUID) (s t : State) : Prop where
  sessions : t.db.sessions = s.db.sessions
  quizzes : t.db.quizzes = s.db.quizzes
  questions : t.redis.questions = s.redis.questions
  questionStart : t.redis.questionStart = s.redis.questionStart
  player : t.db.players.get? playerId = s.db.players.get? playerId
  answers : ∀ questionId, t.db.answers.get? (playerId, questionId) = s.db.answers.get?
    (playerId, questionId)
  answered : ∀ room index, playerId ∈ t.redis.answered room index ↔
    playerId ∈ s.redis.answered room index

variable {p : UUID} {s t u : State}

omit [Runtime] in
lemma Own.refl (s : State) : Own p s s :=
    ⟨rfl, rfl, rfl, rfl, rfl, fun _ => rfl, fun _ _ => Iff.rfl⟩

omit [Runtime] in
lemma Own.trans (h : Own p s t) (h' : Own p t u) : Own p s u :=
  ⟨h'.sessions.trans h.sessions, h'.quizzes.trans h.quizzes, h'.questions.trans h.questions,
    h'.questionStart.trans h.questionStart, h'.player.trans h.player,
    fun q => (h'.answers q).trans (h.answers q),
    fun room index => (h'.answered room index).trans (h.answered room index)⟩

def loaded (d : Db) (sessionId playerId : UUID) : Option GamePlayer :=
  (d.playersOf sessionId).find? fun p => p.playerId = playerId

omit [Runtime] in
lemma loaded_eq (d : Db) (sessionId playerId : UUID) :
    loaded d sessionId playerId = (d.players.get? playerId).filter fun p =>
      p.sessionId = sessionId := by
  cases hl : loaded d sessionId playerId with
  | some q =>
    have hq := List.mem_of_find?_eq_some hl
    have hk : q.playerId = playerId := by simpa using List.find?_some hl
    obtain ⟨hrow, hs⟩ := List.mem_filter.mp hq
    rw [← hk, Table.get?_of_mem hrow, Option.filter_some, if_pos hs]
  | none =>
    cases hg : d.players.get? playerId with
    | none => rfl
    | some q =>
      obtain ⟨hrow, hk⟩ := Table.get?_eq_some.mp hg
      have hnone := List.find?_eq_none.mp hl q
      by_cases hs : q.sessionId = sessionId
      · exact absurd hk (by simpa using hnone (List.mem_filter.mpr ⟨hrow, by simpa using hs⟩))
      · rw [Option.filter_some, if_neg (by simpa using hs)]

omit [Runtime] in
lemma Own.loaded (h : Own p s t) (sessionId : UUID) :
    Submissions.loaded t.db sessionId p = Submissions.loaded s.db sessionId p := by
  rw [loaded_eq, loaded_eq, h.player]

omit [Runtime] in
lemma Own.room? (h : Own p s t) (roomCode : String) : t.db.room? roomCode =
    (s.db.room? roomCode).map fun r =>
      { r with players := t.db.playersOf r.session.sessionId } := by
  simp only [Db.room?, h.sessions, h.quizzes]
  cases s.db.sessions.get? roomCode with
  | none => rfl
  | some g => cases hq : s.db.quizzes.table.get? g.quizId <;> simp [hq]

omit [Runtime] in
lemma Own.question? (h : Own p s t) (questionId : UUID) :
    t.db.question? questionId = s.db.question? questionId := by
  simp only [Db.question?, h.quizzes]

/-- The question that `get_current_question` finds. -/
def currentQuestion (s : State) (roomCode : String) (index : ℕ) : Option QuizQuestion :=
  if index = 0 then none
  else ((s.redis.questions roomCode).bind fun ids => ids[index - 1]?).bind s.db.question?

def judgedTime (s : State) (roomCode : String) (question : QuizQuestion) (readings : List Time) :
    ℤ :=
  match s.redis.questionStart roomCode with
  | some start => (readings.headD 0 - start).tdiv 1000
  | none => question.timeLimit

def judgedRecord (s : State) (c : Submission) (question : QuizQuestion) (readings : List Time) :
    GamePlayerAnswer :=
  let timeTakenMs := judgedTime s c.roomCode question readings
  let isCorrect := sameSet c.answerIds (correctAnswerIds question)
  ⟨c.playerId, question.questionId, c.answerIds, isCorrect, timeTakenMs,
    calculateScore timeTakenMs question.timeLimit isCorrect⟩

def Storable (d : Db) (a : GamePlayerAnswer) : Prop :=
  (d.players.get? a.playerId).isSome ∧ (d.question? a.questionId).isSome ∧
    d.answers.get? a.key = none

instance (d : Db) (a : GamePlayerAnswer) : Decidable (Storable d a) :=
  inferInstanceAs (Decidable (_ ∧ _ ∧ _))

omit [Runtime] in
lemma Own.storable {a : GamePlayerAnswer} (h : Own a.playerId s t) :
    Storable t.db a ↔ Storable s.db a := by
  rw [Storable, Storable, h.player, h.question?, GamePlayerAnswer.key, h.answers]

/-- What becomes of a submission that finds the state `s` and reads the clock so: the record and the
question that it answers. -/
def judge (s : State) (c : Submission) (readings : List Time) :
    Except Exn (GamePlayerAnswer × QuizQuestion) :=
  match s.db.room? (Runtime.upper c.roomCode) with
  | none => .error .roomNotFoundError
  | some room =>
    if room.session.status ≠ .question then .error .questionNotActiveError
    else if c.playerId ∈ s.redis.answered c.roomCode room.session.currentQuestionIndex then
      .error .alreadyAnsweredError
    else
      match currentQuestion s c.roomCode room.session.currentQuestionIndex with
      | none => .error .questionNotActiveError
      | some question =>
        if Runtime.uuid c.questionId ≠ some question.questionId then .error .questionNotActiveError
        else if Storable s.db (judgedRecord s c question readings) then
          .ok (judgedRecord s c question readings, question)
        else .error .alreadyAnsweredError

lemma judge_asking {c : Submission} {room : Room}
    (hroom : s.db.room? (Runtime.upper c.roomCode) = some room)
    (hst : room.session.status = .question)
    (hnot : c.playerId ∉ s.redis.answered c.roomCode room.session.currentQuestionIndex)
    (readings : List Time) :
    judge s c readings =
      match currentQuestion s c.roomCode room.session.currentQuestionIndex with
      | none => .error .questionNotActiveError
      | some question =>
        if Runtime.uuid c.questionId ≠ some question.questionId then .error .questionNotActiveError
        else if Storable s.db (judgedRecord s c question readings) then
          .ok (judgedRecord s c question readings, question)
        else .error .alreadyAnsweredError := by
  simp [judge, hroom, hst, hnot]

/-- What an accepted answer leaves of its player. -/
structure Settled (s : State) (a : GamePlayerAnswer) (member : String → ℕ → Prop) (t : State) :
    Prop where
  player : t.db.players.get? a.playerId =
    (s.db.players.get? a.playerId).map fun row => { row with score := row.score + a.pointsEarned }
  answers : ∀ questionId, t.db.answers.get? (a.playerId, questionId) =
    if questionId = a.questionId then some a else s.db.answers.get? (a.playerId, questionId)
  answered : ∀ room index, a.playerId ∈ t.redis.answered room index ↔
    member room index ∨ a.playerId ∈ s.redis.answered room index

/-- The end of a submission that found the state `s`. -/
def Ended (s : State) (c : Submission) (readings : List Time) (r : Except Exn WSAnswerResult)
    (t : State) :
    Prop :=
  match judge s c readings with
  | .error e => r = .error e ∧ Own c.playerId s t
  | .ok (a, question) =>
    r = .ok ⟨a.isCorrect, correctAnswerIds question, a.pointsEarned, a.timeTakenMs⟩ ∧
      Settled s a (fun room index => room = c.roomCode ∧
        index = (s.position (Runtime.upper c.roomCode)).index) t

omit [Runtime] in
lemma Settled.of_own {a : GamePlayerAnswer} {member : String → ℕ → Prop} (h : Settled s a member t)
    (ho : Own a.playerId t u) : Settled s a member u :=
  ⟨ho.player.trans h.player, fun q => (ho.answers q).trans (h.answers q),
    fun room index => (ho.answered room index).trans (h.answered room index)⟩

lemma record_of_judge {c : Submission} {readings : List Time} {a : GamePlayerAnswer}
    {question : QuizQuestion} (h : judge s c readings = .ok (a, question)) :
    a = judgedRecord s c question readings := by
  grind [judge]

lemma ended_of_own {c : Submission} {readings : List Time} {r : Except Exn WSAnswerResult}
    (h : Ended s c readings r t) (ho : Own c.playerId t u) : Ended s c readings r u := by
  cases hj : judge s c readings with
  | error e =>
    simp only [Ended, hj] at h ⊢
    exact ⟨h.1, h.2.trans ho⟩
  | ok v =>
    obtain ⟨a, question⟩ := v
    simp only [Ended, hj] at h ⊢
    exact ⟨h.1, h.2.of_own (record_of_judge hj ▸ ho)⟩

end Submissions

end

end Askit.Game

import Askit.Codec.Json
import Askit.Game.Roster
import Askit.Game.Scoring
import Askit.Game.Submissions
import Askit.Interleaving.Sequential
import Askit.Quizzes.Services
import Askit.Quizzes.Validation

/-! What becomes of the right answer when the database refuses a text that is longer than its
column: `selected_answer_ids` is a `VARCHAR(1000)`, and holds what `json.dumps` makes of the
submitted identifiers. -/

namespace Askit.Game

open Interleaving Coro Tables Codec

def selectedAnswerIdsWidth : ℕ := 1000

def GamePlayerAnswer.fits (a : GamePlayerAnswer) : Prop :=
  (Json.dumps a.selectedAnswerIds).length ≤ selectedAnswerIdsWidth

instance : DecidablePred GamePlayerAnswer.fits := fun a =>
  inferInstanceAs (Decidable ((Json.dumps a.selectedAnswerIds).length ≤ selectedAnswerIdsWidth))

def oversized {β : Type} : Op β → Bool
  | .commit changes => changes.newAnswer.any fun a => !decide a.fits
  | _ => false

section

variable [Runtime]

/-- A text that is too long for its column is refused before any constraint is looked at. -/
def execSized {β : Type} (o : Op β) (s : State) : Except Exn β × State :=
  if oversized o then (.error .failure, s) else exec o s

/-- The room has been asked a question that has not been closed. -/
structure Running (s : State) (roomCode : String) (room : Room) (question : QuizQuestion) :
    Prop where
  found : s.db.room? (Runtime.upper roomCode) = some room
  status : room.session.status = .question
  index : room.session.currentQuestionIndex ≠ 0
  stored : s.db.question? question.questionId = some question

/-- The order that is stored under this spelling of the room's code has the question at the room's
index. -/
def Ordered (s : State) (roomCode : String) (room : Room) (question : QuizQuestion) : Prop :=
  (s.redis.questions roomCode).bind (fun ids => ids[room.session.currentQuestionIndex - 1]?) = some
    question.questionId

instance (s : State) (roomCode : String) (room : Room) (question : QuizQuestion) :
    Decidable (Ordered s roomCode room question) :=
  inferInstanceAs (Decidable (_ = _))

structure Unanswered (s : State) (roomCode : String) (room : Room) (question : QuizQuestion)
    (playerId : UUID) :
    Prop where
  record : s.db.answers.get? (playerId, question.questionId) = none
  member : playerId ∉ s.redis.answered roomCode room.session.currentQuestionIndex

/-- The submission returns, and its record is made, with the points of a right answer. -/
structure FullMarks (s : State) (player : GamePlayer) (question : QuizQuestion)
    (outcome : Except Exn WSAnswerResult × State) : Prop where
  result : ∃ m, outcome.1 = .ok m ∧ m.isCorrect = true ∧ minPointsPerQuestion ≤ m.pointsEarned
  record : ∃ a ∈ outcome.2.db.answers.get? (player.playerId, question.questionId),
    a.isCorrect = true ∧ minPointsPerQuestion ≤ a.pointsEarned ∧
      outcome.2.db.players.get? player.playerId = some
        { player with score := player.score + a.pointsEarned }

namespace FullMarks

omit [Runtime] in
lemma sameSet_of_perm {xs ys : List String} (h : xs.Perm ys) : sameSet xs ys = true := by
  simp only [sameSet, Bool.and_eq_true, List.all_eq_true, decide_eq_true_eq]
  exact ⟨fun x hx => h.mem_iff.mp hx, fun y hy => h.mem_iff.mpr hy⟩

variable {s t : State} {roomCode questionId : String} {room : Room} {question : QuizQuestion}
    {player : GamePlayer}
variable {answerIds : List String}

lemma getCurrentQuestion_alone (hrun : Running s roomCode room question) :
    (getCurrentQuestion roomCode).alone execSized s =
      (.ok (some room, Submissions.currentQuestion s roomCode room.session.currentQuestionIndex),
        s) := by
  apply (alone_perform_bind (t := s) (a := some room) (by rw [← hrun.found]; rfl)).trans
  simp only [if_neg hrun.index, Submissions.currentQuestion]
  cases hids : s.redis.questions roomCode with
  | none => exact (alone_perform_bind (t := s) (a := none) (by rw [← hids]; rfl)).trans rfl
  | some ids =>
    apply (alone_perform_bind (t := s) (a := some ids) (by rw [← hids]; rfl)).trans
    cases hid : ids[room.session.currentQuestionIndex - 1]? with
    | none => simp [hid]
    | some id =>
      simp only [hid, Option.bind_some]
      exact (alone_perform_bind (t := s) (a := s.db.question? id) rfl).trans rfl

omit [Runtime] in
lemma Ordered.current (h : Ordered s roomCode room question)
    (hindex : room.session.currentQuestionIndex ≠ 0)
    (hstored : s.db.question? question.questionId = some question) :
    Submissions.currentQuestion s roomCode room.session.currentQuestionIndex = some question := by
  rw [Submissions.currentQuestion, if_neg hindex, h, Option.bind_some, hstored]

omit [Runtime] in
lemma ordered_of_current {current : QuizQuestion}
    (h : Submissions.currentQuestion s roomCode room.session.currentQuestionIndex = some current)
    (hid : current.questionId = question.questionId) : Ordered s roomCode room question := by
  unfold Submissions.currentQuestion at h
  split at h
  · cases h
  · obtain ⟨id, hids, hquestion⟩ := Option.bind_eq_some_iff.mp h
    have hsame : current.questionId = id := by simpa using List.find?_some hquestion
    rw [Ordered, hids, ← hsame, hid]

lemma timeTaken_alone (start : Option Time) :
    ∃ ms, (timeTaken question start).alone execSized s = (.ok ms, s) := by
  cases start with
  | none => exact ⟨_, rfl⟩
  | some start => exact ⟨_, rfl⟩

/-- The record that the submission makes when it takes `ms` milliseconds. -/
def rightAnswer (question : QuizQuestion) (playerId : UUID) (answerIds : List String) (ms : ℤ) :
    GamePlayerAnswer :=
  ⟨playerId, question.questionId, answerIds, true, ms, calculateScore ms question.timeLimit true⟩

/-- What is left to do once the submission has been judged. -/
def store (roomCode : String) (room : Room) (question : QuizQuestion) (row : Option GamePlayer)
    (a : GamePlayerAnswer) : Handler WSAnswerResult := do
  commitAnswer row a
  await (.saddAnswered roomCode room.session.currentQuestionIndex a.playerId)
  await (.expireAnswered roomCode room.session.currentQuestionIndex 600)
  await (.log (.answerSubmitted roomCode a.playerId a.isCorrect a.pointsEarned))
  pure ⟨a.isCorrect, correctAnswerIds question, a.pointsEarned, a.timeTakenMs⟩

lemma submitAnswer_alone_of_not_ordered (hrun : Running s roomCode room question)
    (hnew : Unanswered s roomCode room question player.playerId)
    (hid : Runtime.uuid questionId = some question.questionId)
    (horder : ¬Ordered s roomCode room question) :
    (submitAnswer roomCode player.playerId questionId answerIds).alone execSized s =
      (.error .questionNotActiveError, s) := by
  apply (alone_perform_bind (t := s) (a := some room) (by rw [← hrun.found]; rfl)).trans
  simp only [alone_require_bind, if_pos hrun.status]
  apply (alone_perform_bind (t := s) (a := false) (by
    simp only [execSized, oversized, exec, hnew.member, decide_false]
    rfl)).trans
  simp only [alone_require_bind, if_true, hid]
  apply (alone_bind_ok (getCurrentQuestion_alone hrun)).trans
  cases hcurrent : Submissions.currentQuestion s roomCode room.session.currentQuestionIndex with
  | none => rfl
  | some current =>
    simp only [alone_require_bind]
    exact if_neg fun hsame => horder (ordered_of_current hcurrent hsame)

lemma submitAnswer_alone (hrun : Running s roomCode room question)
    (horder : Ordered s roomCode room question)
    (hnew : Unanswered s roomCode room question player.playerId)
    (hid : Runtime.uuid questionId = some question.questionId)
    (hexact : answerIds.Perm (correctAnswerIds question)) : ∃ ms,
      (submitAnswer roomCode player.playerId questionId answerIds).alone execSized s =
        (store roomCode room question (s.db.players.get? player.playerId)
          (rightAnswer question player.playerId answerIds ms)).alone execSized s := by
  obtain ⟨ms, hms⟩ : ∃ ms, (timeTaken question (s.redis.questionStart roomCode)).alone execSized s =
      (.ok ms, s) :=
    timeTaken_alone _
  refine ⟨ms, ?_⟩
  apply (alone_perform_bind (t := s) (a := some room) (by rw [← hrun.found]; rfl)).trans
  simp only [alone_require_bind, if_pos hrun.status]
  apply (alone_perform_bind (t := s) (a := false) (by
    simp only [execSized, oversized, exec, hnew.member, decide_false]
    rfl)).trans
  simp only [alone_require_bind, if_true, hid]
  apply (alone_bind_ok (getCurrentQuestion_alone hrun)).trans
  rw [Ordered.current horder hrun.index hrun.stored]
  simp only [alone_require_bind, if_true]
  apply (alone_perform_bind (t := s) (a := s.redis.questionStart roomCode) rfl).trans
  apply (alone_bind_ok hms).trans
  apply (alone_perform_bind (t := s) (a := s.db.players.get? player.playerId) rfl).trans
  simp only [sameSet_of_perm hexact, Option.getD_some, Db.players_room? hrun.found]
  have hrow := Submissions.getD_loaded s.db room.session.sessionId player.playerId
  simp only [Submissions.loaded] at hrow
  rw [hrow]
  rfl

lemma store_alone_of_fits {row : Option GamePlayer} {a : GamePlayerAnswer} {e : Db}
    (hfits : a.fits) (he : s.db.commit (.answer row a) = some e) :
    ∃ m t, (store roomCode room question row a).alone execSized s = (.ok m, t) ∧
      m.isCorrect = a.isCorrect ∧ m.pointsEarned = a.pointsEarned ∧ t.db = e := by
  have hcommit : (commitAnswer row a).alone execSized s = (.ok (), { s with db := e }) := by
    change (tryCatch (await (.commit (.answer row a))) _ : Handler Unit).alone execSized s = _
    have hx : execSized (.commit (.answer row a)) s = (.ok (), { s with db := e }) := by
      have hnot : oversized (.commit (.answer row a)) = false := by simp [oversized, hfits]
      rw [execSized, hnot]
      exact exec_commit_some he
    rw [alone_tryCatch, alone_perform, hx]
  refine ⟨_, _, (alone_bind_ok hcommit).trans rfl, rfl, rfl, rfl⟩

lemma store_alone_of_not_fits {row : Option GamePlayer} {a : GamePlayerAnswer} (hfits : ¬a.fits) :
    (store roomCode room question row a).alone execSized s = (.error .failure, s) := by
  have hcommit : (commitAnswer row a).alone execSized s = (.error .failure, s) := by
    change (tryCatch (await (.commit (.answer row a))) _ : Handler Unit).alone execSized s = _
    have hx : execSized (.commit (.answer row a)) s = (.error .failure, s) := by
      have hover : oversized (.commit (.answer row a)) = true := by simp [oversized, hfits]
      rw [execSized, hover]
      rfl
    rw [alone_tryCatch, alone_perform, hx]
    rfl
  exact alone_bind_error hcommit

omit [Runtime] in
lemma mem_correctAnswerIds {id : UUID} (h : id ∈ correctAnswerIds question) :
    ∃ a ∈ question.answers, a.answerId = id := by
  obtain ⟨a, ha, rfl⟩ := List.mem_map.mp h
  exact ⟨a, List.mem_of_mem_filter ha, rfl⟩

omit [Runtime] in
lemma fits_iff {a : GamePlayerAnswer} (htext : ∀ b ∈ question.answers, Json.Literal 36 b.answerId)
    (hexact : a.selectedAnswerIds.Perm (correctAnswerIds question)) :
    a.fits ↔ (correctAnswerIds question).length ≤ 25 := by
  rw [GamePlayerAnswer.fits, ← hexact.length_eq, selectedAnswerIdsWidth]
  by_cases hnil : a.selectedAnswerIds = []
  · rw [hnil]
    decide
  · have hlength : (Json.dumps a.selectedAnswerIds).length =
        (36 + 4) * a.selectedAnswerIds.length := by
      apply Json.length_dumps _ hnil
      intro id hid
      obtain ⟨b, hb, rfl⟩ := mem_correctAnswerIds (hexact.mem_iff.mp hid)
      exact htext b hb
    omega

lemma storable (hrun : Running s roomCode room question) (hplayer : player ∈ room.players)
    (hnew : Unanswered s roomCode room question player.playerId) (ms : ℤ) :
    Submissions.Storable s.db (rightAnswer question player.playerId answerIds ms) := by
  rw [Db.players_room? hrun.found] at hplayer
  have hrow := Table.get?_of_mem (List.mem_of_mem_filter hplayer)
  exact ⟨Option.isSome_of_eq_some hrow, Option.isSome_of_eq_some hrun.stored, hnew.record⟩

end FullMarks

open FullMarks in
/-- The right answer is recorded, and earns what a right answer earns at least, when the order of
the questions is there under the spelling of the room's code and the question has no more right
answers than the column has room for. -/
theorem right_answer_is_recorded_iff {s : State} {roomCode questionId : String} {room : Room}
    {question : QuizQuestion} {player : GamePlayer} {answerIds : List String}
    (hrun : Running s roomCode room question) (hplayer : player ∈ room.players)
    (hnew : Unanswered s roomCode room question player.playerId)
    (hid : Runtime.uuid questionId = some question.questionId)
    (htext : ∀ a ∈ question.answers, Json.Literal 36 a.answerId)
    (hexact : answerIds.Perm (correctAnswerIds question)) :
    FullMarks s player question ((submitAnswer roomCode player.playerId questionId answerIds).alone
      execSized s) ↔
      Ordered s roomCode room question ∧ (correctAnswerIds question).length ≤ 25 := by
  by_cases horder : Ordered s roomCode room question
  swap
  · refine iff_of_false ?_ fun h => horder h.1
    rw [submitAnswer_alone_of_not_ordered hrun hnew hid horder]
    rintro ⟨⟨m, ⟨⟩, -⟩, -⟩
  rw [and_iff_right horder]
  obtain ⟨ms, hms⟩ := submitAnswer_alone hrun horder hnew hid hexact
  have hfits : (rightAnswer question player.playerId answerIds ms).fits ↔ _ := fits_iff htext hexact
  rw [hms, ← hfits]
  constructor
  · rintro ⟨⟨m, hm, -⟩, -⟩
    by_contra hlong
    rw [store_alone_of_not_fits hlong] at hm
    cases hm
  · intro hshort
    obtain ⟨e, he, hans, hplay, -, -⟩ := Submissions.commit_of_storable
      (s.db.players.get? player.playerId) (storable hrun hplayer hnew ms)
    obtain ⟨m, t, ht, hcorrect, hpoints, rfl⟩ := store_alone_of_fits hshort he
    have hset := Submissions.settled_of_commit (Submissions.Own.refl s) hans hplay
    have hleast := minPoints_le_calculateScore ms question.timeLimit
    rw [Db.players_room? hrun.found] at hplayer
    have hrow := Table.get?_of_mem (List.mem_of_mem_filter hplayer)
    rw [ht]
    refine ⟨⟨m, rfl, hcorrect, hpoints ▸ hleast⟩, _, (hset.answers question.questionId).trans
      (if_pos rfl), rfl, hleast, ?_⟩
    exact hset.player.trans (congrArg (Option.map _) hrow)

end

section Sample

def gameQuiz [Quizzes.Platform] (d : Quizzes.Db) (quiz : Quizzes.Quiz) : Quiz :=
  ⟨quiz.quizId, quiz.title, quiz.maxParticipants.map Int.toNat,
    (d.selectQuestions quiz.quizId).map fun q =>
      ⟨q.questionId, q.text, q.position, q.timeLimit.toNat, q.allowMultipleAnswers,
        q.answers.map fun a => ⟨a.answerId, a.text, a.isCorrect⟩⟩⟩

@[reducible] def wideRuntime : Runtime :=
  { Runtime.ascii with
    uuid4 := fun n => String.ofList (List.replicate n 'a' ++ List.replicate (36 - n) 'b')
    uuid4_injective := fun m n h => by
      have hcount := congrArg (fun s => s.toList.count 'a') h
      simpa [List.count_replicate] using hcount }

@[reducible] def widePlatform : Quizzes.Platform :=
  { Quizzes.Platform.ascii with toRuntime := wideRuntime }

attribute [local instance] widePlatform

namespace Wide

/-- A question with more right answers than the column has room for, and one with fewer. -/
def body : Quizzes.QuizCreate :=
  ⟨"Quiz", none, [], ⟨30000, .private_, 5⟩,
    [⟨"?", 30000, true, List.replicate 26 ⟨"yes", true⟩⟩,
      ⟨"?", 30000, true, [⟨"yes", true⟩, ⟨"no", false⟩, ⟨"yes", true⟩]⟩]⟩

def created : Except Quizzes.Exn Quizzes.QuizOut × Quizzes.State :=
  (Quizzes.createQuiz "host" body).alone Quizzes.exec
    ⟨⟨Table.empty, Table.empty, Table.empty⟩, 0, 0⟩

def quizzes : Table Quiz.quizId :=
    ⟨created.2.db.quizzes.rows.map (gameQuiz created.2.db), by decide +kernel⟩

def question (index : ℕ) : QuizQuestion :=
  ((quizzes.rows.flatMap Quiz.questions)[index - 1]?).getD (Sample.question "" index)

def session (index : ℕ) : GameSession :=
  { Sample.session with
    quizId := Runtime.uuid4 0, status := .question, currentQuestionIndex := index }

lemma quizId_fk (index : ℕ) : ∀ g ∈ [session index], g.quizId ∈ quizzes.rows.map Quiz.quizId := by
  intro g hg
  obtain rfl := List.mem_singleton.mp hg
  exact show Runtime.uuid4 0 ∈ quizzes.rows.map Quiz.quizId by decide +kernel

/-- A room of the quiz that has been created, whose question at the index is running. -/
def state (index : ℕ) : State :=
  { Sample.state with
    db := ⟨⟨quizzes, by decide +kernel⟩, ⟨[session index], List.nodup_singleton _⟩,
      Sample.state.db.players, Table.empty, quizId_fk index⟩
    redis := Sample.state.redis.setQuestions "ABCDEF"
      (some [(question 1).questionId, (question 2).questionId]) }

def room (index : ℕ) : Room :=
    ⟨session index, Sample.players, (quizzes.rows.headD Sample.quiz).loaded⟩

def player : GamePlayer := ⟨"p1", "session", "Ann", none, 0, true⟩

lemma literal {k : ℕ} (hk : k ≤ 36) : Json.Literal 36 (wideRuntime.uuid4 k) := by
  have hchars : (wideRuntime.uuid4 k).toList = List.replicate k 'a' ++ List.replicate
      (36 - k) 'b' :=
    String.toList_ofList
  have ha : Json.Plain 'a' := by decide
  have hb : Json.Plain 'b' := by decide
  constructor
  · rw [hchars, List.length_append, List.length_replicate, List.length_replicate,
      Nat.add_sub_cancel' hk]
  · intro c hc
    rw [hchars] at hc
    rcases List.mem_append.mp hc with hc | hc
    · rwa [List.eq_of_mem_replicate hc]
    · rwa [List.eq_of_mem_replicate hc]

lemma literal_answers {question : QuizQuestion} (ids : List ℕ)
    (h : question.answers.map QuizAnswer.answerId = ids.map wideRuntime.uuid4)
    (hids : ∀ k ∈ ids, k ≤ 36) :
    ∀ a ∈ question.answers, Json.Literal 36 a.answerId := by
  intro a ha
  have hmem : a.answerId ∈ ids.map wideRuntime.uuid4 := h ▸ List.mem_map_of_mem ha
  obtain ⟨k, hk, heq⟩ := List.mem_map.mp hmem
  exact heq ▸ literal (hids k hk)

lemma literal_first : ∀ a ∈ (question 1).answers, Json.Literal 36 a.answerId :=
  literal_answers (List.range' 2 26) (by decide +kernel) (by decide)

lemma literal_second : ∀ a ∈ (question 2).answers, Json.Literal 36 a.answerId :=
  literal_answers (List.range' 29 3) (by decide +kernel) (by decide)

end Wide

open Wide in
theorem right_answer_is_recorded_created : FullMarks (state 2) player (question 2)
    ((submitAnswer "ABCDEF" "p1" (question 2).questionId
      (correctAnswerIds (question 2))).alone execSized (state 2)) :=
  (@right_answer_is_recorded_iff _ (state 2) _ _ (room 2) _ player _
    ⟨by decide +kernel, by decide +kernel, by decide +kernel, by decide +kernel⟩ (by decide +kernel)
    ⟨by decide +kernel, by decide +kernel⟩ (by decide +kernel) literal_second (.refl _)).mpr
      ⟨by decide +kernel, by decide +kernel⟩

open Wide in
/-- The body is let through and the quiz is created, but the right answer to its first question is
refused, and so is that to its second one under another spelling of the room's code. -/
theorem long_answer_is_refused : body.validate = .ok body ∧ created.1.isOk = true ∧
    (Running (state 1) "ABCDEF" (room 1) (question 1) ∧ player ∈ (room 1).players ∧
      Unanswered (state 1) "ABCDEF" (room 1) (question 1) "p1" ∧
      (∀ a ∈ (question 1).answers, Json.Literal 36 a.answerId) ∧
      ¬FullMarks (state 1) player (question 1) ((submitAnswer "ABCDEF" "p1" (question 1).questionId
        (correctAnswerIds (question 1))).alone execSized (state 1))) ∧
    Running (state 2) "abcdef" (room 2) (question 2) ∧ player ∈ (room 2).players ∧
      Unanswered (state 2) "abcdef" (room 2) (question 2) "p1" ∧
      (∀ a ∈ (question 2).answers, Json.Literal 36 a.answerId) ∧
      ¬FullMarks (state 2) player (question 2) ((submitAnswer "abcdef" "p1" (question 2).questionId
        (correctAnswerIds (question 2))).alone execSized (state 2)) := by
  have hlong : ((submitAnswer "ABCDEF" "p1" (question 1).questionId
      (correctAnswerIds (question 1))).alone execSized (state 1)).1 = .error .failure := by
    decide +kernel
  have hrespelt : ((submitAnswer "abcdef" "p1" (question 2).questionId
      (correctAnswerIds (question 2))).alone execSized (state 2)).1 =
        .error .questionNotActiveError := by
    decide +kernel
  refine ⟨by decide +kernel, by decide +kernel,
    ⟨⟨by decide +kernel, by decide +kernel, by decide +kernel, by decide +kernel⟩,
      by decide +kernel, ⟨by decide +kernel, by decide +kernel⟩, literal_first, ?_⟩,
    ⟨by decide +kernel, by decide +kernel, by decide +kernel, by decide +kernel⟩, by decide +kernel,
    ⟨by decide +kernel, by decide +kernel⟩, literal_second, ?_⟩
  · rintro ⟨⟨m, hm, -⟩, -⟩
    rw [hlong] at hm
    cases hm
  · rintro ⟨⟨m, hm, -⟩, -⟩
    rw [hrespelt] at hm
    cases hm

end Sample

end Askit.Game

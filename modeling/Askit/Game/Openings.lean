import Askit.Game.HostTurns
import Askit.Game.Messages
import Askit.Game.Roster

/-! The opening of a question: the order that is stored of the questions, the question's rows, and
the start that is stored once the session has moved to it. -/

namespace Askit.Game

open Interleaving Machine Coro Tables
open HostTurns (orderRead)

section Rows

def QuizQuestion.reorder (questionId : UUID) (answers : List QuizAnswer) (q : QuizQuestion) :
    QuizQuestion :=
  if q.questionId = questionId ∧ answers.Perm q.answers then { q with answers := answers } else q

@[simp] lemma QuizQuestion.questionId_reorder (questionId : UUID) (answers : List QuizAnswer)
    (q : QuizQuestion) : (q.reorder questionId answers).questionId = q.questionId := by
  unfold reorder
  split <;> rfl

def Quiz.reorder (questionId : UUID) (answers : List QuizAnswer) (q : Quiz) : Quiz :=
  { q with questions := q.questions.map (QuizQuestion.reorder questionId answers) }

def Quizzes.reorder (questionId : UUID) (answers : List QuizAnswer) (q : Quizzes) : Quizzes where
  table := q.table.map (Quiz.reorder questionId answers) fun _ => rfl
  questionIds_nodup := by
    have hids : ((q.table.rows.map (Quiz.reorder questionId answers)).flatMap Quiz.questions).map
        QuizQuestion.questionId = (q.table.rows.flatMap Quiz.questions).map
          QuizQuestion.questionId := by
      simp [List.flatMap_map, List.map_flatMap, Quiz.reorder, Function.comp_def]
    have hnodup := q.questionIds_nodup
    rw [← hids] at hnodup
    exact hnodup

def Db.reorder (questionId : UUID) (answers : List QuizAnswer) (d : Db) : Db :=
  { d with
    quizzes := d.quizzes.reorder questionId answers
    quizId_fk := by
      have hids : (d.quizzes.reorder questionId answers).table.rows.map Quiz.quizId =
          d.quizzes.table.rows.map Quiz.quizId := by
        simp [Quizzes.reorder, Table.map, Quiz.reorder, Function.comp_def]
      rw [hids]
      exact d.quizId_fk }

inductive RowEnv
  | outside (e : Env)
  | reorder (questionId : UUID) (answers : List QuizAnswer)

def RowEnv.act (s : State) : RowEnv → State
  | .outside e => e.act s
  | .reorder questionId answers => { s with db := s.db.reorder questionId answers }

end Rows

section

variable [Runtime]

/-- As the system, and a query without an order may return the answers of a question in any. -/
def unordered : Machine Op Exn Unit where
  State := State
  Call := Call
  Env := RowEnv
  exec := exec
  ready := ready
  code := code
  enter := enter
  env e s := e.act s

def Call.Builds : Call → Prop
  | hostFrames .. | playerEndpoint .. | hostEndpoint .. => True
  | _ => False

instance : DecidablePred Call.Builds
  | .hostFrames .. | .playerEndpoint .. | .hostEndpoint .. => isTrue trivial
  | .joinRoom .. | .playerFrame .. | .questionTimeout _ | .subscriber _ | .delivery _ => isFalse id

namespace Rebuilt

abbrev Ev := Event Op Exn

def committedIndex : Ev → Option ℕ
  | ⟨_, .commit changes, .ok _⟩ => changes.session.map fun s => s.current.currentQuestionIndex
  | _ => none

def indexRead : Ev → Option ℕ
  | ⟨_, .getRoom _, .ok r⟩ => r.map fun r => r.session.currentQuestionIndex
  | _ => none

/-- The question that a process is about: the one it has moved the session to, or read it to be
at. -/
def building (l : List Ev) : Option ℕ :=
  (l.filterMap committedIndex).getLast?.or (l.filterMap indexRead).getLast?

def opening (roomCode : String) (before : List Ev) : Ev → Option (ℕ × Time)
  | ⟨i, .setQuestionStart room t _, .ok _⟩ =>
    if Runtime.upper room = Runtime.upper roomCode then (building (own i before)).map fun k =>
      (k, t) else none
  | _ => none

def openings (roomCode : String) (history : List Ev) : List (ℕ × Time) :=
    gather (opening roomCode) history

def ordersStored (roomCode : String) (history : List Ev) : List (List UUID) :=
  history.filterMap (storedOrder (Runtime.upper roomCode))

/-- What is found is what the question was opened with: the order that was stored first, the answers
in the order that they were in at first, and the time that was stored for the question first. -/
def OpSteady (s₀ s : State) (history : List Ev) (i : ℕ) : {β : Type} → Op β → Prop
  | _, .getQuestions room => ∀ ids ∈ s.redis.questions room,
  (ordersStored room history).head? = some ids
  | _, .getQuestion questionId => s.db.question? questionId = s₀.db.question? questionId
  | _, .getQuestionStart room => ∃ k ∈ building (own i history),
      ∃ start ∈ s.redis.questionStart room, (openings room history).lookup k = some start
  | _, _ => True

instance (s₀ s : State) (history : List Ev) (i : ℕ) {β : Type} (o : Op β) :
    Decidable (OpSteady s₀ s history i o) := by
  induction o using Op.casesOn <;> unfold OpSteady <;> infer_instance

variable {i : ℕ} {roomCode room : String} {α β : Type}

def questionRead : Ev → Option (UUID × Option QuizQuestion)
  | ⟨_, .getQuestion questionId, .ok q⟩ => some (questionId, q)
  | _ => none

def startRead : Ev → Option (String × Option Time)
  | ⟨_, .getQuestionStart room, .ok start⟩ => some (room, start)
  | _ => none

structure Checked (s₀ : State) (roomCode : String) (before : List Ev) (ev : Ev) : Prop where
  order : ∀ ids, orderRead roomCode ev = some ids → (ordersStored roomCode before).head? = some ids
  question : ∀ id q, questionRead ev = some (id, q) → q = s₀.db.question? id
  start : ∀ room start, startRead ev = some (room, start) →
    Runtime.upper room = Runtime.upper roomCode →
      ∃ k ∈ building (own ev.pid before), ∃ t ∈ start, (openings roomCode before).lookup k = some t

lemma ordersStored_congr {room : String} (h : Runtime.upper room = Runtime.upper roomCode)
    (history : List Ev) :
    ordersStored room history = ordersStored roomCode history := by
  rw [ordersStored, ordersStored, h]

lemma openings_congr {room : String} (h : Runtime.upper room = Runtime.upper roomCode)
    (history : List Ev) :
    openings room history = openings roomCode history := by
  have : opening room = opening roomCode := by
    funext before ev
    simp only [opening, h]
  rw [openings, openings, this]

lemma checked_perform {s₀ s : State} {history : List Ev} {o : Op β}
    (h : OpSteady s₀ s history i o) :
    Checked s₀ roomCode history ⟨i, o, (exec o s).1⟩ where
  order ids hids := by
    cases o with
    | getQuestions room =>
      simp only [orderRead, exec] at hids
      split at hids
      · next hu => exact ordersStored_congr hu history ▸ h ids hids
      · cases hids
    | _ => simp [orderRead] at hids
  question id q hq := by
    cases o with
    | getQuestion questionId =>
      simp only [questionRead, exec, Option.some.injEq, Prod.mk.injEq] at hq
      obtain ⟨rfl, rfl⟩ := hq
      exact h
    | _ => simp [questionRead] at hq
  start room start heq hu := by
    cases o with
    | getQuestionStart room' =>
      simp only [startRead, exec, Option.some.injEq, Prod.mk.injEq] at heq
      obtain ⟨rfl, rfl⟩ := heq
      exact openings_congr hu history ▸ h
    | _ => simp [startRead] at heq

lemma checked_fail (s₀ : State) (history : List Ev) (o : Op β) (e : Exn) :
    Checked s₀ roomCode history ⟨i, o, .error e⟩ where
  order ids hids := by cases o <;> simp [orderRead] at hids
  question id q hq := by cases o <;> simp [questionRead] at hq
  start room start heq hu := by cases o <;> simp [startRead] at heq

omit [Runtime] in
lemma head?_of_prefix {l l' : List α} {a : α} (h : l.head? = some a) (hl : l <+: l') :
    l'.head? = some a := by
  obtain ⟨r, rfl⟩ := hl
  rw [List.head?_append, h]
  rfl

section Dealt

def Dealt : {β : Type} → Op β → Prop
  | _, .setQuestions _ ids _ => ids.Nodup
  | _, _ => True

lemma nodup_of_answers {stored : Room} (h : system.Answers (.getRoom room) (some stored)) :
    (stored.quiz.questions.map QuizQuestion.questionId).Nodup := by
  obtain ⟨s, hs⟩ := h
  have hroom : (State.db s).room? (Runtime.upper room) = some stored := by
    simpa [system, exec] using hs
  rw [Db.room?, Option.bind_eq_some_iff] at hroom
  obtain ⟨g, -, hquiz⟩ := hroom
  rw [Option.map_eq_some_iff] at hquiz
  obtain ⟨quiz, hquiz, rfl⟩ := hquiz
  have hall := (State.db s).quizzes.questionIds_nodup
  rw [List.map_flatMap] at hall
  have hnodup := (List.nodup_flatMap.mp hall).1 quiz (Table.mem_get? hquiz)
  exact ((sortByPosition_perm quiz.questions).map _).nodup_iff.mpr hnodup

lemma questionOrder_returns (stored : Room) :
    (questionOrder stored).Returns system.Answers fun questions =>
      questions.Perm stored.quiz.questions := by
  unfold questionOrder
  split
  · refine ⟨?_, fun _ => trivial⟩
    rintro questions ⟨s, hs⟩
    obtain rfl : Runtime.shuffle (State.draws s) stored.quiz.questions = questions := by
      simpa [system, exec] using hs
    exact Runtime.shuffle_perm _ _
  · exact sortByPosition_perm _

lemma dealt_of_keeps {F : Footprint} {x : Handler α} (hx : Keeps F x)
    (hF : ∀ room ids, ¬F.stores room ids) :
    x.All system.Answers Dealt := by
  refine All.mono hx fun o ho => ?_
  cases o with
  | setQuestions room ids => exact (hF room ids ho).elim
  | _ => trivial

lemma startGame_dealt (hostId : UUID) : (startGame room hostId).All system.Answers Dealt := by
  apply All.perform_bind (by trivial)
  rintro (_ | stored) hstored
  · trivial
  apply All.require_bind
  intro _
  apply All.require_bind
  intro _
  refine All.bind_of_returns (dealt_of_keeps (F := .silent) (questionOrder_keeps stored)
    fun _ _ h => h)
    (questionOrder_returns stored) fun questions hperm => ?_
  apply All.perform_bind (by trivial)
  intro _ _
  apply All.perform_bind (by trivial)
  intro _ _
  apply All.perform_bind
  · exact (hperm.map _).nodup_iff.mpr (nodup_of_answers hstored)
  · exact fun _ _ => trivial

lemma hostFrames_dealt (hostId : UUID) (frames : List ClientMessage) :
    (hostFrames room hostId frames).All system.Answers Dealt := by
  refine All.forM fun data _ => All.perform_bind trivial fun _ _ => All.tryCatch ?_ fun _ =>
    dealt_of_keeps (F := .silent) (sendToHost_keeps _ _) fun _ _ h => h
  cases data with
  | startGame =>
    refine All.bind (startGame_dealt hostId) fun questions =>
      All.bind (All.forM fun _ _ => ?_) fun _ =>
      dealt_of_keeps (sendQuestion_keeps room _ _) fun _ _ h => h
    exact All.bind (dealt_of_keeps (F := .silent) (broadcastToRoom_keeps room (by trivial) none)
      fun _ _ h => h)
      fun _ => (all_perform _).mpr trivial
  | nextQuestion => exact dealt_of_keeps (handleNextQuestion_keeps room) fun _ _ h => h
  | answer _ _ | malformed => trivial

lemma code_dealt (call : Call) : (code call).All system.Answers Dealt := by
  cases call with
  | hostFrames room hostId frames => exact hostFrames_dealt hostId frames
  | _ => exact dealt_of_keeps (code_keeps _) fun _ _ h => h

lemma nodup_of_stored {history : List Ev} (h : ∀ ev ∈ history, Dealt ev.op) {ids : List UUID}
    (hids : ids ∈ ordersStored roomCode history) : ids.Nodup := by
  obtain ⟨⟨i, o, r⟩, hev, hstored⟩ := List.mem_filterMap.mp hids
  have hdealt := h _ hev
  cases o with
  | setQuestions room ids' ex =>
    cases r with
    | ok =>
      simp only [storedOrder] at hstored
      split at hstored
      · cases hstored
        exact hdealt
      · cases hstored
    | error => cases hstored
  | _ => cases hstored

end Dealt

section Clocked

def timeRead : Ev → Option (ℕ × Time)
  | ⟨i, .now, .ok t⟩ => some (i, t)
  | _ => none

/-- The readings of the clock, by the processes that have made them. -/
def timesRead (history : List Ev) : List (ℕ × Time) := history.filterMap timeRead

def clockedOpenings (roomCode : String) (history : List Ev) : List (ℕ × Time) :=
  gather (fun before ev => (opening roomCode before ev).filter fun p => (ev.pid, p.2) ∈ timesRead
    before) history

/-- A start that a process stores is a time that it has read. -/
def Clocked (l : List Ev) : Ev → Prop
  | ⟨i, .setQuestionStart _ t _, _⟩ => (i, t) ∈ timesRead l
  | _ => True

abbrev Clocks (i : ℕ) (x : Handler α) (l : List Ev) : Prop :=
  x.Follows system.Answers i Clocked (fun _ _ => True) l

variable {l : List Ev}

lemma clocks_of_keeps {F : Footprint} {x : Handler α} (hx : Keeps F x) (hF : ¬F.opens) :
    Clocks i x l := by
  apply Follows.of_all hx (A := fun _ => True) _ trivial
  intro β o r l' ho _ _
  refine ⟨?_, trivial⟩
  cases o with
  | setQuestionStart => exact (hF ho).elim
  | _ => trivial

lemma clocks_bind {o : Op α} {f : α → Handler β} (ho : ∀ r, Clocked l ⟨i, o, r⟩)
    (hf : ∀ a, system.Answers o a → Clocks i (f a) (l ++ [⟨i, o, .ok a⟩])) :
    Clocks i (await o >>= f) l :=
  .perform_bind (fun r _ => ho r) hf fun _ => trivial

def untimed : Footprint :=
  ⟨fun _ => True, fun _ _ => True, fun _ _ => True, fun _ => True, True, True, True, False⟩

lemma endGame_untimed : Keeps untimed (endGame room) := by
  apply All.perform_bind (by trivial)
  rintro (_ | stored) -
  · trivial
  apply All.perform_bind (by trivial)
  intro _ _
  apply All.perform_bind (by trivial)
  intro _ _
  apply All.bind (buildGameFinished_keeps room)
  rintro (_ | ⟨refreshed, finished⟩)
  · trivial
  · exact All.bind (announceFinished_keeps room _ _) fun _ => (all_perform _).mpr trivial

lemma advanceToQuestion_clocks (questionIndex : ℕ) :
    Clocks i (advanceToQuestion room questionIndex) l := by
  apply clocks_bind (by exact fun _ => trivial)
  rintro (_ | stored) -
  · trivial
  apply clocks_bind (by exact fun _ => trivial)
  rintro (_ | ids) -
  · trivial
  apply clocks_bind (by exact fun _ => trivial)
  intro _ _
  apply Follows.ite
  · intro _
    apply clocks_bind (by exact fun _ => trivial)
    intro _ _
    exact clocks_bind (by exact fun _ => trivial) fun _ _ => trivial
  intro _
  apply clocks_bind (by exact fun _ => trivial)
  intro _ _
  apply clocks_bind (by exact fun _ => trivial)
  intro now _
  apply Follows.perform_bind
  · exact fun _ _ => List.mem_filterMap.mpr ⟨⟨i, .now, .ok now⟩, by simp, rfl⟩
  · intro _ _
    cases ids[questionIndex - 1]? with
    | none => trivial
    | some id => exact Follows.perform fun _ _ => ⟨trivial, trivial⟩
  · exact fun _ => trivial

lemma sendQuestion_clocks (questionIndex total : ℕ) :
    Clocks i (sendQuestion room questionIndex total) l := by
  apply Follows.bind (advanceToQuestion_clocks questionIndex)
  swap
  · exact fun _ _ _ => trivial
  intro question l' _
  cases question with
  | none => exact clocks_of_keeps endGame_untimed id
  | some question =>
    have hkeeps : Keeps untimed (do
        let stored ← await (.getRoom room)
        let message ← buildQuestionMessage question questionIndex total room
          ((stored.map fun r => r.session.randomizeAnswers).getD false)
        broadcastToRoom room (.question message) none
        await (.createTask ⟨room, questionIndex, question.timeLimit⟩)) :=
      All.perform_bind trivial fun _ _ => All.bind (buildQuestionMessage_keeps _ _ _ _ _) fun _ =>
        All.bind (broadcastToRoom_keeps room (by trivial) none) fun _ => (all_perform _).mpr trivial
    exact clocks_of_keeps hkeeps id

lemma handleStartGame_clocks (hostId : UUID) : Clocks i (handleStartGame room hostId) l := by
  have hannounced (questions : List QuizQuestion) :
    Keeps untimed ([3000, 2000, 1000].forM fun ms => do
      broadcastToRoom room (.gameStarting ms questions.length) none
      await (.sleep 1000)) :=
    All.forM fun _ _ => All.bind (broadcastToRoom_keeps room (by trivial) none) fun _ =>
      (all_perform _).mpr trivial
  have hstart : Keeps untimed (startGame room hostId) := by
    apply All.perform_bind (by trivial)
    rintro (_ | stored) -
    · trivial
    exact All.require_bind fun _ => All.require_bind fun _ =>
      All.bind (questionOrder_keeps stored) fun _ =>
      All.perform_bind trivial fun _ _ => All.perform_bind trivial fun _ _ =>
        All.perform_bind trivial fun _ _ =>
        trivial
  apply Follows.bind (clocks_of_keeps hstart id)
  · intro questions _ _
    apply Follows.bind (clocks_of_keeps (hannounced questions) id)
    · exact fun _ _ _ => sendQuestion_clocks 1 _
    · exact fun _ _ _ => trivial
  · exact fun _ _ _ => trivial

lemma handleNextQuestion_clocks : Clocks i (handleNextQuestion room) l := by
  apply clocks_bind (by exact fun _ => trivial)
  rintro (_ | stored) -
  · trivial
  apply Follows.ite
  · intro _
    refine clocks_of_keeps (F := untimed) (All.bind (getCurrentQuestion_keeps room) ?_) id
    rintro ⟨refreshed, _ | question⟩
    · trivial
    · exact All.bind ((all_perform _).mpr trivial) fun _ =>
        All.bind (buildQuestionEnded_keeps _ _ _) fun _ =>
        broadcastToRoom_keeps room (by trivial) none
  intro _
  exact Follows.ite (fun _ => trivial) fun _ => Follows.ite
    (fun _ => clocks_of_keeps endGame_untimed id) fun _ => sendQuestion_clocks _ _

lemma hostFrames_clocks (hostId : UUID) (frames : List ClientMessage) :
    Clocks i (hostFrames room hostId frames) l := by
  induction frames generalizing l with
  | nil => trivial
  | cons data frames ih =>
    apply Follows.bind (S := fun _ _ => True)
    · apply clocks_bind (by exact fun _ => trivial)
      intro _ _
      apply Follows.tryCatch (S := fun _ _ => True)
      · cases data with
        | startGame => exact handleStartGame_clocks hostId
        | nextQuestion => exact handleNextQuestion_clocks
        | answer _ _ | malformed => trivial
      · exact fun _ _ _ => trivial
      · exact fun _ _ _ => clocks_of_keeps (F := untimed) (sendToHost_keeps _ _) id
    · exact fun _ _ _ => ih
    · exact fun _ _ _ => trivial

lemma code_clocked (i : ℕ) (call : Call) : Clocks i (code call) [] := by
  cases call with
  | hostFrames room hostId frames => exact hostFrames_clocks hostId frames
  | _ => exact clocks_of_keeps (code_keeps _) id

lemma openings_clocked {history : List Ev}
    (h : Recorded (fun before ev => Clocked (own ev.pid before) ev) history) :
    openings roomCode history = clockedOpenings roomCode history := by
  apply gather_congr
  intro before ev after hh
  have hclocked := h before ev after hh
  obtain ⟨i, o, r⟩ := ev
  cases o with
  | setQuestionStart room t ex =>
    cases r with
    | error => rfl
    | ok =>
      have hread : (i, t) ∈ timesRead before := by
        obtain ⟨ev, hev, hread⟩ := List.mem_filterMap.mp hclocked
        exact List.mem_filterMap.mpr ⟨ev, (mem_own.mp hev).1, hread⟩
      simp only [opening]
      split
      · cases building (own i before) <;> simp [Option.filter, hread]
      · rfl
  | _ => rfl

end Clocked

end Rebuilt

end

end Askit.Game

import Askit.Game.HostTurns
import Askit.Game.Locality

/-! What a submission has come upon when it is turned away. -/

namespace Askit.Game

open Interleaving Machine Coro Tables

section

variable [Runtime]

/-- The question that `get_current_question` finds. -/
def Current (roomCode : String) (w : system.World) (questionId : UUID) : Prop :=
  (position roomCode w).index ≠ 0 ∧ ∃ ids, orders roomCode w = [ids] ∧
    ids[(position roomCode w).index - 1]? = some questionId

def Op.LogsDuplicate {β : Type} : Op β → Prop
  | .log (.answerIgnored .alreadyAnsweredError _) => True
  | _ => False

instance {β : Type} : DecidablePred (Op.LogsDuplicate (β := β)) := fun o => by
  induction o using Op.casesOn with
  | log entry =>
    cases entry with
    | answerIgnored reason playerId =>
      cases reason <;> first | exact isTrue trivial | exact isFalse id
    | answerSubmitted => exact isFalse id
  | _ => exact isFalse id

/-- The `submit_answer` of a frame of the player has just raised `AlreadyAnsweredError`, which the
handler is about to log. -/
def TurnedAway (roomCode : String) (playerId : UUID) : Option system.Proc → Prop
  | some ⟨.playerFrame room p _, .await o _⟩ =>
    Runtime.upper room = Runtime.upper roomCode ∧ p = playerId ∧ o.LogsDuplicate
  | _ => False

instance (roomCode : String) (playerId : UUID) : DecidablePred (TurnedAway roomCode playerId)
  | some ⟨.playerFrame room p _, .await o _⟩ =>
    inferInstanceAs (Decidable (Runtime.upper room = Runtime.upper roomCode ∧ p = playerId ∧
      o.LogsDuplicate))
  | some ⟨.playerFrame _ _ _, .done _⟩ | some ⟨.joinRoom .., _⟩ | some ⟨.hostFrames .., _⟩
  | some ⟨.questionTimeout _, _⟩ | some ⟨.playerEndpoint .., _⟩ | some ⟨.hostEndpoint .., _⟩
  | some ⟨.subscriber _, _⟩ | some ⟨.delivery _, _⟩ | none => isFalse id

namespace FastPath

open HostTurns

variable (roomCode : String)

def asks (questionId : UUID) : Event Op Exn → Prop
  | ⟨_, .getQuestion id, .ok question⟩ => id = questionId ∧ question.isSome
  | _ => False

def records (a : GamePlayerAnswer) : Event Op Exn → Prop
  | ⟨_, .commit changes, .ok _⟩ => changes.newAnswer = some a
  | _ => False

/-- The event makes `submit_answer` raise `AlreadyAnsweredError`, or is an exception of that
kind. -/
def rejects : Event Op Exn → Prop
  | ⟨_, .sismemberAnswered _ _ _, .ok answered⟩ => answered = true
  | ⟨_, .commit changes, .error .integrityError⟩ => changes.newAnswer.isSome
  | ⟨_, _, .error .alreadyAnsweredError⟩ => True
  | _ => False

def Found (index : ℕ) (questionId : UUID) (l : List (Event Op Exn)) : Prop :=
  ∃ first second ids, reads roomCode l = [first, second] ∧
    first.session.currentQuestionIndex = index ∧ second.session.currentQuestionIndex ≠ 0 ∧
    (∃ ev ∈ l, orderRead roomCode ev = some ids) ∧
    ids[second.session.currentQuestionIndex - 1]? = some questionId ∧ ∃ ev ∈ l, asks questionId ev

/-- What a submission has seen before it looks for a member, commits a record, adds a member, or
says that the player has answered. -/
def Ruled (room : String) (playerId : UUID) (l : List (Event Op Exn)) : Event Op Exn → Prop
  | ⟨_, .sismemberAnswered room' index p, _⟩ => room' = room ∧ p = playerId ∧
      ∃ first, reads roomCode l = [first] ∧ first.session.currentQuestionIndex = index
  | ⟨_, .commit changes, _⟩ => ∀ a ∈ changes.newAnswer, a.playerId = playerId ∧
      changes.newPlayer = none ∧ ∃ index, Found roomCode index a.questionId l
  | ⟨_, .saddAnswered _ index p, _⟩ => p = playerId ∧ ∃ a, (∃ ev ∈ l, records a ev) ∧
      a.playerId = playerId ∧ Found roomCode index a.questionId l
  | ⟨_, .log (.answerIgnored .alreadyAnsweredError _), _⟩ => ∃ ev ∈ l, rejects ev
  | _ => True

variable {roomCode} {room : String} {playerId : UUID} {i : ℕ} {l l' : List (Event Op Exn)}
variable {α β γ : Type}

def Away (r : Except Exn α) (l : List (Event Op Exn)) : Prop :=
  r = .error .alreadyAnsweredError → ∃ ev ∈ l, rejects ev

abbrev Follows (roomCode room : String) (playerId : UUID) (i : ℕ)
    (Q : Except Exn α → List (Event Op Exn) → Prop) (x : Handler α) (l : List (Event Op Exn)) :
    Prop :=
  x.Follows system.Answers i (Ruled roomCode room playerId) Q l

omit [Runtime] in
lemma away_ok (a : α) : Away (.ok a) l := nofun

omit [Runtime] in
lemma away_of_error (o : Op α) (e : Exn) :
    Away (.error e : Except Exn β) (l ++ [⟨i, o, .error e⟩]) := by
  rintro ⟨⟩
  refine ⟨_, List.mem_append_right l (List.mem_singleton_self _), ?_⟩
  cases o <;> exact trivial

omit [Runtime] in
lemma Away.error {e : Exn} (h : Away (.error e : Except Exn α) l) :
    Away (.error e : Except Exn β) l := by
  rintro ⟨⟩
  exact h rfl

def Free : {β : Type} → Op β → Prop
  | _, .sismemberAnswered _ _ _ | _, .commit _ | _, .saddAnswered _ _ _ | _, .log _ => False
  | _, _ => True

lemma Free.ruled {o : Op α} (ho : Free o) (r : Except Exn α) :
    Ruled roomCode room playerId l ⟨i, o, r⟩ := by
  cases o with
  | sismemberAnswered | commit | saddAnswered | log => exact ho.elim
  | _ => exact trivial

lemma perform_follows {o : Op α} (ho : Free o) :
    Follows roomCode room playerId i Away (await o) l := by
  apply Follows.perform
  intro r _
  refine ⟨ho.ruled r, ?_⟩
  cases r with
  | ok a => exact away_ok a
  | error e => exact away_of_error o e

lemma perform_bind {o : Op α} (ho : Free o) {f : α → Handler β}
    (hf : ∀ a, system.Answers o a → Follows roomCode room playerId i Away (f a)
      (l ++ [⟨i, o, .ok a⟩])) :
    Follows roomCode room playerId i Away (await o >>= f) l :=
  .perform_bind (fun r _ => ho.ruled r) hf fun e => away_of_error o e

lemma bind {x : Handler α} {f : α → Handler β} (hx : ∀ l, Follows roomCode room playerId i Away x l)
    (hf : ∀ a l, Follows roomCode room playerId i Away (f a) l) (l : List (Event Op Exn)) :
    Follows roomCode room playerId i Away (x >>= f) l :=
  Follows.bind (hx l) (fun a l' _ => hf a l') fun _ _ h => h.error

lemma forM {xs : List γ} {f : γ → Handler Unit}
    (h : ∀ x l, Follows roomCode room playerId i Away (f x) l) (l : List (Event Op Exn)) :
    Follows roomCode room playerId i Away (xs.forM f) l := by
  induction xs generalizing l with
  | nil => exact away_ok ()
  | cons x xs ih => exact bind (h x) (fun _ => ih) l

lemma sendQuietly_follows (websocket : Socket) (message : Frame) (l : List (Event Op Exn)) :
    Follows roomCode room playerId i Away (sendQuietly websocket message) l :=
  Follows.tryCatch (perform_follows (by trivial)) (fun _ _ h => h) fun _ _ _ => away_ok ()

lemma sendToPlayer_follows (p : UUID) (message : Frame) (l : List (Event Op Exn)) :
    Follows roomCode room playerId i Away (sendToPlayer p message) l := by
  apply perform_bind (by trivial)
  intro websocket _
  cases websocket with
  | none => exact away_ok ()
  | some websocket => exact sendQuietly_follows websocket message _

lemma sendToHost_follows (r : String) (message : Frame) (l : List (Event Op Exn)) :
    Follows roomCode room playerId i Away (sendToHost r message) l := by
  apply perform_bind (by trivial)
  intro websocket _
  cases websocket with
  | none => exact away_ok ()
  | some websocket => exact sendQuietly_follows websocket message _

lemma sendToLocalRoom_follows (r : String) (message : Frame) (excludePlayerId : Option UUID)
    (l : List (Event Op Exn)) :
    Follows roomCode room playerId i Away (sendToLocalRoom r message excludePlayerId) l := by
  apply perform_bind (by trivial)
  intro connections _
  apply forM
  intro websocket l
  apply perform_bind (by trivial)
  intro p _
  exact Follows.ite (fun _ => away_ok ()) fun _ => sendQuietly_follows websocket message _

lemma broadcastToRoom_follows (r : String) (message : Frame) (excludePlayerId : Option UUID)
    (l : List (Event Op Exn)) :
    Follows roomCode room playerId i Away (broadcastToRoom r message excludePlayerId) l :=
  Follows.tryCatch (perform_follows (by trivial)) (fun _ _ h => h)
    fun _ l _ => sendToLocalRoom_follows r message excludePlayerId l

lemma answerAccepted_follows (r : String) (p : UUID) (answerIds : List String)
    (result : WSAnswerResult) (l : List (Event Op Exn)) :
    Follows roomCode room playerId i Away (answerAccepted r p answerIds result) l := by
  apply perform_bind (by trivial)
  intro stored _
  apply bind (broadcastToRoom_follows r _ none)
  intro _
  apply bind
  · intro l
    exact Follows.ite (fun _ => sendToPlayer_follows p _ l) fun _ => away_ok ()
  · intro _ l
    cases stored.bind (hostAnswerUpdate p answerIds result) with
    | none => exact away_ok ()
    | some update => exact sendToHost_follows r _ l

lemma Found.append {index : ℕ} {questionId : UUID} (h : Found roomCode index questionId l)
    {ev : Event Op Exn} (hev : roomRead roomCode ev = none) :
    Found roomCode index questionId (l ++ [ev]) := by
  obtain ⟨first, second, ids, hreads, hfirst, hsecond, ⟨e, he, hids⟩, hq, e', he', hask⟩ := h
  refine ⟨first, second, ids, ?_, hfirst, hsecond, ⟨e, List.mem_append_left _ he, hids⟩, hq, e',
    List.mem_append_left _ he', hask⟩
  rw [reads_append, hev, hreads]
  rfl

lemma question_of_answers {questionId : UUID} {question : QuizQuestion}
    (h : system.Answers (.getQuestion questionId) (some question)) :
    question.questionId = questionId := by
  obtain ⟨s, hs⟩ := h
  have hq : Db.question? (State.db s) questionId = some question := by simpa [system, exec] using hs
  exact Db.questionId_question? hq

lemma getCurrentQuestion_follows (hu : Runtime.upper room = Runtime.upper roomCode) (first : Room)
    (hl : reads roomCode l = [first]) :
    Follows roomCode room playerId i
      (fun r l' => Away r l' ∧ ∀ refreshed question, r = .ok (refreshed, some question) →
        Found roomCode first.session.currentQuestionIndex question.questionId l')
      (getCurrentQuestion room) l := by
  apply Follows.perform_bind (fun r _ => Free.ruled (by trivial) r)
  · intro second _
    cases second with
    | none => exact ⟨away_ok _, fun _ _ h => (by cases h)⟩
    | some second =>
      apply Follows.ite
      · exact fun _ => ⟨away_ok _, fun _ _ h => (by cases h)⟩
      · intro hzero
        apply Follows.perform_bind (fun r _ => Free.ruled (by trivial) r)
        · intro questionIds _
          cases questionIds with
          | none => exact ⟨away_ok _, fun _ _ h => (by cases h)⟩
          | some ids =>
            cases hid : ids[second.session.currentQuestionIndex - 1]? with
            | none =>
              simp only [hid]
              exact ⟨away_ok _, fun _ _ h => (by cases h)⟩
            | some questionId =>
              simp only [hid]
              apply Follows.perform_bind (fun r _ => Free.ruled (by trivial) r)
              · intro question hquestion
                refine ⟨away_ok _, ?_⟩
                rintro refreshed found ⟨⟩
                obtain rfl := question_of_answers hquestion
                refine ⟨first, second, ids, ?_, rfl, hzero,
                  ⟨⟨i, .getQuestions room, .ok (some ids)⟩, ?_, ?_⟩,
                  hid, ⟨i, .getQuestion found.questionId, .ok (some found)⟩, ?_, rfl, rfl⟩
                · rw [reads_append, reads_append, reads_append, hl]
                  simp [roomRead, hu]
                · simp
                · simp [orderRead, hu]
                · simp
              · exact fun e => ⟨away_of_error _ e, fun _ _ h => (by cases h)⟩
        · exact fun e => ⟨away_of_error _ e, fun _ _ h => (by cases h)⟩
  · exact fun e => ⟨away_of_error _ e, fun _ _ h => (by cases h)⟩

def Ready (roomCode : String) (index : ℕ) (questionId : UUID) (r : Except Exn α)
    (l : List (Event Op Exn)) : Prop :=
  Away r l ∧ Found roomCode index questionId l

lemma timeTaken_follows {index : ℕ} {questionId : UUID} (question : QuizQuestion)
    (start : Option Time) (hl : Found roomCode index questionId l) :
    Follows roomCode room playerId i (Ready roomCode index questionId)
      (timeTaken question start) l := by
  cases start with
  | none => exact ⟨away_ok _, hl⟩
  | some start =>
    apply Follows.perform_bind (fun r _ => Free.ruled (by trivial) r)
    · exact fun now _ => ⟨away_ok _, hl.append rfl⟩
    · exact fun e => ⟨away_of_error _ e, hl.append rfl⟩

lemma commitAnswer_follows {index : ℕ} (player : Option GamePlayer) (record : GamePlayerAnswer)
    (hp : record.playerId = playerId) (hl : Found roomCode index record.questionId l) :
    Follows roomCode room playerId i
      (fun r l' => Away r l' ∧ ∀ a, r = .ok a → Found roomCode index record.questionId l' ∧
        ∃ ev ∈ l', records record ev)
      (commitAnswer player record) l := by
  apply Follows.tryCatch (S := fun r l' =>
    (∀ a, r = .ok a → Found roomCode index record.questionId l' ∧
    ∃ ev ∈ l', records record ev) ∧
      ∀ e, r = .error e → e = .integrityError ∨ e = .alreadyAnsweredError → ∃ ev ∈ l', rejects ev)
  · apply Follows.perform
    intro r _
    refine ⟨?_, ?_, ?_⟩
    · rintro a ⟨⟩
      exact ⟨hp, rfl, index, hl⟩
    · rintro a rfl
      exact ⟨hl.append rfl, _, List.mem_append_right l (List.mem_singleton_self _), rfl⟩
    · rintro e rfl he
      refine ⟨_, List.mem_append_right l (List.mem_singleton_self _), ?_⟩
      rcases he with rfl | rfl
      · exact rfl
      · exact trivial
  · intro a l' h
    exact ⟨away_ok a, h.1⟩
  · intro e l' h
    apply Follows.ite
    · intro he
      obtain ⟨ev, hev, hr⟩ := h.2 e rfl (.inl he)
      apply Follows.perform_bind (fun r _ => Free.ruled (by trivial) r)
      · exact fun _ _ => ⟨fun _ => ⟨ev, List.mem_append_left _ hev, hr⟩, fun _ h => (by cases h)⟩
      · exact fun e' => ⟨away_of_error _ e', fun _ h => (by cases h)⟩
    · intro _
      refine ⟨?_, fun _ h => (by cases h)⟩
      intro he
      exact h.2 e rfl (.inr (by simpa using he))

lemma submitAnswer_follows (hu : Runtime.upper room = Runtime.upper roomCode) (questionId : String)
    (answerIds : List String) :
    Follows roomCode room playerId i Away (submitAnswer room playerId questionId answerIds) [] := by
  apply perform_bind (by trivial)
  intro stored _
  cases stored with
  | none => exact fun h => (by cases h)
  | some first =>
    have hfirst : reads roomCode [(⟨i, .getRoom room, .ok (some first)⟩ : Event Op Exn)]
        = [first] := by
      simp [reads, roomRead, hu]
    apply Follows.require_bind
    swap
    · exact fun _ h => (by cases h)
    intro _
    apply Follows.perform_bind
    · exact fun _ _ => ⟨rfl, rfl, first, hfirst, rfl⟩
    swap
    · exact fun e => away_of_error _ e
    intro answered _
    apply Follows.require_bind
    swap
    · intro h _
      exact ⟨_, List.mem_append_right _ (List.mem_singleton_self _), by simpa [rejects] using h⟩
    intro _
    cases Runtime.uuid questionId with
    | none => exact fun h => (by cases h)
    | some submittedQuestionId =>
      apply Follows.bind (getCurrentQuestion_follows hu first (by simp [reads, roomRead, hu]))
      swap
      · exact fun e l h => Away.error h.1
      rintro ⟨refreshed, question⟩ l₁ ⟨-, h₁⟩
      cases question with
      | none => exact fun h => (by cases h)
      | some question =>
        replace h₁ := h₁ refreshed question rfl
        apply Follows.require_bind
        swap
        · exact fun _ h => (by cases h)
        rintro rfl
        apply perform_bind (by trivial)
        intro questionStart _
        replace h₁ : Found roomCode first.session.currentQuestionIndex question.questionId
            (l₁ ++ [⟨i, .getQuestionStart room, .ok questionStart⟩]) := h₁.append rfl
        apply Follows.bind (timeTaken_follows question questionStart h₁)
        swap
        · exact fun e l h => Away.error h.1
        intro timeTakenMs l₂ h₂
        apply perform_bind (by trivial)
        intro row _
        replace h₂ : Found roomCode first.session.currentQuestionIndex question.questionId
            (l₂ ++ [⟨i, .getPlayer playerId, .ok row⟩]) := h₂.2.append rfl
        apply Follows.bind (commitAnswer_follows _ _ rfl h₂)
        swap
        · exact fun e l h => Away.error h.1
        rintro _ l₃ ⟨-, h₃⟩
        obtain ⟨hfound, ev, hev, hrec⟩ := h₃ () rfl
        apply Follows.perform_bind
        · exact fun _ _ => ⟨rfl, _, ⟨ev, hev, hrec⟩, rfl, hfound⟩
        swap
        · exact fun e => away_of_error _ e
        intro _ _
        apply perform_bind (by trivial)
        intro _ _
        apply Follows.perform_bind
        · exact fun _ _ => trivial
        · exact fun _ _ => away_ok _
        · exact fun e => away_of_error _ e

lemma answerRejected_follows (e : Exn) (hl : e = .alreadyAnsweredError → ∃ ev ∈ l, rejects ev) :
    Follows roomCode room playerId i (fun _ _ => True) (answerRejected playerId e) l := by
  cases e with
  | alreadyAnsweredError =>
    apply Follows.perform_bind
    · exact fun _ _ => hl rfl
    · exact fun _ _ => (sendToPlayer_follows playerId _ _).mono fun _ _ _ => trivial
    · exact fun _ => trivial
  | questionNotActiveError =>
    apply Follows.perform_bind
    · exact fun _ _ => trivial
    · exact fun _ _ => (sendToPlayer_follows playerId _ _).mono fun _ _ _ => trivial
    · exact fun _ => trivial
  | _ => exact (sendToPlayer_follows playerId _ _).mono fun _ _ _ => trivial

lemma handlePlayerMessage_follows (hu : Runtime.upper room = Runtime.upper roomCode)
    (data : ClientMessage) :
    Follows roomCode room playerId i (fun _ _ => True)
      (handlePlayerMessage room playerId data) [] := by
  apply Follows.tryCatch (S := fun _ _ => True)
  · cases data with
    | answer questionId answerIds =>
      apply Follows.tryCatch (S := Away)
      · apply Follows.bind (submitAnswer_follows hu questionId answerIds)
        · exact fun result l _ => answerAccepted_follows room playerId answerIds result l
        · exact fun e l h => Away.error h
      · exact fun _ _ _ => trivial
      · intro e l h
        exact answerRejected_follows e fun he => h (congrArg Except.error he)
    | startGame | nextQuestion | malformed => exact trivial
  · exact fun _ _ _ => trivial
  · exact fun _ l _ => (sendToPlayer_follows playerId _ l).mono fun _ _ _ => trivial

end FastPath

end

end Askit.Game

import Askit.Game.Cleanup
import Askit.Game.Recipients

/-! What the services read and judge before their results are sent. -/

namespace Askit.Game

open Interleaving Machine Coro Tables

namespace Recipients

section

variable [Runtime]

variable {i : ℕ} {call : Call} {roomCode : String} {playerId : UUID} {websocket : Socket}
    {message : Frame}
variable {l l' : List Ev} {α β γ : Type}

section Services

lemma quiet_ends {x : Handler α} (hx : x.All system.Answers Quiet) :
    Follows i call (fun _ _ => True) x l :=
  (quiet_follows hx).mono fun _ _ _ => trivial

lemma questionId_of_answers {questionId : UUID} {question : QuizQuestion}
    (h : system.Answers (.getQuestion questionId) (some question)) :
    question.questionId = questionId := by
  obtain ⟨(s : State), hs⟩ := h
  have hq : (State.db s).question? questionId = some question := by simpa [system, exec] using hs
  simpa using List.find?_some hq

structure Asks (i : ℕ) (call : Call) (l : List Ev) (room : Room) (question : QuizQuestion) :
    Prop where
  read : ⟨i, .getRoom call.room, .ok (some room)⟩ ∈ l
  begun : 0 < room.session.currentQuestionIndex
  ordered : ∃ ids, ⟨i, .getQuestions call.room, .ok (some ids)⟩ ∈ l ∧
    ids[room.session.currentQuestionIndex - 1]? = some question.questionId
  found : ⟨i, .getQuestion question.questionId, .ok (some question)⟩ ∈ l

namespace Asks

variable {room : Room} {question : QuizQuestion}

omit [Runtime] in
lemma mono (h : Asks i call l room question) (hl : l ⊆ l') : Asks i call l' room question := by
  obtain ⟨hroom, hindex, ⟨ids, hids, hid⟩, hquestion⟩ := h
  exact ⟨hl hroom, hindex, ⟨ids, hl hids, hid⟩, hl hquestion⟩

omit [Runtime] in
lemma shows (h : Asks i call l room question) {ended : WSQuestionEnded}
    (hid : ended.questionId = question.questionId)
    (hcorrect : ended.correctAnswerIds = correctAnswerIds question) :
    Shows i call.room room.session.currentQuestionIndex ended l := by
  obtain ⟨-, hindex, ⟨ids, hids, horder⟩, hquestion⟩ := h
  exact ⟨hindex, ids, question, hids, horder, hquestion, hid, hcorrect⟩

end Asks

lemma getCurrentQuestion_follows : Follows i call (fun r l' => l <+: l' ∧ ∀ refreshed question,
      r = .ok (refreshed, some question) → ∃ room, refreshed = some room ∧
      Asks i call l' room question)
    (getCurrentQuestion call.room) l := by
  apply quiet_bind (by trivial)
  swap
  · exact fun _ => ⟨List.prefix_append _ _, fun _ _ h => (by cases h)⟩
  rintro (_ | room) -
  · exact ⟨List.prefix_append _ _, fun _ _ h => (by cases h)⟩
  apply Follows.ite
  · exact fun _ => ⟨List.prefix_append _ _, fun _ _ h => (by cases h)⟩
  intro hindex
  apply quiet_bind (by trivial)
  swap
  · exact fun _ => ⟨by simp, fun _ _ h => (by cases h)⟩
  rintro (_ | ids) -
  · exact ⟨by simp, fun _ _ h => (by cases h)⟩
  dsimp only
  cases hid : ids[room.session.currentQuestionIndex - 1]? with
  | none => exact ⟨by simp, fun _ _ h => (by cases h)⟩
  | some id =>
    apply quiet_bind (by trivial)
    swap
    · exact fun _ => ⟨by simp, fun _ _ h => (by cases h)⟩
    intro found hfound
    refine ⟨by simp, ?_⟩
    rintro refreshed question ⟨⟩
    obtain rfl := questionId_of_answers hfound
    exact ⟨room, rfl, by simp, Nat.pos_of_ne_zero hindex, ⟨ids, by simp, hid⟩, by simp⟩

lemma getLeaderboard_follows : Follows i call (fun r l' => l <+: l' ∧ ∀ refreshed entries,
      r = .ok (refreshed, entries) → ∀ room ∈ refreshed,
      ⟨i, .getRoom call.room, .ok (some room)⟩ ∈ l')
    (getLeaderboard call.room) l := by
  apply quiet_bind (by trivial)
  swap
  · exact fun _ => ⟨List.prefix_append _ _, fun _ _ h => (by cases h)⟩
  rintro (_ | room) -
  · refine ⟨List.prefix_append _ _, ?_⟩
    rintro _ _ ⟨⟩ _ h
    cases h
  apply quiet_bind (by trivial)
  swap
  · exact fun _ => ⟨by simp, fun _ _ h => (by cases h)⟩
  intro prevRanking _
  apply quiet_bind (by trivial)
  swap
  · exact fun _ => ⟨by simp, fun _ _ h => (by cases h)⟩
  intro _ _
  refine ⟨by simp, ?_⟩
  rintro _ _ ⟨⟩ _ ⟨⟩
  simp

lemma buildGameFinished_follows : Follows i call (fun r l' => l <+: l' ∧ ∀ room finished,
      r = .ok (some (room, finished)) → ⟨i, .getRoom call.room, .ok (some room)⟩ ∈ l' ∧
        finished.publicResults = room.session.publicResults)
    (buildGameFinished call.room) l := by
  apply quiet_bind (by trivial)
  swap
  · exact fun _ => ⟨List.prefix_append _ _, fun _ _ h => (by cases h)⟩
  rintro (_ | room) -
  · exact ⟨List.prefix_append _ _, fun _ _ h => (by cases h)⟩
  apply Follows.bind getLeaderboard_follows
  swap
  · exact fun e l₁ h₁ => ⟨(List.prefix_append _ _).trans h₁.1, fun _ _ h => (by cases h)⟩
  rintro ⟨refreshed, leaderboard⟩ l₁ ⟨h₁, hread⟩
  have hl₁ : l <+: l₁ := (List.prefix_append _ _).trans h₁
  apply quiet_bind (by trivial)
  swap
  · exact fun _ => ⟨hl₁.trans (List.prefix_append _ _), fun _ _ h => (by cases h)⟩
  intro now _
  refine ⟨hl₁.trans (List.prefix_append _ _), ?_⟩
  rintro _ _ ⟨⟩
  refine ⟨List.mem_append_left _ ?_, rfl⟩
  cases refreshed with
  | none => exact h₁.subset (by simp)
  | some room' => exact hread _ _ rfl room' rfl

lemma buildQuestionMessage_quiet (question : QuizQuestion) (questionIndex totalQuestions : ℕ)
    (roomCode : String) (randomizeAnswers : Bool) :
    (buildQuestionMessage question questionIndex totalQuestions roomCode randomizeAnswers).All
      system.Answers Quiet := by
  apply All.perform_bind (by trivial)
  rintro (_ | start) -
  · exact All.perform_bind (by trivial) fun _ _ => trivial
  · trivial

lemma buildQuestionEnded_quiet (roomCode : String) (sessionId : UUID) (question : QuizQuestion) :
    (buildQuestionEnded roomCode sessionId question).All system.Answers Quiet :=
  quiet_of (Messages.buildQuestionEnded _ _)
    (Keeps.off (F := .silent) (buildQuestionEnded_keeps _ _ _) id)

lemma buildQuestionEnded_returns (roomCode : String) (sessionId : UUID) (question : QuizQuestion) :
    Returns system.Answers (fun r => r.2.questionId = question.questionId ∧
      r.2.correctAnswerIds = correctAnswerIds question)
        (buildQuestionEnded roomCode sessionId question) := by
  apply Returns.bind
  intro distribution
  apply Returns.bind
  rintro ⟨refreshed, leaderboard⟩
  exact (returns_pure _).mpr ⟨rfl, rfl⟩

lemma buildRoomState_follows (forHost : Bool) : Follows i call (fun r l' => l <+: l' ∧ ∀ state,
      r = .ok (some state) → Due i call l' (.roomState state))
        (buildRoomState call.room forHost) l := by
  have hnone : ∀ l' loaded players count question details, ∀ state : WSRoomState,
      (.ok (some (roomState loaded players count question details none)) : Except Exn
      (Option WSRoomState)) =
        .ok (some state) → Due i call l' (.roomState state) := by
    rintro _ _ _ _ _ _ _ ⟨⟩ ended h
    cases h
  apply quiet_bind (by trivial)
  swap
  · exact fun _ => ⟨List.prefix_append _ _, fun _ h => (by cases h)⟩
  rintro (_ | room) -
  · exact ⟨List.prefix_append _ _, fun _ h => (by cases h)⟩
  dsimp only
  apply Follows.ite
  swap
  · exact fun _ => ⟨List.prefix_append _ _, hnone _ _ _ _ _ _⟩
  intro _
  apply Follows.bind getCurrentQuestion_follows
  swap
  · exact fun _ l₁ h₁ => ⟨(List.prefix_append _ _).trans h₁.1, fun _ h => (by cases h)⟩
  rintro ⟨refreshed, question⟩ l₁ ⟨h₁, hread⟩
  have hl₁ : l <+: l₁ := (List.prefix_append _ _).trans h₁
  cases question with
  | none => exact ⟨hl₁, hnone _ _ _ _ _ _⟩
  | some question =>
    obtain ⟨loaded, rfl, hasks⟩ := hread _ _ rfl
    apply Follows.bind (quiet_follows (buildQuestionMessage_quiet _ _ _ _ _))
    swap
    · exact fun _ l₂ h₂ => ⟨hl₁.trans h₂, fun _ h => (by cases h)⟩
    intro message l₂ h₂
    apply Follows.bind (quiet_follows (quiet_of (Messages.answerDetails _ _ _) _))
    rotate_left 2
    · exact All.ite (fun _ => All.perform_bind (by trivial) fun _ _ => trivial) fun _ => trivial
    swap
    · exact fun _ l₃ h₃ => ⟨hl₁.trans (h₂.trans h₃), fun _ h => (by cases h)⟩
    intro details l₃ h₃
    have hl₃ : l₁ <+: l₃ := h₂.trans h₃
    apply Follows.ite
    · intro hstatus
      apply Follows.bind ((quiet_follows (buildQuestionEnded_quiet _ _ _)).and_returns
        (buildQuestionEnded_returns _ _ _))
      swap
      · exact fun _ l₄ h₄ => ⟨hl₁.trans (hl₃.trans h₄.1), fun _ h => (by cases h)⟩
      rintro ⟨_, ended⟩ l₄ ⟨h₄, hshown⟩
      refine ⟨hl₁.trans (hl₃.trans h₄), ?_⟩
      rintro _ ⟨⟩ _ ⟨⟩
      have hmono := (hl₃.trans h₄).subset
      exact ⟨_, (hasks.mono hmono).shows (hshown _ rfl).1 (hshown _ rfl).2, loaded,
        hmono hasks.read, hstatus, rfl⟩
    · exact fun _ => ⟨hl₁.trans hl₃, hnone _ _ _ _ _ _⟩

lemma commitAnswer_follows (player : Option GamePlayer) (record : GamePlayerAnswer) :
    Follows i call (fun r l' => l <+: l' ∧
      (r = .ok () → ⟨i, .commit (.answer player record), .ok ()⟩ ∈ l'))
      (commitAnswer player record) l := by
  apply Follows.tryCatch (S := fun r l' => l <+: l' ∧
    (r = .ok () → ⟨i, .commit (.answer player record), .ok ()⟩ ∈ l'))
  · apply Follows.perform
    refine fun r _ => ⟨trivial, List.prefix_append _ _, ?_⟩
    rintro rfl
    exact List.mem_concat_self
  · exact fun _ _ h => h
  · intro e l₁ h₁
    apply Follows.ite
    · intro _
      apply quiet_bind (by trivial)
      · exact fun _ _ => ⟨h₁.1.trans (List.prefix_append _ _), fun h => (by cases h)⟩
      · exact fun _ => ⟨h₁.1.trans (List.prefix_append _ _), fun h => (by cases h)⟩
    · exact fun _ => ⟨h₁.1, fun h => (by cases h)⟩

def Judged (i : ℕ) (playerId : UUID) (result : WSAnswerResult) (l : List Ev) : Prop :=
  ∃ player record question, ⟨i, .commit (.answer player record), .ok ()⟩ ∈ l ∧
    record.playerId = playerId ∧
    ⟨i, .getQuestion record.questionId, .ok (some question)⟩ ∈ l ∧
    result = ⟨record.isCorrect, correctAnswerIds question, record.pointsEarned, record.timeTakenMs⟩

omit [Runtime] in
lemma Judged.mono {result : WSAnswerResult} (h : Judged i playerId result l) (hl : l ⊆ l') :
    Judged i playerId result l' := by
  obtain ⟨player, record, question, hcommit, hp, hq, hr⟩ := h
  exact ⟨player, record, question, hl hcommit, hp, hl hq, hr⟩

lemma submitAnswer_follows (questionId : String) (answerIds : List String) :
    Follows i call (fun r l' => l <+: l' ∧ ∀ result, r = .ok result → Judged i playerId result l')
      (submitAnswer call.room playerId questionId answerIds) l := by
  apply quiet_bind (by trivial)
  swap
  · exact fun _ => ⟨List.prefix_append _ _, fun _ h => (by cases h)⟩
  rintro (_ | room) -
  · exact ⟨List.prefix_append _ _, fun _ h => (by cases h)⟩
  apply Follows.require_bind
  swap
  · exact fun _ => ⟨List.prefix_append _ _, fun _ h => (by cases h)⟩
  intro _
  apply quiet_bind (by trivial)
  swap
  · exact fun _ => ⟨by simp, fun _ h => (by cases h)⟩
  intro answered _
  apply Follows.require_bind
  swap
  · exact fun _ => ⟨by simp, fun _ h => (by cases h)⟩
  intro _
  cases Runtime.uuid questionId with
  | none => exact ⟨by simp, fun _ h => (by cases h)⟩
  | some submittedQuestionId =>
    apply Follows.bind getCurrentQuestion_follows
    swap
    · exact fun _ l₁ h₁ => ⟨(by simp : l <+: _).trans h₁.1, fun _ h => (by cases h)⟩
    rintro ⟨refreshed, question⟩ l₁ ⟨h₁, hread⟩
    have hl₁ : l <+: l₁ := (by simp : l <+: _).trans h₁
    cases question with
    | none => exact ⟨hl₁, fun _ h => (by cases h)⟩
    | some question =>
      obtain ⟨loaded, rfl, hasks⟩ := hread _ _ rfl
      apply Follows.require_bind
      swap
      · exact fun _ => ⟨hl₁, fun _ h => (by cases h)⟩
      rintro rfl
      apply quiet_bind (by trivial)
      swap
      · exact fun _ => ⟨hl₁.trans (List.prefix_append _ _), fun _ h => (by cases h)⟩
      intro start _
      have htime : (timeTaken question start).All system.Answers Quiet := by
        cases start with
        | none => trivial
        | some start => exact All.perform_bind (by trivial) fun _ _ => trivial
      apply Follows.bind (quiet_follows htime)
      swap
      · exact fun _ l₂ h₂ => ⟨hl₁.trans ((List.prefix_append _ _).trans h₂),
          fun _ h => (by cases h)⟩
      intro timeTakenMs l₂ h₂
      have hl₂ : l₁ <+: l₂ := (List.prefix_append _ _).trans h₂
      apply quiet_bind (by trivial)
      swap
      · exact fun _ => ⟨hl₁.trans (hl₂.trans (List.prefix_append _ _)), fun _ h => (by cases h)⟩
      intro row _
      apply Follows.bind (commitAnswer_follows _ _)
      swap
      · exact fun _ l₃ h₃ =>
          ⟨hl₁.trans (hl₂.trans ((List.prefix_append _ _).trans h₃.1)), fun _ h => (by cases h)⟩
      intro _ l₃ h₃
      have hl₃ : l₁ <+: l₃ := hl₂.trans ((List.prefix_append _ _).trans h₃.1)
      apply quiet_bind (by trivial)
      swap
      · exact fun _ => ⟨hl₁.trans (hl₃.trans (List.prefix_append _ _)), fun _ h => (by cases h)⟩
      intro _ _
      apply quiet_bind (by trivial)
      swap
      · exact fun _ => ⟨hl₁.trans (hl₃.trans (by simp)), fun _ h => (by cases h)⟩
      intro _ _
      apply quiet_bind (by trivial)
      swap
      · exact fun _ => ⟨hl₁.trans (hl₃.trans (by simp)), fun _ h => (by cases h)⟩
      intro _ _
      refine ⟨hl₁.trans (hl₃.trans (by simp)), ?_⟩
      rintro _ ⟨⟩
      apply Judged.mono (l := l₃) _ (by simp)
      exact ⟨_, _, question, h₃.2 rfl, rfl, hl₃.subset hasks.found, rfl⟩

end Services

end

end Recipients

end Askit.Game

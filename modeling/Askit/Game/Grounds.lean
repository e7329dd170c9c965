import Askit.Game.Playing

/-! What the commits of a session rest on, whatever fails. -/

namespace Askit.Game

open Interleaving Machine Coro Tables

section

variable [Runtime]

namespace Stranded

variable {roomCode code : String}

section Grounds

abbrev Ev := Event Op Exn

variable {i : ℕ} {call : Call} {l l' : List Ev} {α β γ : Type}

inductive Moves (i : ℕ) (call : Call) (l : List Ev) (g : GameSession) : GameSession → Prop
  | start (startedAt : Time) : Moves i call l g
    { g with status := .starting, startedAt := some startedAt }
  | ask (room : Room) (ids : List UUID) (k : ℕ)
      (read : ⟨i, .getRoom call.room, .ok (some room)⟩ ∈ l)
      (loaded : room.session = g) (order : ⟨i, .getQuestions call.room, .ok (some ids)⟩ ∈ l)
        (first : 1 ≤ k)
      (last : k ≤ ids.length) : Moves i call l g
        { g with status := .question, currentQuestionIndex := k }
  | reveal (room : Room) (read : ⟨i, .getRoom call.room, .ok (some room)⟩ ∈ l)
      (running : room.session.status = .question) : Moves i call l g { g with status := .revealing }
  | finish (endedAt : Time) : Moves i call l g
      { g with status := .finished, endedAt := some endedAt }

def Duty (call : Call) (l : List Ev) : Ev → Prop
  | ⟨i, .commit changes, _⟩ => ∀ s ∈ changes.session, s.loaded.roomCode = Runtime.upper call.room ∧
      Moves i call l s.loaded s.current
  | ⟨i, .setQuestions code ids _, _⟩ =>
    code = call.room ∧ ∃ room, ⟨i, .getRoom call.room, .ok (some room)⟩ ∈ l ∧
      ids.Perm (room.quiz.questions.map QuizQuestion.questionId)
  | _ => True

abbrev Follows (i : ℕ) (call : Call) (Q : Except Exn α → List Ev → Prop) (x : Handler α)
    (l : List Ev) : Prop :=
  x.Follows system.Answers i (Duty call) Q l

def quiet : Footprint :=
  ⟨fun changes => changes.session = none, fun _ _ => False, fun _ _ => True, fun _ => True, True,
    True, True, True⟩

omit [Runtime] in
lemma announces_quiet (code : String) (message : Frame) : quiet.Announces code message := by
  cases message <;> trivial

lemma quiet_duty {o : Op β} (ho : o.Within quiet) (r : Except Exn β) : Duty call l ⟨i, o, r⟩ := by
  cases o with
  | commit changes =>
    intro s hs
    have hnone : changes.session = none := ho
    rw [hnone] at hs
    cases hs
  | setQuestions => exact ho.elim
  | _ => trivial

lemma quiet_follows {x : Handler α} (hx : Keeps quiet x) :
    Follows i call (fun _ l' => l <+: l') x l :=
  .of_all hx (fun _ r _ ho _ hl => ⟨quiet_duty ho r, hl.trans (List.prefix_append _ _)⟩)
    (List.prefix_refl l)

lemma quiet_ends {x : Handler α} (hx : Keeps quiet x) : Follows i call (fun _ _ => True) x l :=
  (quiet_follows hx).mono fun _ _ _ => trivial

lemma quiet_bind {o : Op γ} {f : γ → Handler β} (ho : o.Within quiet)
    (hf : ∀ a, system.Answers o a → Follows i call (fun _ _ => True) (f a) (l ++ [⟨i, o, .ok a⟩])) :
    Follows i call (fun _ _ => True) (await o >>= f) l :=
  .perform_bind (fun r _ => quiet_duty ho r) hf fun _ => trivial

lemma commit_bind {g cur : GameSession} {f : Unit → Handler β}
    (hg : g.roomCode = Runtime.upper call.room) (hm : Moves i call l g cur)
    (hf : ∀ l', l <+: l' → Follows i call (fun _ _ => True) (f ()) l') :
    Follows i call (fun _ _ => True) (await (.commit { session := some ⟨g, cur⟩ }) >>= f) l := by
  apply Follows.perform_bind
  · rintro r - s ⟨⟩
    exact ⟨hg, hm⟩
  · exact fun _ _ => hf _ (List.prefix_append _ _)
  · exact fun _ => trivial

lemma endGame_follows : Follows i call (fun _ _ => True) (endGame call.room) l := by
  apply quiet_bind (by trivial)
  rintro (_ | room) hroom
  · trivial
  apply quiet_bind (by trivial)
  intro endedAt _
  apply commit_bind (roomCode_of_answers hroom) (.finish _)
  intro l' _
  apply quiet_ends
  apply All.bind (buildGameFinished_keeps _)
  rintro (_ | ⟨room, finished⟩)
  · trivial
  · exact All.bind (announceFinished_keeps _ _ _) fun _ => (all_perform _).mpr trivial

lemma advanceToQuestion_follows {k : ℕ} (hk : 1 ≤ k) :
    Follows i call (fun _ _ => True) (advanceToQuestion call.room k) l := by
  apply quiet_bind (by trivial)
  rintro (_ | room) hroom
  · trivial
  apply quiet_bind (by trivial)
  rintro (_ | ids) -
  · trivial
  apply quiet_bind (by trivial)
  intro _ _
  apply Follows.ite
  · intro _
    apply quiet_bind (by trivial)
    intro endedAt _
    exact commit_bind (roomCode_of_answers hroom) (.finish _) fun _ _ => trivial
  · intro hlast
    apply commit_bind (roomCode_of_answers hroom)
      (.ask room ids k (by simp) rfl (by simp) hk (Nat.le_of_not_lt hlast))
    intro l' _
    apply quiet_ends
    apply All.perform_bind (by trivial)
    intro now _
    apply All.perform_bind (by trivial)
    intro _ _
    cases ids[k - 1]? with
    | none => trivial
    | some id => exact (all_perform _).mpr trivial

lemma sendQuestion_follows {k : ℕ} (hk : 1 ≤ k) (total : ℕ) :
    Follows i call (fun _ _ => True) (sendQuestion call.room k total) l := by
  apply Follows.bind (advanceToQuestion_follows hk)
  swap
  · exact fun _ _ _ => trivial
  rintro (_ | question) l₁ -
  · exact endGame_follows
  apply quiet_ends
  apply All.perform_bind (by trivial)
  intro room _
  apply All.bind (buildQuestionMessage_keeps _ _ _ _ _)
  intro message
  exact All.bind (broadcastToRoom_keeps _ (announces_quiet _ _) none) fun _ =>
    (all_perform _).mpr trivial

lemma questionOrder_follows (room : Room) :
    Follows i call (fun r l' => l <+: l' ∧ ∀ questions, r = .ok questions →
      questions.Perm room.quiz.questions)
      (questionOrder room) l := by
  apply Follows.ite
  · intro _
    refine Follows.perform fun r hr => ⟨trivial, List.prefix_append _ _, ?_⟩
    rintro questions rfl
    obtain ⟨s, hs⟩ := hr questions rfl
    have hshuffle : Runtime.shuffle (State.draws s) room.quiz.questions = questions := by
      simpa [system, exec] using hs
    exact hshuffle ▸ Runtime.shuffle_perm _ _
  · rintro _
    refine ⟨List.prefix_refl l, ?_⟩
    rintro questions ⟨⟩
    exact sortByPosition_perm _

lemma startGame_follows (hostId : UUID) :
    Follows i call (fun _ _ => True) (startGame call.room hostId) l := by
  apply quiet_bind (by trivial)
  rintro (_ | room) hroom
  · trivial
  apply Follows.require_bind
  swap
  · exact fun _ => trivial
  intro _
  apply Follows.require_bind
  swap
  · exact fun _ => trivial
  intro _
  apply Follows.bind (questionOrder_follows room)
  swap
  · exact fun _ _ _ => trivial
  rintro questions l₁ ⟨hl₁, hperm⟩
  apply quiet_bind (by trivial)
  intro startedAt _
  apply commit_bind (roomCode_of_answers hroom) (.start _)
  intro l₂ hl₂
  apply Follows.perform_bind
  · intro r _
    refine ⟨rfl, room, ?_, (hperm _ rfl).map _⟩
    exact (hl₁.trans ((List.prefix_append _ _).trans hl₂)).subset (by simp)
  · exact fun _ _ => trivial
  · exact fun _ => trivial

lemma handleStartGame_follows (hostId : UUID) :
    Follows i call (fun _ _ => True) (handleStartGame call.room hostId) l := by
  apply Follows.bind (startGame_follows hostId)
  swap
  · exact fun _ _ _ => trivial
  intro questions l₁ _
  apply Follows.bind (S := fun _ _ => True)
  · apply quiet_ends
    apply All.forM
    intro ms _
    exact All.bind (broadcastToRoom_keeps _ (announces_quiet _ _) none) fun _ =>
      (all_perform _).mpr trivial
  · exact fun _ _ _ => sendQuestion_follows le_rfl _
  · exact fun _ _ _ => trivial

lemma handleNextQuestion_follows :
    Follows i call (fun _ _ => True) (handleNextQuestion call.room) l := by
  apply quiet_bind (by trivial)
  rintro (_ | room) hroom
  · trivial
  have hcode : room.session.roomCode = Runtime.upper call.room := roomCode_of_answers hroom
  apply Follows.ite
  · intro hrunning
    apply Follows.bind
      ((quiet_follows (getCurrentQuestion_keeps _)).and_returns
        (getCurrentQuestion_returns call.room))
    swap
    · exact fun _ _ _ => trivial
    rintro ⟨refreshed, question⟩ l₁ ⟨hl₁, hreturns⟩
    cases question with
    | none => trivial
    | some question =>
      have hloaded : (refreshed.getD room).session.roomCode = Runtime.upper call.room := by
        cases refreshed with
        | none => exact hcode
        | some room' => exact hreturns _ rfl room' rfl
      apply commit_bind hloaded (.reveal room (hl₁.subset (by simp)) hrunning)
      intro l₂ _
      apply quiet_ends
      exact All.bind (buildQuestionEnded_keeps _ _ _) fun _ =>
        broadcastToRoom_keeps _ (announces_quiet _ _) none
  · intro _
    apply Follows.ite
    · exact fun _ => trivial
    intro _
    apply Follows.ite
    · exact fun _ => endGame_follows
    · exact fun _ => sendQuestion_follows (Nat.succ_pos _) _

lemma questionTimeout_follows (questionIndex timeLimitMs : ℕ) :
    Follows i call (fun _ _ => True) (questionTimeout call.room questionIndex timeLimitMs) l := by
  apply quiet_bind (by trivial)
  intro _ _
  apply quiet_bind (by trivial)
  rintro (_ | room) hroom
  · trivial
  apply Follows.ite
  · exact fun _ => trivial
  intro _
  apply Follows.ite
  · exact fun _ => trivial
  intro hrunning
  apply commit_bind (roomCode_of_answers hroom) (.reveal room (by simp) (not_not.mp hrunning))
  intro l₁ _
  apply quiet_ends
  apply All.bind (getCurrentQuestion_keeps _)
  rintro ⟨refreshed, question⟩
  cases question with
  | none => trivial
  | some question =>
    exact All.bind (buildQuestionEnded_keeps _ _ _) fun _ => broadcastToRoom_keeps _
      (announces_quiet _ _) none

lemma hostFrames_follows (hostId : UUID) (frames : List ClientMessage) :
    Follows i call (fun _ _ => True) (hostFrames call.room hostId frames) l := by
  apply Follows.forM _ trivial
  intro data _ l₁ _
  apply quiet_bind (by trivial)
  intro _ _
  apply Follows.tryCatch (S := fun _ _ => True)
  · cases data with
    | startGame => exact handleStartGame_follows hostId
    | nextQuestion => exact handleNextQuestion_follows
    | answer _ _ | malformed => trivial
  · exact fun _ _ _ => trivial
  · exact fun _ _ _ => quiet_ends (sendToHost_keeps _ _)

lemma code_quiet (hhost : ∀ code hostId frames, call ≠ .hostFrames code hostId frames)
    (htimer : ∀ timer, call ≠ .questionTimeout timer) : Keeps quiet (Game.code call) := by
  apply All.mono (code_keeps call)
  intro β o ho
  cases o with
  | commit changes =>
    cases call with
    | hostFrames code hostId frames => exact absurd rfl (hhost _ _ _)
    | questionTimeout timer => exact absurd rfl (htimer _)
    | playerFrame room playerId data =>
      obtain ⟨-, -, -, -, -, p, a, -, -, rfl⟩ := ho.ofAnswer
      rfl
    | joinRoom room nickname user =>
      obtain ⟨p, -, rfl⟩ := ho
      rfl
    | playerEndpoint id room origin wsToken =>
      obtain ⟨p, rfl⟩ := ho
      rfl
    | hostEndpoint | subscriber | delivery => exact ho.elim
  | setQuestions =>
    cases call with
    | hostFrames code hostId frames => exact absurd rfl (hhost _ _ _)
    | _ => exact ho.elim
  | publish code e => exact announces_quiet code e.message
  | _ => trivial

lemma code_follows (i : ℕ) (call : Call) :
    Follows i call (fun _ _ => True) (Game.code call) [] := by
  cases call with
  | hostFrames code hostId frames =>
    exact @hostFrames_follows _ i (.hostFrames code hostId frames) [] hostId frames
  | questionTimeout timer => exact @questionTimeout_follows _ i (.questionTimeout timer) [] _ _
  | _ => exact quiet_ends (code_quiet (fun _ _ _ h => (by cases h)) fun _ h => (by cases h))

end Grounds

end Stranded

end

end Askit.Game

import Askit.Game.Effects

/-! What a submission leaves in the history, in its order. -/

namespace Askit.Game

open Interleaving Machine Coro Tables

lemma countP_le_one {α : Type*} {l : List α} {K : α → Bool} {f : α → ℕ}
    (hone : ∀ a ∈ l, K a → ∀ b ∈ l, K b → f a = f b)
    (heach : ∀ a ∈ l, K a → (l.filter fun b => f b = f a).countP K ≤ 1) : l.countP K ≤ 1 := by
  by_cases h : ∃ a ∈ l, K a
  · obtain ⟨a, ha, hKa⟩ := h
    have hsame : l.countP K = (l.filter fun b => f b = f a).countP K := by
      rw [List.countP_filter]
      apply List.countP_congr
      intro b hb
      simp only [Bool.and_eq_true, decide_eq_true_eq]
      exact ⟨fun hKb => ⟨hKb, hone b hb hKb a ha hKa⟩, And.left⟩
    exact hsame ▸ heach a ha hKa
  · rw [List.countP_eq_zero.mpr fun a ha hKa => h ⟨a, ha, hKa⟩]
    omega

section

/-- What a call of `handle_answer` does that can be told from outside. `answer_submitted` is logged
as `submit_answer` returns, `answer_ignored` where its exception is caught. -/
inductive Mark
  | committed
  | returned
  | raised (reason : Exn)
  | answered
  | updated
  deriving DecidableEq

def mark : Event Op Exn → Option Mark
  | ⟨_, .commit _, .ok _⟩ => some .committed
  | ⟨_, .log (.answerSubmitted ..), _⟩ => some .returned
  | ⟨_, .log (.answerIgnored reason _), _⟩ => some (.raised reason)
  | ⟨_, .publish _ ⟨.playerAnswered _, _⟩, _⟩ => some .answered
  | ⟨_, .sendJson _ (.hostAnswerUpdate _), _⟩ => some .updated
  | _ => none

def marks (i : ℕ) (history : List (Event Op Exn)) : List Mark :=
  (history.filter fun ev => ev.pid = i).filterMap mark

/-- How a call of `handle_answer` ends. -/
def outcomes : List (List Mark) :=
  [[.raised .alreadyAnsweredError], [.raised .questionNotActiveError],
    [.committed, .returned, .answered], [.committed, .returned, .answered, .updated]]

def stages : List (List Mark) := outcomes.flatMap List.inits

lemma nil_mem_stages : [] ∈ stages := by decide

lemma committed_mem_stages : [.committed] ∈ stages := by decide

lemma returned_mem_stages : [.committed, .returned] ∈ stages := by decide

lemma answered_mem_stages : [.committed, .returned, .answered] ∈ stages := by decide

lemma updated_mem_stages : [.committed, .returned, .answered, .updated] ∈ stages := by decide

lemma raised_mem_stages {e : Exn} (h : e = .alreadyAnsweredError ∨ e = .questionNotActiveError) :
    [.raised e] ∈ stages := by
  rcases h with rfl | rfl <;> decide

lemma count_le_one_of_stage {m : List Mark} (h : m ∈ stages) (x : Mark) : m.count x ≤ 1 := by
  have hnodup : ∀ m ∈ stages, m.Nodup := by decide
  exact List.nodup_iff_count_le_one.mp (hnodup m h) x

lemma committed_of_stage {m : List Mark} (h : m ∈ stages) {x : Mark} (hx : x ∈ m)
    (hne : ∀ e, x ≠ .raised e) : .committed ∈ m := by
  have hall : ∀ m ∈ stages, ∀ x ∈ m, .committed ∈ m ∨ x = .raised .alreadyAnsweredError ∨
      x = .raised .questionNotActiveError := by
    decide
  rcases hall m h x hx with h | rfl | rfl
  · exact h
  · exact (hne _ rfl).elim
  · exact (hne _ rfl).elim

lemma marks_append (i : ℕ) (history : List (Event Op Exn)) {β : Type} (o : Op β)
    (r : Except Exn β) :
    marks i (history ++ [⟨i, o, r⟩]) = marks i history ++ (mark ⟨i, o, r⟩).toList := by
  cases h : mark ⟨i, o, r⟩ <;> simp [marks, h]

lemma marks_append_of_ne {i j : ℕ} (history : List (Event Op Exn)) {β : Type} (o : Op β)
    (r : Except Exn β) (h : j ≠ i) : marks j (history ++ [⟨i, o, r⟩]) = marks j history := by
  simp [marks, h.symm]

lemma marks_eq_nil {i : ℕ} {history : List (Event Op Exn)} (h : ∀ ev ∈ history, ev.pid ≠ i) :
    marks i history = [] := by
  simp only [marks, List.filterMap_eq_nil_iff, List.mem_filter]
  intro ev hev
  exact (h ev hev.1 (by simpa using hev.2)).elim

/-- The operations that a closed or slow socket can fail. -/
def Op.Socket {β : Type} : Op β → Prop
  | .receiveJson | .accept _ | .disconnected _ | .sendJson _ _ | .close _ _ _ => True
  | _ => False

def Op.Quiet {β : Type} : Op β → Prop
  | .getRoom _ | .getQuestion _ | .getPlayer _ | .rollback | .getQuestions _ | .getQuestionStart _
  | .sismemberAnswered _ _ _ | .saddAnswered _ _ _ | .expireAnswered _ _ _ | .now
  | .playerSocket _ | .hostSocket _ => True
  | _ => False

variable [Runtime]

omit [Runtime] in
lemma room?_isSome {d : Db} {roomCode : String} (h : (d.sessions.get? roomCode).isSome) :
    ∃ room, d.room? roomCode = some room := by
  obtain ⟨g, hg⟩ := Option.isSome_iff_exists.mp h
  have hfk := d.quizId_fk g (Table.mem_get? hg)
  cases hq : d.quizzes.table.get? g.quizId with
  | none => exact (Table.get?_eq_none.mp hq hfk).elim
  | some quiz => exact ⟨_, room?_eq hg hq⟩

namespace AnsweredOnce

structure Rely (i : ℕ) (v w : system.World) : Prop where
  marks : marks i w.history = marks i v.history
  rooms : ∀ roomCode, (v.state.db.sessions.get? roomCode).isSome →
    (w.state.db.sessions.get? roomCode).isSome

structure Guar (i : ℕ) (call : Call) (v w : system.World) : Prop where
  others : ∀ j, j ≠ i → Rely j v w
  stage : ∀ room playerId data, call = .playerFrame room playerId data →
    Game.marks i w.history ∈ stages

def contract (i : ℕ) (call : Call) : Contract system fun _ => True where
  rely := Rely i
  guar := Guar i call
  allowed _ _ := True
  faults o _ := o.Socket
  refl _ := ⟨rfl, fun _ => id⟩
  trans h₁ h₂ := ⟨h₂.marks.trans h₁.marks, fun r hr => h₂.rooms r (h₁.rooms r hr)⟩

/-- Where the process stands: its room is stored, and `m` is what it has done. -/
structure At (roomCode : String) (i : ℕ) (m : List Mark) (w : system.World) : Prop where
  marks : marks i w.history = m
  room : (w.state.db.sessions.get? (Runtime.upper roomCode)).isSome

def discipline : Discipline system fun _ => True where
  contract := contract
  post i call _ w := ∀ room playerId questionId answerIds,
    call = .playerFrame room playerId (.answer questionId answerIds) → marks i w.history ∈ outcomes
  stable _ _ _ := fun h hr room playerId questionId answerIds hc =>
    hr.marks ▸ h room playerId questionId answerIds hc

variable {roomCode : String} {i : ℕ} {call : Call} {m : List Mark} {w : system.World} {β γ : Type}

lemma At.rely {v : system.World} (h : At roomCode i m v) (hr : Rely i v w) : At roomCode i m w :=
  ⟨hr.marks.trans h.marks, hr.rooms _ h.room⟩

lemma At.perform (h : At roomCode i m w) (o : Op γ) :
    At roomCode i (m ++ (mark ⟨i, o, (exec o w.state).1⟩).toList) (w.perform i o).2 :=
  ⟨h.marks ▸ marks_append i w.history o _, exec_sessions_isSome o h.room⟩

lemma At.fail (h : At roomCode i m w) (o : Op γ) (e : Exn) :
    At roomCode i (m ++ (mark ⟨i, o, .error e⟩).toList) (w.fail i o e) :=
  ⟨h.marks ▸ marks_append i w.history o _, h.room⟩

lemma others_perform (o : Op γ) (j : ℕ) (hj : j ≠ i) : Rely j w (w.perform i o).2 :=
  ⟨marks_append_of_ne w.history o _ hj, fun _ => exec_sessions_isSome o⟩

lemma others_fail (o : Op γ) (e : Exn) (j : ℕ) (hj : j ≠ i) : Rely j w (w.fail i o e) :=
  ⟨marks_append_of_ne w.history o _ hj, fun _ => id⟩

lemma bind {o : Op γ} {f : γ → Handler β} {Q : Except Exn β → system.World → Prop}
    (hw : At roomCode i m w) (hs : ¬o.Socket)
    (hstage : ∀ r, m ++ (mark ⟨i, o, r⟩).toList ∈ stages)
    (hok : ∀ a (s : State) v, (s.db.sessions.get? (Runtime.upper roomCode)).isSome →
      (exec o s).1 = .ok a → At roomCode i (m ++ (mark ⟨i, o, .ok a⟩).toList) v →
      (contract i call).Ensures i Q (f a) v)
    (herror : ∀ e (s : State) v, (exec o s).1 = .error e →
      At roomCode i (m ++ (mark ⟨i, o, .error e⟩).toList) v → Q (.error e) v) :
    (contract i call).Ensures i Q (Coro.await o done >>= f) w := by
  intro w₁ hr _ _
  have h₁ := hw.rely hr
  have h₂ := h₁.perform o
  refine ⟨fun _ => ⟨trivial, ⟨others_perform o, fun _ _ _ _ => ?_⟩, ?_⟩, fun e he => (hs he).elim⟩
  · exact h₂.marks ▸ hstage _
  · change (contract i call).Ensures i Q (done (exec o w₁.state).1 >>= f) _
    cases hx : (exec o w₁.state).1 with
    | ok a => exact hok a _ _ h₁.room hx (hx ▸ h₂)
    | error e => exact herror e _ _ hx (hx ▸ h₂)

omit [Runtime] in
lemma mark_quiet {o : Op γ} (ho : o.Quiet) (r : Except Exn γ) : mark ⟨i, o, r⟩ = none := by
  cases o <;> first | rfl | exact ho.elim

lemma exec_quiet {o : Op γ} (ho : o.Quiet) (s : State) (e : Exn) : (exec o s).1 ≠ .error e := by
  cases o <;> first | exact ho.elim | exact nofun

lemma quiet_bind {o : Op γ} {f : γ → Handler β} {Q : Except Exn β → system.World → Prop}
    (hw : At roomCode i m w) (ho : o.Quiet) (hm : m ∈ stages)
    (hok : ∀ a (s : State) v, (s.db.sessions.get? (Runtime.upper roomCode)).isSome →
      (exec o s).1 = .ok a → At roomCode i m v → (contract i call).Ensures i Q (f a) v) :
    (contract i call).Ensures i Q (Coro.perform o >>= f) w := by
  apply bind hw
  · cases o <;> first | exact id | exact ho.elim
  · intro r
    simpa [mark_quiet ho] using hm
  · intro a s v hs ha hv
    exact hok a s v hs ha (by simpa [mark_quiet ho] using hv)
  · intro e s v he
    exact (exec_quiet ho s e he).elim

def Through (roomCode : String) (i : ℕ) (m : List Mark) (r : Except Exn β) (w : system.World) :
    Prop :=
  (∃ a, r = .ok a) ∧ At roomCode i m w

lemma getCurrentQuestion_ensures (hw : At roomCode i m w) (hm : m ∈ stages) :
    (contract i call).Ensures i (Through roomCode i m) (getCurrentQuestion roomCode) w := by
  apply quiet_bind hw (by trivial) hm
  intro room s v _ _ hv
  cases room with
  | none => exact ⟨⟨_, rfl⟩, hv⟩
  | some room =>
    apply Contract.Ensures.ite
    · exact fun _ => ⟨⟨_, rfl⟩, hv⟩
    · intro _
      apply quiet_bind hv (by trivial) hm
      intro questionIds s' v' _ _ hv'
      cases questionIds with
      | none => exact ⟨⟨_, rfl⟩, hv'⟩
      | some questionIds =>
        dsimp only
        split
        · apply quiet_bind hv' (by trivial) hm
          exact fun question s'' v'' _ _ hv'' => ⟨⟨_, rfl⟩, hv''⟩
        · exact ⟨⟨_, rfl⟩, hv'⟩

lemma timeTaken_ensures (hw : At roomCode i m w) (hm : m ∈ stages) (question : QuizQuestion)
    (start : Option Time) :
    (contract i call).Ensures i (Through roomCode i m) (timeTaken question start) w := by
  cases start with
  | none => exact ⟨⟨_, rfl⟩, hw⟩
  | some start => exact quiet_bind hw (by trivial) hm fun now s v _ _ hv => ⟨⟨_, rfl⟩, hv⟩

lemma sendQuietly_ensures (hw : At roomCode i m w) (websocket : Socket) (message : Frame)
    (hm : m ++ (mark ⟨i, .sendJson websocket message, .ok ()⟩).toList ∈ stages) :
    (contract i call).Ensures i
      (Through roomCode i (m ++ (mark ⟨i, .sendJson websocket message, .ok ()⟩).toList))
      (sendQuietly websocket message) w := by
  intro w₁ hr _ _
  have h₁ := hw.rely hr
  -- a send leaves the same mark whether or not it fails
  have hmark : ∀ e, mark ⟨i, .sendJson websocket message, .error e⟩ =
      mark ⟨i, .sendJson websocket message, .ok ()⟩ := by
    intro e
    cases message <;> rfl
  refine ⟨fun _ => ⟨trivial, ⟨others_perform _, fun _ _ _ _ => ?_⟩, ⟨⟨_, rfl⟩, h₁.perform _⟩⟩,
    fun e _ => ⟨trivial, ⟨others_fail _ e, fun _ _ _ _ => ?_⟩, ⟨⟨_, rfl⟩, ?_⟩⟩⟩
  · exact (h₁.perform (.sendJson websocket message)).marks ▸ hm
  · exact (h₁.fail (.sendJson websocket message) e).marks ▸ hmark e ▸ hm
  · exact hmark e ▸ h₁.fail (.sendJson websocket message) e

lemma sendToPlayer_ensures (hw : At roomCode i m w) (hm : m ∈ stages) (playerId : UUID)
    {message : Frame} (hmessage : ∀ ws, mark ⟨i, .sendJson ws message, .ok ()⟩ = none) :
    (contract i call).Ensures i (Through roomCode i m) (sendToPlayer playerId message) w := by
  apply quiet_bind hw (by trivial) hm
  intro websocket s v _ _ hv
  cases websocket with
  | none => exact ⟨⟨_, rfl⟩, hv⟩
  | some websocket =>
    have h := @sendQuietly_ensures _ roomCode i call m v hv websocket message
    rw [hmessage websocket, Option.toList_none, List.append_nil] at h
    exact h hm

lemma commitAnswer_ensures (hw : At roomCode i [] w) (player : Option GamePlayer)
    (record : GamePlayerAnswer) :
    (contract i call).Ensures i
      (fun r v => (∃ a, r = .ok a) ∧ At roomCode i [.committed] v ∨
        r = .error .alreadyAnsweredError ∧ At roomCode i [] v)
      (commitAnswer player record) w := by
  apply Contract.Ensures.tryCatch (S := fun r v =>
    (∃ a, r = .ok a) ∧ At roomCode i [.committed] v ∨ r = .error .integrityError ∧
      At roomCode i [] v)
  · rw [← bind_pure (await _)]
    apply bind hw (by exact id)
    · rintro (e | a)
      · exact nil_mem_stages
      · exact committed_mem_stages
    · exact fun a s v _ _ hv => .inl ⟨⟨a, rfl⟩, hv⟩
    · intro e s v he hv
      refine .inr ⟨?_, hv⟩
      simp only [exec] at he
      split at he <;> cases he
      rfl
  · rintro a v (h | ⟨h, -⟩)
    · exact .inl h
    · cases h
  · rintro e v (⟨⟨a, ha⟩, -⟩ | ⟨he, hv⟩)
    · cases ha
    · cases he
      exact quiet_bind hv (by trivial) nil_mem_stages fun _ s v' _ _ hv' => .inr ⟨rfl, hv'⟩

/-- How a call of `submit_answer` ends. -/
def Submitted (roomCode : String) (i : ℕ) (r : Except Exn β) (w : system.World) : Prop :=
  (∃ a, r = .ok a) ∧ At roomCode i [.committed, .returned] w ∨
    (r = .error .alreadyAnsweredError ∨ r = .error .questionNotActiveError) ∧ At roomCode i [] w

lemma submitAnswer_ensures (hw : At roomCode i [] w) (playerId : UUID) (questionId : String)
    (answerIds : List String) :
    (contract i call).Ensures i (Submitted roomCode i)
      (submitAnswer roomCode playerId questionId answerIds) w := by
  apply quiet_bind hw (by trivial) nil_mem_stages
  intro room s v hs hroom hv
  obtain ⟨r, hr⟩ := room?_isSome hs
  obtain rfl : some r = room := by simpa [exec, hr] using hroom
  apply Contract.Ensures.require
  swap
  · exact fun _ => .inr ⟨.inr rfl, hv⟩
  intro _
  apply quiet_bind hv (by trivial) nil_mem_stages
  intro answered s v _ _ hv
  apply Contract.Ensures.require
  swap
  · exact fun _ => .inr ⟨.inl rfl, hv⟩
  intro _
  cases Runtime.uuid questionId with
  | none => exact .inr ⟨.inr rfl, hv⟩
  | some submittedQuestionId =>
    apply Contract.Ensures.bind (getCurrentQuestion_ensures hv nil_mem_stages)
    swap
    · rintro e v ⟨⟨a, ha⟩, -⟩
      cases ha
    rintro ⟨refreshed, question⟩ v ⟨-, hv⟩
    cases question with
    | none => exact .inr ⟨.inr rfl, hv⟩
    | some question =>
      apply Contract.Ensures.require
      swap
      · exact fun _ => .inr ⟨.inr rfl, hv⟩
      intro _
      apply quiet_bind hv (by trivial) nil_mem_stages
      intro start s v _ _ hv
      apply Contract.Ensures.bind (timeTaken_ensures hv nil_mem_stages question start)
      swap
      · rintro e v ⟨⟨a, ha⟩, -⟩
        cases ha
      rintro time v ⟨-, hv⟩
      apply quiet_bind hv (by trivial) nil_mem_stages
      intro row s v _ _ hv
      apply Contract.Ensures.bind (commitAnswer_ensures hv _ _)
      swap
      · rintro e v (⟨⟨a, ha⟩, -⟩ | ⟨he, hv⟩)
        · cases ha
        · cases he
          exact .inr ⟨.inl rfl, hv⟩
      rintro a v (⟨-, hv⟩ | ⟨ha, -⟩)
      swap
      · cases ha
      apply quiet_bind hv (by trivial) committed_mem_stages
      intro _ s v _ _ hv
      apply quiet_bind hv (by trivial) committed_mem_stages
      intro _ s v _ _ hv
      apply bind hv (by exact id)
      · exact fun _ => returned_mem_stages
      · exact fun _ s v _ _ hv => .inl ⟨⟨_, rfl⟩, hv⟩
      · exact fun e s v he => by cases he

lemma answerRejected_ensures (hw : At roomCode i [] w) (playerId : UUID) {e : Exn}
    (he : e = .alreadyAnsweredError ∨ e = .questionNotActiveError) :
    (contract i call).Ensures i (fun r v => (∃ a, r = .ok a) ∧ At roomCode i [.raised e] v)
      (answerRejected playerId e) w := by
  have hstage := raised_mem_stages he
  rcases he with rfl | rfl
  all_goals
    apply bind hw (by exact id)
    · exact fun _ => hstage
    · exact fun _ s v _ _ hv => sendToPlayer_ensures hv hstage playerId fun _ => rfl
    · exact fun e s v he => by cases he

lemma answerAccepted_ensures (hw : At roomCode i [.committed, .returned] w) (playerId : UUID)
    (answerIds : List String) (result : WSAnswerResult) :
    (contract i call).Ensures i (fun r v => (∃ a, r = .ok a) ∧ marks i v.history ∈ outcomes)
      (answerAccepted roomCode playerId answerIds result) w := by
  apply quiet_bind hw (by trivial) returned_mem_stages
  intro room s v _ _ hv
  have hpublish : (contract i call).Ensures i
      (Through roomCode i [.committed, .returned, .answered])
      (broadcastToRoom roomCode (.playerAnswered playerId) none) v := by
    apply Contract.Ensures.tryCatch (S := Through roomCode i [.committed, .returned, .answered])
    · rw [← bind_pure (await _)]
      apply bind hv (by exact id)
      · exact fun _ => answered_mem_stages
      · exact fun _ s v _ _ hv => ⟨⟨_, rfl⟩, hv⟩
      · exact fun e s v he => by cases he
    · exact fun a v h => h
    · rintro e v ⟨⟨a, ha⟩, -⟩
      cases ha
  apply Contract.Ensures.bind hpublish
  swap
  · rintro e v ⟨⟨a, ha⟩, -⟩
    cases ha
  rintro _ v ⟨-, hv⟩
  have hfeedback : (contract i call).Ensures i
      (Through roomCode i [.committed, .returned, .answered])
        (sendFeedback playerId result room) v :=
    .ite (fun _ => sendToPlayer_ensures hv answered_mem_stages playerId fun _ => rfl) fun _ =>
      ⟨⟨_, rfl⟩, hv⟩
  apply Contract.Ensures.bind hfeedback
  swap
  · rintro e v ⟨⟨a, ha⟩, -⟩
    cases ha
  rintro _ v ⟨-, hv⟩
  have hmarks : marks i v.history ∈ outcomes := by
    rw [hv.marks]
    decide
  cases room.bind (hostAnswerUpdate playerId answerIds result) with
  | none => exact ⟨⟨_, rfl⟩, hmarks⟩
  | some update =>
    apply quiet_bind hv (by trivial) answered_mem_stages
    intro websocket s v _ _ hv
    cases websocket with
    | none =>
      refine ⟨⟨_, rfl⟩, ?_⟩
      rw [hv.marks]
      decide
    | some websocket =>
      apply Contract.Ensures.mono (sendQuietly_ensures hv websocket (.hostAnswerUpdate update)
        updated_mem_stages)
      rintro r v' ⟨hr, hv'⟩
      have hupdated : marks i v'.history = [.committed, .returned, .answered, .updated] := hv'.marks
      refine ⟨hr, ?_⟩
      rw [hupdated]
      decide

lemma handlePlayerMessage_ensures (hw : At roomCode i [] w) (playerId : UUID)
    (data : ClientMessage) :
    (contract i call).Ensures i
      (fun _ v => ∀ questionId answerIds, data = .answer questionId answerIds →
        marks i v.history ∈ outcomes)
      (handlePlayerMessage roomCode playerId data) w := by
  cases data with
  | answer questionId answerIds =>
    have hhandle : (contract i call).Ensures i
        (fun r v => (∃ a, r = .ok a) ∧ marks i v.history ∈ outcomes)
        (handleAnswer roomCode playerId questionId answerIds) w := by
      apply Contract.Ensures.tryCatch (S := fun r v =>
        (∃ a, r = .ok a) ∧ marks i v.history ∈ outcomes ∨
        (r = .error .alreadyAnsweredError ∨ r = .error .questionNotActiveError) ∧
          At roomCode i [] v)
      · apply Contract.Ensures.bind (submitAnswer_ensures hw playerId questionId answerIds)
        · rintro result v (⟨-, hv⟩ | ⟨h | h, -⟩)
          · exact (answerAccepted_ensures hv playerId answerIds result).mono fun r v h => .inl h
          · cases h
          · cases h
        · rintro e v (⟨⟨a, ha⟩, -⟩ | h)
          · cases ha
          · exact .inr (h.imp (Or.imp (congrArg _ <| by simpa using ·) (by simp_all)) id)
      · rintro a v (h | ⟨h | h, -⟩)
        · exact h
        · cases h
        · cases h
      · rintro e v (⟨⟨a, ha⟩, -⟩ | ⟨he, hv⟩)
        · cases ha
        · have he' : e = .alreadyAnsweredError ∨ e = .questionNotActiveError := by simpa using he
          apply Contract.Ensures.mono (answerRejected_ensures hv playerId he')
          rintro r v' ⟨hr, hv'⟩
          refine ⟨hr, ?_⟩
          rw [hv'.marks]
          rcases he' with rfl | rfl <;> decide
    apply Contract.Ensures.tryCatch hhandle
    · rintro a v ⟨-, h⟩ _ _ -
      exact h
    · rintro e v ⟨⟨a, ha⟩, -⟩
      cases ha
  | malformed =>
    apply Contract.Ensures.mono (sendToPlayer_ensures hw nil_mem_stages playerId fun _ => rfl)
    exact fun _ _ _ _ _ h => by cases h
  | startGame | nextQuestion => exact fun _ _ h => by cases h

lemma unmarked_ensures (hc : ∀ room playerId data, call ≠ .playerFrame room playerId data)
    (x : Handler β) : (contract i call).Ensures i (fun _ _ => True) x w := by
  induction x generalizing w with
  | done r => trivial
  | await o k ih =>
    intro w₁ _ _ _
    exact ⟨fun _ => ⟨trivial, ⟨others_perform o, fun r p d h => (hc r p d h).elim⟩, ih _⟩,
      fun e _ => ⟨trivial, ⟨others_fail o e, fun r p d h => (hc r p d h).elim⟩, ih _⟩⟩

lemma ensures_code (hm : marks i w.history = [])
    (hroom : ∀ room playerId data, call = .playerFrame room playerId data →
      (w.state.db.sessions.get? (Runtime.upper room)).isSome) :
    (contract i call).Ensures i (discipline.post i call) (code call) w := by
  cases call with
  | playerFrame room playerId data =>
    apply Contract.Ensures.mono
      (handlePlayerMessage_ensures ⟨hm, hroom room playerId data rfl⟩ playerId data)
    rintro r v h room' playerId' questionId answerIds ⟨⟩
    exact h questionId answerIds rfl
  | _ =>
    apply Contract.Ensures.mono (unmarked_ensures (fun _ _ _ h => by cases h) _)
    exact fun _ _ _ _ _ _ _ h => by cases h

end AnsweredOnce

end

end Askit.Game

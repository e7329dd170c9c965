import Askit.Game.Effects

/-! What the handlers of a room keep while its one host loop is elsewhere. -/

namespace Askit.Game

open Interleaving Machine Coro Tables

section

variable [Runtime]

def announcement (roomCode : String) : Event Op Exn → Option (ℕ × UUID)
  | ⟨_, .publish room ⟨.question q, _⟩, .ok _⟩ =>
    if Runtime.upper room = roomCode then some (q.questionIndex, q.questionId) else none
  | _ => none

def storedOrder (roomCode : String) : Event Op Exn → Option (List UUID)
  | ⟨_, .setQuestions room ids _, .ok _⟩ => if Runtime.upper room = roomCode then some ids else none
  | _ => none

/-- The questions announced to the room, by index and identifier, in the order of their `QUESTION`
broadcasts. -/
def announced (roomCode : String) (w : system.World) : List (ℕ × UUID) :=
  w.history.filterMap (announcement (Runtime.upper roomCode))

def orders (roomCode : String) (w : system.World) : List (List UUID) :=
  w.history.filterMap (storedOrder (Runtime.upper roomCode))

def numbered (order : List UUID) : List (ℕ × UUID) := order.mapIdx fun i id => (i + 1, id)

def Call.Hosts (roomCode : String) : Call → Prop
  | .hostFrames room _ _ => Runtime.upper room = Runtime.upper roomCode
  | _ => False

instance (roomCode : String) : DecidablePred (Call.Hosts roomCode)
  | .hostFrames room _ _ => inferInstanceAs
    (Decidable (Runtime.upper room = Runtime.upper roomCode))
  | .joinRoom .. | .playerFrame .. | .questionTimeout _ | .playerEndpoint .. | .hostEndpoint ..
  | .subscriber _ | .delivery _ => isFalse id

namespace HostLoop

variable (roomCode : String) (quiz : Quiz) (randomize : Bool)

/-- The orders that `start_game` may fix. -/
def Admissible (order : List UUID) : Prop :=
  order.Perm (quiz.questions.map QuizQuestion.questionId) ∧
    (randomize = false → order = (sortByPosition quiz.questions).map QuizQuestion.questionId)

structure Inv (w : system.World) : Prop where
  session : ∃ g, w.state.db.sessions.get? (Runtime.upper roomCode) = some g ∧
    g.quizId = quiz.quizId ∧ g.randomizeQuestions = randomize
  stored : w.state.db.quizzes.table.get? quiz.quizId = some quiz
  valid : (position roomCode w).Valid quiz.questions.length
  unstarted : orders roomCode w = [] → (position roomCode w).index = 0 ∧ announced roomCode w = []
  started : ∀ order ∈ orders roomCode w, orders roomCode w = [order] ∧
    Admissible quiz randomize order ∧ w.state.redis.questions roomCode = some order ∧
    announced roomCode w <+: numbered order
  finished : (position roomCode w).status = .finished →
    (announced roomCode w).length = quiz.questions.length

structure Frame (v w : system.World) : Prop where
  announced : announced roomCode w = announced roomCode v
  orders : orders roomCode w = orders roomCode v
  questions : w.state.redis.questions roomCode = v.state.redis.questions roomCode
  index : (position roomCode w).index = (position roomCode v).index
  status : (position roomCode w).status = (position roomCode v).status ∨
    (position roomCode w).status = .revealing ∧ 1 ≤ (position roomCode v).index

structure Rely (call : Call) (v w : system.World) : Prop where
  index : (position roomCode v).index ≤ (position roomCode w).index
  frame : call.Hosts roomCode → Frame roomCode v w

structure Guar (call : Call) (v w : system.World) : Prop where
  index : (position roomCode w).index = (position roomCode v).index ∨
    (position roomCode w).index = (position roomCode v).index + 1
  frame : ¬call.Hosts roomCode → Frame roomCode v w

variable {roomCode quiz randomize} {call : Call} {i : ℕ} {u v w : system.World}

lemma Frame.refl (w : system.World) : Frame roomCode w w := ⟨rfl, rfl, rfl, rfl, .inl rfl⟩

lemma Frame.trans (h₁ : Frame roomCode u v) (h₂ : Frame roomCode v w) : Frame roomCode u w := by
  refine ⟨h₂.announced.trans h₁.announced, h₂.orders.trans h₁.orders,
    h₂.questions.trans h₁.questions, h₂.index.trans h₁.index, ?_⟩
  rcases h₂.status with h | ⟨h, hi⟩
  · rw [h]
    exact h₁.status
  · exact .inr ⟨h, h₁.index ▸ hi⟩

lemma Rely.of_frame (h : Frame roomCode v w) : Rely roomCode call v w := ⟨h.index.ge, fun _ => h⟩

lemma Guar.of_frame (h : Frame roomCode v w) : Guar roomCode call v w := ⟨.inl h.index, fun _ => h⟩

variable (roomCode quiz randomize) in
def contract (call : Call) : Contract system (Inv roomCode quiz randomize) where
  rely := Rely roomCode call
  guar := Guar roomCode call
  allowed _ _ := True
  faults _ _ := False
  refl w := .of_frame (.refl w)
  trans h₁ h₂ := ⟨h₁.index.trans h₂.index, fun hc => (h₁.frame hc).trans (h₂.frame hc)⟩

variable (roomCode quiz randomize) in
def discipline : Discipline system (Inv roomCode quiz randomize) where
  contract _ := contract roomCode quiz randomize
  post _ _ _ _ := True
  stable _ _ _ := fun _ _ => trivial

lemma faultless : (contract roomCode quiz randomize call).Faultless := fun _ _ => id

section Offstage

variable {β : Type} {o : Op β}

lemma announcement_offstage (ho : o.Within (.offstage roomCode)) (r : Except Exn β) :
    announcement (Runtime.upper roomCode) ⟨i, o, r⟩ = none := by
  cases o with
  | publish room e =>
    obtain ⟨message, excluded⟩ := e
    cases message with
    | question q =>
      cases r with
      | ok a => exact if_neg ho
      | error e => rfl
    | _ => rfl
  | _ => rfl

lemma storedOrder_offstage (ho : o.Within (.offstage roomCode)) (r : Except Exn β) :
    storedOrder (Runtime.upper roomCode) ⟨i, o, r⟩ = none := by
  cases o with
  | setQuestions room ids ex =>
    cases r with
    | ok a => exact if_neg ho
    | error e => rfl
  | _ => rfl

lemma frame_perform (ho : o.Within (.offstage roomCode)) : Frame roomCode w (w.perform i o).2 := by
  have he := offstage_elsewhere ho
  have hp : position roomCode (w.perform i o).2 = position roomCode w :=
    exec_position_elsewhere he w.state
  refine ⟨?_, ?_, exec_questions_elsewhere he w.state, congrArg Position.index hp,
    .inl (congrArg Position.status hp)⟩
  · simp [announced, announcement_offstage ho]
  · simp [orders, storedOrder_offstage ho]

lemma Inv.perform (h : Inv roomCode quiz randomize w) (ho : o.Within (.offstage roomCode)) :
    Inv roomCode quiz randomize (w.perform i o).2 := by
  have he := offstage_elsewhere ho
  have hp : position roomCode (w.perform i o).2 = position roomCode w :=
    exec_position_elsewhere he w.state
  have hf : Frame roomCode w (w.perform i o).2 := frame_perform ho
  obtain ⟨g, hg, hq⟩ := h.session
  refine ⟨⟨g, (exec_session_elsewhere he w.state).trans hg, hq⟩,
    (congrArg (fun q => q.table.get? quiz.quizId) (exec_quizzes o w.state)).trans h.stored,
    hp ▸ h.valid, ?_, ?_, ?_⟩
  · rw [hf.orders, hf.announced, hp]
    exact h.unstarted
  · rw [hf.orders, hf.announced, hf.questions]
    exact h.started
  · rw [hf.announced, hp]
    exact h.finished

lemma silent (ho : o.Within (.offstage roomCode)) :
    (contract roomCode quiz randomize call).Silent i (fun _ => True) o :=
  fun _ hi _ _ => ⟨hi.perform ho, .of_frame (frame_perform ho), .of_frame (frame_perform ho)⟩

lemma ensures_offstage {α : Type} {x : Handler α} (hx : Keeps (.offstage roomCode) x) :
    (contract roomCode quiz randomize call).Ensures i (fun _ v => Rely roomCode call w v) x w :=
  .silent faultless (fun _ _ => trivial) (fun _ => silent) hx trivial

end Offstage

section Rules

variable {α β γ : Type} {Q : Except Exn β → system.World → Prop}

lemma read_bind {o : Op γ} {f : γ → Handler β} (ho : o.Within .silent)
    (hok : ∀ s, ∃ a, (exec o s).1 = .ok a)
    (hf : ∀ v a s, Rely roomCode call w v → Inv roomCode quiz randomize v →
      exec o s = (.ok a, v.state) → (contract roomCode quiz randomize call).Ensures i Q (f a) v) :
    (contract roomCode quiz randomize call).Ensures i Q (await o >>= f) w := by
  apply Contract.Ensures.silent_bind faultless (fun _ _ => trivial)
    (silent (silent_offstage ho roomCode)) trivial hf
  intro e v s _ hx
  obtain ⟨a, ha⟩ := hok s
  have hx' : exec o s = (.error e, v.state) := hx
  rw [hx'] at ha
  cases ha

lemma getRoom_bind {room : String} (hu : Runtime.upper room = Runtime.upper roomCode)
    {f : Option Room → Handler β}
    (hf : ∀ v g players, Rely roomCode call w v → Inv roomCode quiz randomize v →
      v.state.db.sessions.get? (Runtime.upper roomCode) = some g →
      g.randomizeQuestions = randomize →
      (contract roomCode quiz randomize call).Ensures i Q (f (some ⟨g, players, quiz.loaded⟩)) v) :
    (contract roomCode quiz randomize call).Ensures i Q (await (.getRoom room) >>= f) w := by
  refine read_bind trivial (fun _ => ⟨_, rfl⟩) fun v a s hr hi hx => ?_
  obtain ⟨g, hg, hq, hrand⟩ := hi.session
  have hroom := room?_eq hg (hq ▸ hi.stored)
  obtain ⟨ha, rfl⟩ := Prod.mk.inj hx
  rw [hu, hroom] at ha
  obtain rfl := Except.ok.inj ha
  exact hf v g _ hr hi hg hrand

structure Fits (roomCode : String) (quiz : Quiz) (call : Call) (s : Dirty GameSession)
    (row : GameSession) (w : system.World) : Prop where
  valid : (GameSession.flush s row).position.Valid quiz.questions.length
  index : (GameSession.flush s row).position.index = row.position.index ∨
    (GameSession.flush s row).position.index = row.position.index + 1
  unstarted : orders roomCode w = [] → (GameSession.flush s row).position.index = 0
  finished : (GameSession.flush s row).position.status = .finished →
    (announced roomCode w).length = quiz.questions.length
  frame : ¬call.Hosts roomCode →
    (GameSession.flush s row).position.index = row.position.index ∧
      ((GameSession.flush s row).position.status = row.position.status ∨
        (GameSession.flush s row).position.status = .revealing ∧ 1 ≤ row.position.index)

lemma commit_ensures {s : Dirty GameSession} {Q : Except Exn Unit → system.World → Prop}
    (hk : s.loaded.roomCode = Runtime.upper roomCode)
    (h : ∀ v row, Rely roomCode call w v → Inv roomCode quiz randomize v →
      v.state.db.sessions.get? (Runtime.upper roomCode) = some row →
      Fits roomCode quiz call s row v ∧ ∀ v',
        position roomCode v' = (GameSession.flush s row).position →
        announced roomCode v' = announced roomCode v → orders roomCode v' = orders roomCode v →
        Q (.ok ()) v') :
    (contract roomCode quiz randomize call).Ensures i Q
    (await (.commit { session := some s })) w := by
  apply Contract.Ensures.perform faultless
  intro v hr hi _ _
  obtain ⟨row, hrow, hq⟩ := hi.session
  obtain ⟨hfit, hpost⟩ := h v row hr hi hrow
  set v' := (v.perform i (.commit { session := some s })).2 with hv'
  have hrow' : v'.state.db.sessions.get? (Runtime.upper roomCode) =
      some (GameSession.flush s row) := hk ▸ flushSession_get? (hk.symm ▸ hrow)
  have hp : position roomCode v = row.position := position_eq hrow
  have hp' : position roomCode v' = (GameSession.flush s row).position := position_eq hrow'
  have ha : announced roomCode v' = announced roomCode v := by simp [announced, hv', announcement]
  have ho : orders roomCode v' = orders roomCode v := by simp [orders, hv', storedOrder]
  refine ⟨⟨⟨_, hrow', hq⟩, hi.stored, hp' ▸ hfit.valid, ?_, ?_, ?_⟩, ⟨?_, fun hc => ?_⟩,
    hpost v' hp' ha ho⟩
  · intro hn
    rw [ho] at hn
    exact ⟨hp' ▸ hfit.unstarted hn, ha ▸ (hi.unstarted hn).2⟩
  · rw [ha, ho]
    exact hi.started
  · rw [hp', ha]
    exact hfit.finished
  · rw [hp, hp']
    exact hfit.index
  · obtain ⟨hidx, hst⟩ := hfit.frame hc
    exact ⟨ha, ho, rfl, by rw [hp, hp', hidx], by rwa [hp, hp']⟩

lemma closeQuestion_ensures {g : GameSession} (hk : g.roomCode = Runtime.upper roomCode)
    (hidx : 1 ≤ (position roomCode w).index) {Q : Except Exn Unit → system.World → Prop}
    (hQ : ∀ v v', Rely roomCode call w v → (position roomCode v').index =
      (position roomCode v).index →
      (position roomCode v').status ≠ .waiting → announced roomCode v' = announced roomCode v →
      orders roomCode v' = orders roomCode v → Q (.ok ()) v') :
    (contract roomCode quiz randomize call).Ensures i Q (closeQuestion g) w := by
  apply commit_ensures hk
  intro v row hr hi hrow
  have hp : position roomCode v = row.position := position_eq hrow
  have hrow1 : 1 ≤ row.position.index := hp ▸ hidx.trans hr.index
  have hvalid : row.position.Valid quiz.questions.length := hp ▸ hi.valid
  have hf := flush_status_or g row .revealing g.endedAt
  have hle : row.position.index ≤ quiz.questions.length := hvalid.index_le
  constructor
  · rcases hf with hf | hf
    · refine ⟨hf ▸ hvalid, .inl (by rw [hf]), fun hn => ?_, fun hfin => hi.finished ?_,
        fun _ => ⟨by rw [hf], .inl (by rw [hf])⟩⟩
      · rw [hf, ← hp]
        exact (hi.unstarted hn).1
      · rw [hp, ← hf]
        exact hfin
    · refine ⟨hf ▸ ⟨hrow1, hle⟩, .inl (by rw [hf]), fun hn => ?_, fun hfin => ?_,
        fun _ => ⟨by rw [hf], .inr ⟨by rw [hf], hrow1⟩⟩⟩
      · have := (hi.unstarted hn).1
        rw [hp] at this
        omega
      · rw [hf] at hfin
        cases hfin
  · intro v' hp' ha ho
    refine hQ v v' hr ?_ ?_ ha ho
    · rcases hf with hf | hf <;> rw [hp', hf, hp]
    · rcases hf with hf | hf
      · rw [hp', hf]
        intro hw
        have := hvalid.waiting hw
        rw [this] at hrow1
        exact absurd hrow1 (by decide)
      · rw [hp', hf]
        exact nofun

lemma questionTimeout_ensures {timer : Timer}
    (hu : Runtime.upper timer.roomCode = Runtime.upper roomCode) :
    (contract roomCode quiz randomize call).Ensures i (fun _ _ => True)
      (questionTimeout timer.roomCode timer.questionIndex timer.timeLimitMs) w := by
  refine read_bind trivial (fun _ => ⟨_, rfl⟩) fun v _ _ _ _ _ => ?_
  apply getRoom_bind hu
  intro v₁ g players _ hi₁ hg _
  refine .ite (fun _ => trivial) fun _ => .ite (fun _ => trivial) fun hst => ?_
  have hp : position roomCode v₁ = ⟨.question, g.currentQuestionIndex⟩ :=
    (position_eq hg).trans (congrArg (Position.mk · _) (not_not.mp hst))
  have hidx : 1 ≤ (position roomCode v₁).index := by
    have := hi₁.valid
    rw [hp] at this ⊢
    exact this.1
  refine .bind (S := fun _ _ => True) (closeQuestion_ensures (Table.key_get? hg) hidx
    fun _ _ _ _ _ _ _ => trivial) (fun _ v₂ _ => ?_) fun _ _ _ => trivial
  refine .mono (ensures_offstage (All.mono ?_ fun _ ho => silent_offstage ho roomCode))
    fun _ _ _ => trivial
  exact All.bind (getCurrentQuestion_keeps _) fun ⟨_, question⟩ => by
    cases question with
    | none => trivial
    | some question =>
      exact All.bind (buildQuestionEnded_keeps _ _ _) fun ⟨_, _⟩ =>
        broadcastToRoom_keeps _ (by trivial) none

end Rules

end HostLoop

end

end Askit.Game

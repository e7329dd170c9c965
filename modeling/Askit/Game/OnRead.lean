import Askit.Game.StartedOnce

/-! A submission that commits on what it has read of its room. -/

namespace Askit.Game

open Interleaving Machine Coro Tables

section

variable [Runtime]

def reading (i : ℕ) : Event Op Exn → Option Room
  | ⟨j, .getRoom _, .ok (some room)⟩ => if j = i then some room else none
  | _ => none

def committing : Event Op Exn → Option Changes
  | ⟨_, .commit changes, _⟩ => some changes
  | _ => none

def readings (i : ℕ) (history : List (Event Op Exn)) : List Room := history.filterMap (reading i)

def StillRead (i : ℕ) (history : List (Event Op Exn)) (row : GameSession) : Prop :=
  (readings i history).head?.map (·.session.status) = some row.status ∧
    (readings i history).getLast?.map (·.session.currentQuestionIndex) = some
      row.currentQuestionIndex

def Op.OnRead (roomCode : String) (i : ℕ) (w : system.World) : {β : Type} → Op β → Prop
  | _, .commit changes => ∀ a ∈ changes.newAnswer,
      ∀ row ∈ w.state.db.sessions.get? (Runtime.upper roomCode), StillRead i w.history row
  | _, _ => True

instance (i : ℕ) (history : List (Event Op Exn)) (row : GameSession) :
    Decidable (StillRead i history row) :=
  inferInstanceAs (Decidable (_ ∧ _))

instance (roomCode : String) (i : ℕ) (w : system.World) {β : Type} (o : Op β) :
    Decidable (o.OnRead roomCode i w) := by
  induction o using Op.casesOn with
  | commit changes =>
    exact inferInstanceAs (Decidable (∀ a ∈ changes.newAnswer,
      ∀ row ∈ w.state.db.sessions.get? (Runtime.upper roomCode), StillRead i w.history row))
  | _ => exact isTrue trivial

def CommitsOnRead (roomCode : String) (c : system.Config) (i : ℕ) : Option Call → Prop
  | some (.playerFrame room _ _) => Runtime.upper room = Runtime.upper roomCode →
      Awaits (Op.OnRead roomCode i c.world) c.procs[i]?
  | _ => True

instance (roomCode : String) (c : system.Config) (i : ℕ) :
    DecidablePred (CommitsOnRead roomCode c i)
  | some (.playerFrame room _ _) =>
    inferInstanceAs (Decidable (Runtime.upper room = Runtime.upper roomCode →
      Awaits (Op.OnRead roomCode i c.world) c.procs[i]?))
  | none | some (.joinRoom ..) | some (.hostFrames ..) | some (.questionTimeout _)
  | some (.playerEndpoint ..) | some (.hostEndpoint ..) | some (.subscriber _) | some
      (.delivery _) =>
    isTrue trivial

/-- No submission to the room commits to a session that has changed since it has read it. -/
def AnswersOnRead (roomCode : String) : system.Transition → Prop
  | ⟨c, .run i⟩ => CommitsOnRead roomCode c i c.calls[i]?
  | _ => True

instance (roomCode : String) : DecidablePred (AnswersOnRead roomCode)
  | ⟨c, .run i⟩ => inferInstanceAs (Decidable (CommitsOnRead roomCode c i c.calls[i]?))
  | ⟨_, .spawn _⟩ | ⟨_, .fault _ _⟩ | ⟨_, .env _⟩ => isTrue trivial

lemma AnswersOnRead.onRead {roomCode room : String} {playerId : UUID} {data : ClientMessage}
    {t : system.Transition} (h : AnswersOnRead roomCode t) {i : ℕ} {β : Type} {o : Op β}
    {k : Except Exn β → Handler Unit} (hact : t.act = .run i)
    (hp : t.before.procs[i]? = some ⟨.playerFrame room playerId data, .await o k⟩)
    (hu : Runtime.upper room = Runtime.upper roomCode) : o.OnRead roomCode i t.before.world := by
  obtain ⟨c, a⟩ := t
  obtain rfl : a = .run i := hact
  have hc : (c.calls[i]? : Option Call) = some (.playerFrame room playerId data) :=
    getElem?_calls hp
  have h : CommitsOnRead roomCode c i (some (.playerFrame room playerId data)) := hc ▸ h
  exact Awaits.pending (h hu) hp

/-- A frame of a player of the room commits the record `a`. -/
def RecordsAnswer (roomCode : String) (t : system.Transition) (a : GamePlayerAnswer) : Prop :=
  ∃ i room playerId data changes e, Commits t i (.playerFrame room playerId data) changes e ∧
    Runtime.upper room = Runtime.upper roomCode ∧ changes.newAnswer = some a

/-- Every record is committed while its question is being asked, and none is once the question has
been closed. -/
structure AnswersInTime (roomCode : String) (ts : List system.Transition) : Prop where
  asked : ∀ t ∈ ts, ∀ a, RecordsAnswer roomCode t a → ∃ k ids,
    position roomCode t.before.world = ⟨.question, k⟩ ∧ k ≠ 0 ∧
      (State.redis t.before.world.state).questions roomCode = some ids ∧
      ids[k - 1]? = some a.questionId
  closed : ts.Pairwise fun t u => ∀ k ids a,
    position roomCode t.after.world = ⟨.revealing, k⟩ →
      (State.redis t.after.world.state).questions roomCode = some ids →
        RecordsAnswer roomCode u a → ids[k - 1]? ≠ some a.questionId

namespace InTime

def Asked (roomCode room : String) (w : system.World) (a : GamePlayerAnswer) : Prop :=
  ∃ k ids, position roomCode w = ⟨.question, k⟩ ∧ k ≠ 0 ∧ w.state.redis.questions room = some ids ∧
    ids[k - 1]? = some a.questionId

variable (roomCode : String)

structure Persists (v w : system.World) : Prop where
  order : ∀ room ids, Runtime.upper room = Runtime.upper roomCode →
    v.state.redis.questions room = some ids → w.state.redis.questions room = some ids
  room : (v.state.db.sessions.get? (Runtime.upper roomCode)).isSome →
    (w.state.db.sessions.get? (Runtime.upper roomCode)).isSome

structure Rely (i : ℕ) (v w : system.World) : Prop extends Persists roomCode v w where
  readings : readings i w.history = readings i v.history

structure Guar (i : ℕ) (call : Call) (v w : system.World) : Prop extends Persists roomCode v w where
  history : ∃ ev, ev.pid = i ∧ w.history = v.history ++ [ev] ∧
    ∀ room playerId data changes a, call = .playerFrame room playerId data →
      Runtime.upper room = Runtime.upper roomCode → committing ev = some changes →
      changes.newAnswer = some a → Asked roomCode room v a

def Unstored (w : system.World) : {β : Type} → Op β → Prop
  | _, .setQuestions room _ _ => Runtime.upper room = Runtime.upper roomCode →
      ∀ room', Runtime.upper room' = Runtime.upper roomCode → w.state.redis.questions room' = none
  | _, _ => True

def contract (i : ℕ) (call : Call) : Contract system fun _ => True where
  rely := Rely roomCode i
  guar := Guar roomCode i call
  allowed o w := Unstored roomCode w o ∧ ∀ room playerId data, call =
    .playerFrame room playerId data →
    Runtime.upper room = Runtime.upper roomCode → o.OnRead roomCode i w
  faults _ _ := False
  refl _ := ⟨⟨fun _ _ _ => id, id⟩, rfl⟩
  trans h₁ h₂ := ⟨⟨fun r ids hu h => h₂.order r ids hu (h₁.order r ids hu h), fun h =>
    h₂.room (h₁.room h)⟩, h₂.readings.trans h₁.readings⟩

def discipline : Discipline system fun _ => True where
  contract := contract roomCode
  post _ _ _ _ := True
  stable _ _ _ := fun _ _ => trivial

variable {roomCode room : String} {i : ℕ} {call : Call} {v w : system.World} {β γ : Type}

lemma faultless : (contract roomCode i call).Faultless := fun _ _ => id

lemma Persists.trans {u : system.World} (h₁ : Persists roomCode u v) (h₂ : Persists roomCode v w) :
    Persists roomCode u w :=
  ⟨fun r ids hu h => h₂.order r ids hu (h₁.order r ids hu h), fun h => h₂.room (h₁.room h)⟩

omit [Runtime] in
lemma readings_append (history : List (Event Op Exn)) (ev : Event Op Exn) :
    readings i (history ++ [ev]) = readings i history ++ (reading i ev).toList := by
  cases h : reading i ev <;> simp [readings, h]

omit [Runtime] in
lemma reading_of_ne {ev : Event Op Exn} (h : ev.pid ≠ i) : reading i ev = none := by
  obtain ⟨j, o, r⟩ := ev
  cases o with
  | getRoom roomCode =>
    rcases r with e | _ | room
    · rfl
    · rfl
    · exact if_neg h
  | _ => rfl

lemma Guar.rely (h : Guar roomCode i call v w) {j : ℕ} (hj : i ≠ j) : Rely roomCode j v w := by
  refine ⟨h.toPersists, ?_⟩
  obtain ⟨ev, hi, hw, -⟩ := h.history
  rw [hw, readings_append, reading_of_ne (hi.trans_ne hj), Option.toList_none, List.append_nil]

lemma persists_perform {o : Op β} (ho : Unstored roomCode w o) :
    Persists roomCode w (w.perform i o).2 := by
  refine ⟨fun room ids hu h => ?_, exec_sessions_isSome o⟩
  cases hc : storesOrder (Runtime.upper room) o with
  | false => exact (exec_questions hc).trans h
  | true =>
    cases o with
    | setQuestions room' ids' ex =>
      have hu' : Runtime.upper room' = Runtime.upper room := of_decide_eq_true hc
      rw [ho (hu'.trans hu) room hu] at h
      cases h
    | _ => cases hc

lemma guar_perform {o : Op β} (ho : Unstored roomCode w o)
    (hno : ∀ room playerId data changes a, call = .playerFrame room playerId data →
      Runtime.upper room = Runtime.upper roomCode →
      committing ⟨i, o, (exec o w.state).1⟩ = some changes → changes.newAnswer = some a →
      Asked roomCode room w a) :
    Guar roomCode i call w (w.perform i o).2 :=
  ⟨persists_perform ho, _, rfl, rfl, hno⟩

lemma ensures_elsewhere (hc : ∀ room playerId data, call = .playerFrame room playerId data →
      Runtime.upper room ≠ Runtime.upper roomCode) (x : Handler β) :
    (contract roomCode i call).Ensures i (fun _ _ => True) x w := by
  induction x generalizing w with
  | done r => trivial
  | await o k ih =>
    apply Contract.Ensures.await faultless
    intro w₁ _ _ ha _
    exact ⟨trivial, guar_perform ha.1 fun room p d _ _ h hu => (hc room p d h hu).elim, ih _⟩

structure At (roomCode : String) (i : ℕ) (rs : List Room) (w : system.World) : Prop where
  readings : readings i w.history = rs
  room : (w.state.db.sessions.get? (Runtime.upper roomCode)).isSome

lemma At.rely {rs : List Room} (h : At roomCode i rs v) (hr : Rely roomCode i v w) :
    At roomCode i rs w :=
  ⟨hr.readings.trans h.readings, hr.room h.room⟩

omit [Runtime] in
lemma committing_silent {o : Op β} (ho : o.Within .silent) (r : Except Exn β) :
    committing ⟨i, o, r⟩ = none := by
  cases o <;> first | rfl | exact ho.elim

lemma silent_bind {rs : List Room} {o : Op γ} {f : γ → Handler β}
    {Q : Except Exn β → system.World → Prop} (ho : o.Within .silent) (hw : At roomCode i rs w)
    (hf : ∀ a v s, Persists roomCode w v → exec o s = (.ok a, v.state) →
      At roomCode i (rs ++ (reading i ⟨i, o, .ok a⟩).toList) v →
      (contract roomCode i call).Ensures i Q (f a) v)
    (he : ∀ e v, Q (.error e) v) :
    (contract roomCode i call).Ensures i Q (Coro.perform o >>= f) w := by
  apply Contract.Ensures.perform_bind faultless
  intro v hr _ ha _
  refine ⟨trivial, guar_perform ha.1 ?_, fun a hx => ?_, fun e _ => he e _⟩
  · intro room p d changes a _ _ hev
    rw [committing_silent ho] at hev
    cases hev
  · have hat := hw.rely hr
    have hp := persists_perform (i := i) ha.1
    apply hf a _ v.state (hr.toPersists.trans hp) (Prod.ext hx rfl)
    refine ⟨?_, hp.room hat.room⟩
    rw [World.perform_history, readings_append, hat.readings,
      show (system.exec o v.state).1 = _ from hx]

lemma silent_ensures {α : Type} {x : Handler α} (hx : Keeps .silent x) :
    (contract roomCode i call).Ensures i (fun _ _ => True) x w := by
  induction x generalizing w with
  | done r => trivial
  | await o k ih =>
    apply Contract.Ensures.await faultless
    intro v _ _ ha _
    refine ⟨trivial, guar_perform ha.1 ?_, ?_⟩
    · intro room p d changes a _ _ hev
      rw [committing_silent hx.1] at hev
      cases hev
    · apply ih
      cases hr : (v.perform i o).1 with
      | ok a => exact hx.2.1 a ⟨v.state, hr⟩
      | error e => exact hx.2.2 e

/-- The question that the last reading of the room points at. -/
def Current (roomCode room : String) (i : ℕ) (first : Room) (question : QuizQuestion)
    (w : system.World) : Prop :=
  ∃ rs k ids, At roomCode i rs w ∧ rs.head? = some first ∧
    rs.getLast?.map (·.session.currentQuestionIndex) = some k ∧ k ≠ 0 ∧
    w.state.redis.questions room = some ids ∧ ids[k - 1]? = some question.questionId

lemma getCurrentQuestion_ensures (hu : Runtime.upper room = Runtime.upper roomCode) {rs : List Room}
    {first : Room} (hfirst : rs.head? = some first) (hw : At roomCode i rs w) :
    (contract roomCode i call).Ensures i
      (fun r v => ∀ refreshed question, r = .ok (refreshed, some question) →
        Current roomCode room i first question v)
      (getCurrentQuestion room) w := by
  apply silent_bind (by trivial) hw
  swap
  · exact fun e v _ _ h => by cases h
  intro r v s _ _ hv
  cases r with
  | none => exact fun _ _ h => by cases h
  | some r =>
    have hv : At roomCode i (rs ++ [r]) v := by simpa [reading] using hv
    apply Contract.Ensures.ite
    · exact fun _ _ _ h => by cases h
    · intro hk
      apply silent_bind (by trivial) hv
      swap
      · exact fun e v _ _ h => by cases h
      intro ids v s _ hx hv
      cases ids with
      | none => exact fun _ _ h => by cases h
      | some ids =>
        have hids : v.state.redis.questions room = some ids := by
          obtain ⟨h, hs⟩ := Prod.mk.inj hx
          exact hs ▸ Except.ok.inj h
        dsimp only
        split
        case h_1 questionId hid =>
          apply silent_bind (by trivial) hv
          swap
          · exact fun e v _ _ h => by cases h
          rintro question v s hp hx hv refreshed q ⟨⟩
          have hq : s.db.question? questionId = some q := by
            obtain ⟨h, -⟩ := Prod.mk.inj hx
            exact Except.ok.inj h
          have hqid : q.questionId = questionId := by simpa using List.find?_some hq
          refine ⟨rs ++ [r], r.session.currentQuestionIndex, ids, by
            simpa [reading] using hv, ?_, ?_, hk, hp.order room ids hu hids, hqid ▸ hid⟩
          · simp [hfirst]
          · simp
        · exact fun _ _ h => by cases h

lemma Current.rely {first : Room} {question : QuizQuestion}
    (hu : Runtime.upper room = Runtime.upper roomCode)
    (h : Current roomCode room i first question v) (hr : Rely roomCode i v w) :
    Current roomCode room i first question w := by
  obtain ⟨rs, k, ids, hat, hfirst, hlast, hk, hids, hq⟩ := h
  exact ⟨rs, k, ids, hat.rely hr, hfirst, hlast, hk, hr.order room ids hu hids, hq⟩

lemma Current.asked {first : Room} {question : QuizQuestion} {a : GamePlayerAnswer}
    (h : Current roomCode room i first question w) (hs : first.session.status = .question)
    (ha : a.questionId = question.questionId)
    (hread : ∀ row ∈ w.state.db.sessions.get? (Runtime.upper roomCode), StillRead i w.history row) :
    Asked roomCode room w a := by
  obtain ⟨rs, k, ids, hat, hfirst, hlast, hk, hids, hq⟩ := h
  obtain ⟨row, hrow⟩ := Option.isSome_iff_exists.mp hat.room
  obtain ⟨hstatus, hindex⟩ := hread row hrow
  rw [hat.readings, hfirst, Option.map_some, hs, Option.some.injEq] at hstatus
  rw [hat.readings, hlast, Option.some.injEq] at hindex
  refine ⟨k, ids, ?_, hk, hids, ha ▸ hq⟩
  rw [position_eq hrow, GameSession.position, ← hstatus, ← hindex]

lemma Current.silent_bind {first : Room} {question : QuizQuestion} {o : Op γ} {f : γ → Handler β}
    {Q : Except Exn β → system.World → Prop} (hu : Runtime.upper room = Runtime.upper roomCode)
    (h : Current roomCode room i first question w) (ho : o.Within .silent)
    (hread : ∀ r, reading i ⟨i, o, r⟩ = none)
    (hf : ∀ a v, Current roomCode room i first question v →
      (contract roomCode i call).Ensures i Q (f a) v)
    (he : ∀ e v, Q (.error e) v) :
    (contract roomCode i call).Ensures i Q (Coro.perform o >>= f) w := by
  obtain ⟨rs, k, ids, hat, hfirst, hlast, hk, hids, hq⟩ := h
  refine InTime.silent_bind ho hat (fun a v s hp _ hv => hf a v ?_) he
  rw [hread, Option.toList_none, List.append_nil] at hv
  exact ⟨rs, k, ids, hv, hfirst, hlast, hk, hp.order room ids hu hids, hq⟩

lemma timeTaken_ensures {first : Room} {question : QuizQuestion}
    (hu : Runtime.upper room = Runtime.upper roomCode)
    (h : Current roomCode room i first question w) (start : Option Time) :
    (contract roomCode i call).Ensures i
      (fun r v => ∀ a, r = .ok a → Current roomCode room i first question v)
      (timeTaken question start) w := by
  cases start with
  | none => exact fun _ _ => h
  | some start =>
    apply h.silent_bind hu (by trivial) (fun _ => rfl)
    · exact fun _ v hv _ _ => hv
    · exact fun e v a h => by cases h

lemma commitAnswer_ensures {playerId : UUID} {data : ClientMessage} {first : Room}
    {question : QuizQuestion} (hu : Runtime.upper room = Runtime.upper roomCode)
    (h : Current roomCode room i first question w) (hs : first.session.status = .question)
    (player : Option GamePlayer) {record : GamePlayerAnswer}
    (hq : record.questionId = question.questionId) :
    (contract roomCode i (.playerFrame room playerId data)).Ensures i (fun _ _ => True)
      (commitAnswer player record) w := by
  apply Contract.Ensures.tryCatch (S := fun _ _ => True)
  · apply Contract.Ensures.perform faultless
    intro v hr _ ha _
    refine ⟨trivial, guar_perform ha.1 ?_, trivial⟩
    rintro room' p d changes a ⟨⟩ _ ⟨⟩ ⟨⟩
    have hread := ha.2 room playerId data rfl hu
    exact (h.rely hu hr).asked hs hq (hread record rfl)
  · exact fun _ _ _ => trivial
  · intro e v _
    apply silent_ensures
    exact All.ite (fun _ => All.perform_bind (by trivial) fun _ _ => trivial) fun _ => trivial

lemma submitAnswer_ensures {playerId : UUID} {data : ClientMessage}
    (hu : Runtime.upper room = Runtime.upper roomCode) (hw : At roomCode i [] w)
    (questionId : String) (answerIds : List String) :
    (contract roomCode i (.playerFrame room playerId data)).Ensures i (fun _ _ => True)
      (submitAnswer room playerId questionId answerIds) w := by
  apply silent_bind (by trivial) hw
  swap
  · exact fun _ _ => trivial
  intro first v s _ _ hv
  cases first with
  | none => trivial
  | some first =>
    have hv : At roomCode i [first] v := by simpa [reading] using hv
    apply Contract.Ensures.require
    swap
    · exact fun _ => trivial
    intro hs
    apply silent_bind (by trivial) hv
    swap
    · exact fun _ _ => trivial
    intro answered v s _ _ hv
    have hv : At roomCode i [first] v := by simpa [reading] using hv
    apply Contract.Ensures.require
    swap
    · exact fun _ => trivial
    intro _
    cases Runtime.uuid questionId with
    | none => trivial
    | some submittedQuestionId =>
      apply Contract.Ensures.bind (getCurrentQuestion_ensures hu rfl hv)
      swap
      · exact fun _ _ _ => trivial
      rintro ⟨refreshed, question⟩ v hcurrent
      cases question with
      | none => trivial
      | some question =>
        have hcurrent := hcurrent refreshed question rfl
        apply Contract.Ensures.require
        swap
        · exact fun _ => trivial
        intro hq
        apply hcurrent.silent_bind hu (by trivial) (fun _ => rfl)
        swap
        · exact fun _ _ => trivial
        intro start v hcurrent
        apply Contract.Ensures.bind (timeTaken_ensures hu hcurrent start)
        swap
        · exact fun _ _ _ => trivial
        intro time v hcurrent
        have hcurrent := hcurrent time rfl
        apply hcurrent.silent_bind hu (by trivial) (fun _ => rfl)
        swap
        · exact fun _ _ => trivial
        intro row v hcurrent
        apply Contract.Ensures.bind (commitAnswer_ensures hu hcurrent hs _ hq.symm)
        swap
        · exact fun _ _ _ => trivial
        intro _ v _
        apply silent_ensures
        exact All.perform_bind (by trivial) fun _ _ => All.perform_bind (by trivial) fun _ _ =>
          All.perform_bind (by trivial) fun _ _ => trivial

lemma handlePlayerMessage_ensures {playerId : UUID} {data : ClientMessage}
    (hu : Runtime.upper room = Runtime.upper roomCode) (hw : At roomCode i [] w) :
    (contract roomCode i (.playerFrame room playerId data)).Ensures i (fun _ _ => True)
      (handlePlayerMessage room playerId data) w := by
  apply Contract.Ensures.tryCatch (S := fun _ _ => True)
  · cases data with
    | answer questionId answerIds =>
      apply Contract.Ensures.tryCatch (S := fun _ _ => True)
      · apply Contract.Ensures.bind (submitAnswer_ensures hu hw questionId answerIds)
        · exact fun result v _ => silent_ensures
            (answerAccepted_keeps room playerId answerIds result)
        · exact fun _ _ _ => trivial
      · exact fun _ _ _ => trivial
      · exact fun e v _ => silent_ensures (answerRejected_keeps playerId e)
    | startGame | nextQuestion | malformed => trivial
  · exact fun _ _ _ => trivial
  · exact fun e v _ => silent_ensures (sendToPlayer_keeps _ _)

lemma ensures_code (hw : readings i w.history = [])
    (hroom : ∀ room playerId data, call = .playerFrame room playerId data →
      (w.state.db.sessions.get? (Runtime.upper room)).isSome) :
    (contract roomCode i call).Ensures i (fun _ _ => True) (code call) w := by
  by_cases hc : ∃ room playerId data, call = .playerFrame room playerId data ∧
      Runtime.upper room = Runtime.upper roomCode
  · obtain ⟨room, playerId, data, rfl, hu⟩ := hc
    exact handlePlayerMessage_ensures hu ⟨hw, hu ▸ hroom room playerId data rfl⟩
  · apply ensures_elsewhere
    exact fun room playerId data h hu => hc ⟨room, playerId, data, h, hu⟩

end InTime

end

end Askit.Game

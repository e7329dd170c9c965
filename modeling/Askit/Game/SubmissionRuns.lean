import Askit.Game.Judged

/-! A submission among others ends as it is judged. -/

namespace Askit.Game

open Interleaving Machine Coro Tables

section

variable [Runtime]

namespace Submissions

variable {p : UUID} {s t u : State}

section Contract

variable (s : State) (players : List UUID)

def Inv (w : submissions.World) : Prop := ∀ p ∉ players, Own p s w.state

def contract (i : ℕ) (c : Submission) : Contract submissions (Inv s players) where
  rely v w := Own c.playerId v.state w.state ∧ own i w.history = own i v.history
  guar v w := (∀ p ≠ c.playerId, Own p v.state w.state) ∧ ∀ j ≠ i, own j w.history = own j v.history
  allowed _ _ := True
  faults _ _ := False
  refl _ := ⟨Own.refl _, rfl⟩
  trans h h' := ⟨h.1.trans h'.1, h'.2.trans h.2⟩

def discipline : Discipline submissions (Inv s players) where
  contract := contract s players
  post i c r w := Ended s c (clockReadings i w.history) r w.state
  stable i c r := fun h hr => ended_of_own (by rwa [clockReadings, hr.2]) hr.1

variable {s players} {i : ℕ} {c : Submission} {α β γ : Type}
    {Q : Except Exn β → submissions.World → Prop}
variable {w : submissions.World} {readings : List Time}

lemma faultless : (contract s players i c).Faultless := fun _ _ => id

/-- The state is as `A` says, and the submission has read the clock so. -/
structure At (A : State → Prop) (i : ℕ) (readings : List Time) (w : submissions.World) : Prop where
  state : A w.state
  clock : clockReadings i w.history = readings

lemma At.rely {A : State → Prop} (hA : ∀ t u, A t → Own c.playerId t u → A u)
    (h : At A i readings w) {v : submissions.World} (hr : (contract s players i c).rely w v) :
    At A i readings v :=
  ⟨hA _ _ h.state hr.1, by rw [← h.clock, clockReadings, hr.2, clockReadings]⟩

omit [Runtime] in
lemma clockReadings_append (history : List (Event Op Exn)) (o : Op α) (r : Except Exn α) :
    clockReadings i (history ++ [⟨i, o, r⟩]) =
      clockReadings i history ++ (clockReading ⟨i, o, r⟩).toList := by
  rw [clockReadings, own_append_self, List.filterMap_append]
  cases h : clockReading ⟨i, o, r⟩ <;> simp [clockReadings, h]

lemma read_bind {A : State → Prop} (hA : ∀ t u, A t → Own c.playerId t u → A u) {o : Op γ}
    {f : γ → Handler β} {Q : Except Exn β → submissions.World → Prop} (read : State → γ)
    (ho : ∀ t, exec o t = (.ok (read t), t)) (hw : At A i readings w)
    (hf : ∀ v, At A i (readings ++ (clockReading ⟨i, o, .ok (read v.state)⟩).toList) v →
      (contract s players i c).Ensures i Q (f (read v.state)) v) :
    (contract s players i c).Ensures i Q (await o >>= f) w := by
  apply Contract.Ensures.perform_bind faultless
  intro v hr hi _ _
  have hx : submissions.exec o v.state = (.ok (read v.state), v.state) := ho v.state
  have hb := hw.rely hA hr
  have hs : (v.perform i o).2.state = v.state := congrArg Prod.snd hx
  have ha : (v.perform i o).1 = .ok (read v.state) := congrArg Prod.fst hx
  refine ⟨?_, ⟨?_, ?_⟩, ?_, ?_⟩
  · rw [Inv, hs]
    exact hi
  · rw [hs]
    exact fun p _ => Own.refl _
  · exact fun j hj => own_append_of_ne (Ne.symm hj) o _
  · intro a ha'
    obtain rfl : read v.state = a := by
      rw [ha] at ha'
      exact Except.ok.inj ha'
    have hv : read v.state = read (v.perform i o).2.state := by rw [hs]
    rw [hv]
    apply hf
    rw [← hv]
    refine ⟨hs ▸ hb.state, ?_⟩
    rw [World.perform_history, clockReadings_append, hb.clock]
    exact congrArg (fun r => readings ++ (clockReading ⟨i, o, r⟩).toList) (congrArg Prod.fst hx)
  · intro e he
    rw [ha] at he
    cases he

omit [Runtime] in
lemma flush_points (row : GamePlayer) (points : ℤ) :
    GamePlayer.flush ⟨row, { row with score := row.score + points }⟩ row =
      { row with score := row.score + points } := by
  simp only [GamePlayer.flush, changed]
  split
  · rename_i h
    rw [h]
  · rfl

omit [Runtime] in
lemma commit_of_not_storable {d : Db} {a : GamePlayerAnswer} (player : Option GamePlayer)
    (h : ¬Storable d a) : d.commit (.answer player a) = none := by
  simp only [Db.commit, Changes.answer, Db.insertAnswer]
  split
  · rename_i hfk
    have hk : d.answers.get? a.key ≠ none := fun hn => h ⟨hfk.1, hfk.2, hn⟩
    rw [Ne, Table.get?_eq_none, not_not] at hk
    rw [Table.insert_eq_none.mpr hk]
    rfl
  · rfl

omit [Runtime] in
lemma commit_of_storable {d : Db} {a : GamePlayerAnswer} (player : Option GamePlayer)
    (h : Storable d a) : ∃ e, d.commit (.answer player a) = some e ∧
    d.answers.insert a = some e.answers ∧
      e.players = Db.flushPlayer d.players
        (player.map fun p => ⟨p, { p with score := p.score + a.pointsEarned }⟩) ∧
      e.sessions = d.sessions ∧ e.quizzes = d.quizzes := by
  obtain ⟨hp, hq, hk⟩ := h
  cases ht : d.answers.insert a with
  | none => exact (Table.get?_eq_none.mp hk (Table.insert_eq_none.mp ht)).elim
  | some t =>
    refine ⟨⟨d.quizzes, d.flushSession none, Db.flushPlayer d.players
      (player.map fun p => ⟨p, { p with score := p.score + a.pointsEarned }⟩), t,
      d.quizId_flushSession none⟩, ?_, rfl, rfl, rfl, rfl⟩
    simp [Db.commit, Changes.answer, Db.insertAnswer, hp, hq, ht, Db.insertPlayer,
      Db.flushConnected, Db.flushSession]

omit [Runtime] in
lemma getD_loaded (d : Db) (sessionId playerId : UUID) :
    ((d.players.get? playerId).map fun p => (loaded d sessionId playerId).getD p) =
      d.players.get? playerId := by
  rw [loaded_eq]
  cases d.players.get? playerId with
  | none => rfl
  | some row =>
    by_cases h : row.sessionId = sessionId
    · simp [Option.filter_some, h]
    · simp [Option.filter_some, h]

omit [Runtime] in
lemma own_of_commit {a : GamePlayerAnswer} {e : Db} {p : UUID} (hp : p ≠ a.playerId)
    (hans : t.db.answers.insert a = some e.answers)
    (hplay : e.players = Db.flushPlayer t.db.players
      ((t.db.players.get? a.playerId).map fun p =>
        ⟨p, { p with score := p.score + a.pointsEarned }⟩))
    (hses : e.sessions = t.db.sessions) (hq : e.quizzes = t.db.quizzes) :
    Own p t { t with db := e } := by
  refine ⟨hses, hq, rfl, rfl, ?_, ?_, fun _ _ => Iff.rfl⟩
  · change e.players.get? p = _
    rw [hplay]
    cases hg : t.db.players.get? a.playerId with
    | none => rfl
    | some row =>
      apply Table.get?_modify_of_ne _ _ (GamePlayer.playerId_flush _)
      change p ≠ row.playerId
      rw [Table.key_get? hg]
      exact hp
  · intro q
    change e.answers.get? (p, q) = _
    rw [Table.get?_insert hans, if_neg]
    simp [GamePlayerAnswer.key, hp]

omit [Runtime] in
lemma settled_of_commit {a : GamePlayerAnswer} {e : Db} (ho : Own a.playerId s t)
    (hans : t.db.answers.insert a = some e.answers)
    (hplay : e.players = Db.flushPlayer t.db.players
      ((s.db.players.get? a.playerId).map fun p =>
        ⟨p, { p with score := p.score + a.pointsEarned }⟩)) :
    Settled s a (fun _ _ => False) { t with db := e } := by
  refine ⟨?_, ?_, fun room index => (ho.answered room index).trans (by simp)⟩
  · change e.players.get? a.playerId = _
    rw [hplay]
    cases hg : s.db.players.get? a.playerId with
    | none => exact ho.player.trans hg
    | some row =>
      have hk : row.playerId = a.playerId := Table.key_get? hg
      simp only [Option.map_some, Db.flushPlayer]
      rw [Table.get?_modify, ho.player, hg, Option.map_some, if_pos hk.symm, flush_points]
  · intro q
    change e.answers.get? (a.playerId, q) = _
    rw [Table.get?_insert hans, ho.answers]
    simp [GamePlayerAnswer.key]

lemma commitAnswer_ensures {a : GamePlayerAnswer} (ha : a.playerId = c.playerId)
    (hw : At (Own c.playerId s) i readings w) (hc : c.playerId ∈ players) :
    (contract s players i c).Ensures i
      (fun r v => clockReadings i v.history = readings ∧
        if Storable s.db a then r = .ok () ∧ Settled s a (fun _ _ => False) v.state
        else r = .error .alreadyAnsweredError ∧ Own c.playerId s v.state)
      (commitAnswer (s.db.players.get? a.playerId) a) w := by
  change (contract s players i c).Ensures i _ (tryCatch
    (await (.commit (.answer (s.db.players.get? a.playerId) a)))
    fun e => if e = .integrityError then await .rollback >>= fun _ => throw .alreadyAnsweredError
      else throw e) w
  apply Contract.Ensures.tryCatch (S := fun r v => clockReadings i v.history = readings ∧
    if Storable s.db a then r = .ok () ∧ Settled s a (fun _ _ => False) v.state
    else r = .error .integrityError ∧ Own c.playerId s v.state)
  · apply Contract.Ensures.perform faultless
    intro v hr hi _ _
    have hb := hw.rely (fun _ _ => Own.trans) hr
    have hown : Own a.playerId s v.state := ha ▸ hb.state
    have hclock : ∀ r : Except Exn Unit, clockReadings i (v.history ++
        [⟨i, .commit (.answer (s.db.players.get? a.playerId) a), r⟩]) = readings := by
      intro r
      rw [clockReadings_append, hb.clock]
      simp [clockReading]
    by_cases hst : Storable s.db a
    · obtain ⟨e, he, hans, hplay, hses, hq⟩ := commit_of_storable
        (s.db.players.get? a.playerId) (hown.storable.mpr hst)
      have hx := exec_commit_some he
      have hstate : (v.perform i (.commit (.answer (s.db.players.get? a.playerId) a))).2.state =
          { v.state with db := e } := congrArg Prod.snd hx
      have hothers : ∀ p ≠ c.playerId, Own p v.state { v.state with db := e } :=
        fun p hp => own_of_commit (ha ▸ hp) hans (hown.player ▸ hplay) hses hq
      refine ⟨?_, ⟨?_, fun j hj => own_append_of_ne (Ne.symm hj) _ _⟩, hclock _, ?_⟩
      · intro p hp
        rw [hstate]
        exact (hi p hp).trans (hothers p fun h => hp (h ▸ hc))
      · rw [hstate]
        exact hothers
      · rw [if_pos hst, hstate]
        exact ⟨congrArg Prod.fst hx, settled_of_commit hown hans hplay⟩
    · have hx := exec_commit_none (s := v.state) (commit_of_not_storable
        (s.db.players.get? a.playerId) fun h => hst (hown.storable.mp h))
      have hstate : (v.perform i (.commit (.answer (s.db.players.get? a.playerId) a))).2.state =
          v.state := congrArg Prod.snd hx
      refine ⟨?_, ⟨?_, fun j hj => own_append_of_ne (Ne.symm hj) _ _⟩, hclock _, ?_⟩
      · rw [Inv, hstate]
        exact hi
      · rw [hstate]
        exact fun p _ => Own.refl _
      · rw [if_neg hst, hstate]
        exact ⟨congrArg Prod.fst hx, hb.state⟩
  · rintro ⟨⟩ v ⟨hclock, hv⟩
    refine ⟨hclock, ?_⟩
    by_cases hst : Storable s.db a
    · rw [if_pos hst] at hv ⊢
      exact hv
    · rw [if_neg hst] at hv
      cases hv.1
  · rintro e v ⟨hclock, hv⟩
    split at hv
    · cases hv.1
    · rename_i hst
      obtain ⟨he, hown⟩ := hv
      cases he
      rw [if_pos rfl]
      apply read_bind (fun _ _ => Own.trans) (fun _ => ()) (fun _ => rfl) ⟨hown, hclock⟩
      intro u hu
      refine ⟨by simpa [clockReading] using hu.clock, ?_⟩
      rw [if_neg hst]
      exact ⟨rfl, hu.state⟩

omit [Runtime] in
lemma own_of_sadd {room : String} {index : ℕ} {q : UUID} (hp : p ≠ q) : Own p t { t with
    redis := t.redis.setAnswered room index (insert q (t.redis.answered room index)) } := by
  refine ⟨rfl, rfl, rfl, rfl, rfl, fun _ => rfl, ?_⟩
  intro room' index'
  by_cases hr : room' = room
  · subst hr
    by_cases hi : index' = index
    · subst hi
      simp only [Redis.setAnswered, Function.update_self]
      exact List.mem_insert_iff.trans (by simp [hp])
    · simp [Redis.setAnswered, Function.update_of_ne hi]
  · simp [Redis.setAnswered, Function.update_of_ne hr]

omit [Runtime] in
lemma Settled.sadd {a : GamePlayerAnswer} (h : Settled s a (fun _ _ => False) t) (room : String)
    (index : ℕ) :
    Settled s a (fun room' index' => room' = room ∧ index' = index) { t with
      redis := t.redis.setAnswered room index
        (insert a.playerId (t.redis.answered room index)) } := by
  refine ⟨h.player, h.answers, ?_⟩
  intro room' index'
  have hmem := h.answered room' index'
  by_cases hr : room' = room
  · subst hr
    by_cases hi : index' = index
    · subst hi
      simp only [Redis.setAnswered, Function.update_self]
      exact iff_of_true List.mem_insert_self (.inl (by simp))
    · simpa [Redis.setAnswered, Function.update_of_ne hi, hi] using hmem
  · simpa [Redis.setAnswered, Function.update_of_ne hr, hr] using hmem

lemma settled_ensures {a : GamePlayerAnswer} {question : QuizQuestion}
    (ha : a.playerId = c.playerId) (hj : judge s c readings = .ok (a, question))
    (hc : c.playerId ∈ players) (hw : At (Settled s a fun _ _ => False) i readings w)
    {entry : LogEntry} :
    (contract s players i c).Ensures i (fun r v => Ended s c (clockReadings i v.history) r v.state)
      (do
        await (.saddAnswered c.roomCode (s.position (Runtime.upper c.roomCode)).index c.playerId)
        await (.expireAnswered c.roomCode (s.position (Runtime.upper c.roomCode)).index 600)
        await (.log entry)
        pure ⟨a.isCorrect, correctAnswerIds question, a.pointsEarned, a.timeTakenMs⟩) w := by
  apply Contract.Ensures.perform_bind faultless
  intro v hr hi _ _
  have hv := hw.rely (fun _ _ h ho => h.of_own (ha ▸ ho)) hr
  refine ⟨?_, ⟨?_, fun j hj => own_append_of_ne (Ne.symm hj) _ _⟩, ?_, ?_⟩
  · exact fun p hp => (hi p hp).trans (own_of_sadd fun h => hp (h ▸ hc))
  · exact fun p hp => own_of_sadd hp
  · rintro _ -
    have hset := hv.state.sadd c.roomCode (s.position (Runtime.upper c.roomCode)).index
    rw [ha] at hset
    have hsadded : At (Settled s a fun room' index' => room' = c.roomCode ∧
        index' = (s.position (Runtime.upper c.roomCode)).index) i readings
        (v.perform i (.saddAnswered c.roomCode (s.position (Runtime.upper c.roomCode)).index
          c.playerId)).2 := by
      refine ⟨hset, ?_⟩
      rw [World.perform_history, clockReadings_append, hv.clock]
      simp [clockReading]
    apply read_bind (fun _ _ h ho => Settled.of_own h (ha ▸ ho)) (fun _ => ())
      (fun _ => rfl) hsadded
    intro u hu
    apply read_bind (fun _ _ h ho => Settled.of_own h (ha ▸ ho)) (fun _ => ()) (fun _ => rfl) hu
    intro u hu
    have hclock : clockReadings i u.history = readings := by simpa [clockReading] using hu.clock
    rw [Contract.ensures_pure, hclock]
    simp only [Ended, hj]
    exact ⟨trivial, hu.state⟩
  · intro e he
    cases he

lemma ended_error {e : Exn} (hj : judge s c readings = .error e)
    (hw : At (Own c.playerId s) i readings w) :
    Ended s c (clockReadings i w.history) (.error e) w.state := by
  rw [hw.clock]
  simp only [Ended, hj]
  exact ⟨trivial, hw.state⟩

lemma getCurrentQuestion_ensures {room : Room}
    (hroom : s.db.room? (Runtime.upper c.roomCode) = some room)
    (hw : At (Own c.playerId s) i readings w) :
    (contract s players i c).Ensures i
      (fun r v => At (Own c.playerId s) i readings v ∧ ∃ refreshed : Room,
        refreshed.session = room.session ∧
        (refreshed.players.find? fun p => p.playerId = c.playerId) =
          loaded s.db room.session.sessionId c.playerId ∧
        r = .ok (some refreshed, currentQuestion s c.roomCode room.session.currentQuestionIndex))
      (getCurrentQuestion c.roomCode) w := by
  apply read_bind (fun _ _ => Own.trans) (fun t : State => t.db.room? (Runtime.upper c.roomCode))
    (fun _ => rfl) hw
  intro v hv
  replace hv : At (Own c.playerId s) i readings v := by simpa [clockReading] using hv
  obtain ⟨fresh, hsession, hplayers, hread⟩ : ∃ fresh : Room, fresh.session = room.session ∧
      (fresh.players.find? fun p => p.playerId = c.playerId) =
        loaded s.db room.session.sessionId c.playerId ∧
      v.state.db.room? (Runtime.upper c.roomCode) = some fresh := by
    refine ⟨{ room with players := v.state.db.playersOf room.session.sessionId }, rfl,
      hv.state.loaded room.session.sessionId, ?_⟩
    rw [hv.state.room?, hroom]
    rfl
  rw [hread]
  dsimp only
  rw [hsession]
  apply Contract.Ensures.ite
  · intro hz
    exact ⟨hv, fresh, hsession, hplayers, by simp [currentQuestion, hz]⟩
  · intro hz
    apply read_bind (fun _ _ => Own.trans) (fun t : State => t.redis.questions c.roomCode)
      (fun _ => rfl) hv
    intro v' hv'
    replace hv' : At (Own c.playerId s) i readings v' := by simpa [clockReading] using hv'
    rw [hv'.state.questions]
    cases hids : s.redis.questions c.roomCode with
    | none => exact ⟨hv', fresh, hsession, hplayers, by simp [currentQuestion, hz, hids]⟩
    | some ids =>
      cases hid : ids[room.session.currentQuestionIndex - 1]? with
      | none =>
        simp only [hid]
        exact ⟨hv', fresh, hsession, hplayers, by simp [currentQuestion, hz, hids, hid]⟩
      | some questionId =>
        simp only [hid]
        apply read_bind (fun _ _ => Own.trans) (fun t : State => t.db.question? questionId)
          (fun _ => rfl) hv'
        intro v'' hv''
        replace hv'' : At (Own c.playerId s) i readings v'' := by simpa [clockReading] using hv''
        rw [hv''.state.question?]
        exact ⟨hv'', fresh, hsession, hplayers, by simp [currentQuestion, hz, hids, hid]⟩

lemma timeTaken_ensures {question : QuizQuestion} (hw : At (Own c.playerId s) i [] w) :
    (contract s players i c).Ensures i
      (fun r v => ∃ readings, At (Own c.playerId s) i readings v ∧
        r = .ok (judgedTime s c.roomCode question readings))
      (timeTaken question (s.redis.questionStart c.roomCode)) w := by
  cases hstart : s.redis.questionStart c.roomCode with
  | none => exact ⟨[], hw, by simp [judgedTime, hstart]⟩
  | some start =>
    apply read_bind (fun _ _ => Own.trans) State.now (fun _ => rfl) hw
    intro v hv
    exact ⟨_, hv, by simp [judgedTime, hstart, clockReading]⟩

omit [Runtime] in
lemma index_of_room? {d : Db} {roomCode : String} {room : Room} (h : d.room? roomCode = some room)
    {t : State} (ht : t.db = d) :
    room.session.currentQuestionIndex = (t.position roomCode).index := by
  subst ht
  simp only [Db.room?, Option.bind_eq_some_iff, Option.map_eq_some_iff] at h
  obtain ⟨g, hg, q, -, rfl⟩ := h
  rw [State.position_eq hg]
  rfl

lemma submitAnswer_ensures (hw : At (Own c.playerId s) i [] w) (hc : c.playerId ∈ players) :
    (contract s players i c).Ensures i (fun r v => Ended s c (clockReadings i v.history) r v.state)
      (submitAnswer c.roomCode c.playerId c.questionId c.answerIds) w := by
  apply read_bind (fun _ _ => Own.trans) (fun t : State => t.db.room? (Runtime.upper c.roomCode))
    (fun _ => rfl) hw
  intro v hv
  replace hv : At (Own c.playerId s) i [] v := by simpa [clockReading] using hv
  rw [hv.state.room?]
  cases hroom : s.db.room? (Runtime.upper c.roomCode) with
  | none => exact ended_error (by simp [judge, hroom]) hv
  | some room =>
    apply Contract.Ensures.require
    swap
    · exact fun hst => ended_error
        (by simp [judge, hroom, show room.session.status ≠ .question from hst]) hv
    intro hst
    replace hst : room.session.status = .question := hst
    apply read_bind (fun _ _ => Own.trans)
      (fun t : State => decide (c.playerId ∈ t.redis.answered c.roomCode
        room.session.currentQuestionIndex))
      (fun _ => rfl) hv
    intro v₁ hv₁
    replace hv₁ : At (Own c.playerId s) i [] v₁ := by simpa [clockReading] using hv₁
    have hmem := hv₁.state.answered c.roomCode room.session.currentQuestionIndex
    apply Contract.Ensures.require
    swap
    · intro hans
      refine ended_error ?_ hv₁
      have hin : c.playerId ∈ s.redis.answered c.roomCode room.session.currentQuestionIndex :=
        hmem.mp (by simpa using hans)
      simp [judge, hroom, hst, hin]
    intro hans
    have hnot : c.playerId ∉ s.redis.answered c.roomCode room.session.currentQuestionIndex :=
      fun h => by simp [hmem.mpr h] at hans
    have hjudge := judge_asking hroom hst hnot
    cases hid : Runtime.uuid c.questionId with
    | none =>
      refine ended_error ?_ hv₁
      rw [hjudge, hid]
      cases currentQuestion s c.roomCode room.session.currentQuestionIndex <;> simp
    | some submittedQuestionId =>
      apply Contract.Ensures.bind (getCurrentQuestion_ensures hroom hv₁)
      swap
      · rintro e v ⟨-, refreshed, -, -, he⟩
        cases he
      rintro _ v₂ ⟨hv₂, refreshed, hsession, hloaded, ⟨⟩⟩
      cases hcur : currentQuestion s c.roomCode room.session.currentQuestionIndex with
      | none => exact ended_error (by rw [hjudge, hcur]) hv₂
      | some question =>
        apply Contract.Ensures.require
        swap
        · exact fun hne => ended_error (by simp [hjudge, hcur, hid, Ne.symm hne]) hv₂
        rintro rfl
        apply read_bind (fun _ _ => Own.trans) (fun t : State => t.redis.questionStart c.roomCode)
          (fun _ => rfl) hv₂
        intro v₃ hv₃
        replace hv₃ : At (Own c.playerId s) i [] v₃ := by simpa [clockReading] using hv₃
        rw [hv₃.state.questionStart]
        apply Contract.Ensures.bind (timeTaken_ensures hv₃)
        swap
        · rintro e v ⟨readings, -, he⟩
          cases he
        rintro _ v₄ ⟨readings, hv₄, ⟨⟩⟩
        apply read_bind (fun _ _ => Own.trans) (fun t : State => t.db.players.get? c.playerId)
          (fun _ => rfl) hv₄
        intro v₅ hv₅
        replace hv₅ : At (Own c.playerId s) i readings v₅ := by simpa [clockReading] using hv₅
        rw [hv₅.state.player]
        have hrow : ((s.db.players.get? c.playerId).map fun p =>
            ((refreshed.players.find? fun p => p.playerId = c.playerId).getD p)) =
              s.db.players.get? (judgedRecord s c question readings).playerId := by
          rw [hloaded]
          exact getD_loaded s.db room.session.sessionId c.playerId
        have hcommit := commitAnswer_ensures (a := judgedRecord s c question readings) rfl hv₅ hc
        rw [← hrow] at hcommit
        apply Contract.Ensures.bind hcommit
        · rintro ⟨⟩ v₆ ⟨hclock, hv₆⟩
          by_cases hst : Storable s.db (judgedRecord s c question readings)
          · rw [if_pos hst] at hv₆
            have hj : judge s c readings = .ok (judgedRecord s c question readings, question) := by
              simp [hjudge, hcur, hid, hst]
            have hidx : room.session.currentQuestionIndex =
                (s.position (Runtime.upper c.roomCode)).index :=
              index_of_room? hroom rfl
            rw [hidx]
            exact settled_ensures rfl hj hc ⟨hv₆.2, hclock⟩
          · rw [if_neg hst] at hv₆
            cases hv₆.1
        · rintro e v₆ ⟨hclock, hv₆⟩
          by_cases hst : Storable s.db (judgedRecord s c question readings)
          · rw [if_pos hst] at hv₆
            cases hv₆.1
          · rw [if_neg hst] at hv₆
            obtain ⟨he, hown⟩ := hv₆
            cases he
            exact ended_error (by simp [hjudge, hcur, hid, hst]) ⟨hown, hclock⟩

end Contract

end Submissions

end

end Askit.Game

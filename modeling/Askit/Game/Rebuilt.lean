import Askit.Game.Builds

/-! The question that a client is sent when it connects, and the question that was broadcast. Both
are rebuilt from the session, the stored order, the question's rows and the start-time key. -/

namespace Askit.Game

open Interleaving Machine Coro Tables
open HostTurns (orderRead)

section

variable [Runtime]

namespace Rebuilt

/-- `WSQuestion` in a room's state that is sent to a client. -/
def rebuilds (roomCode : String) : Ev → Option WSQuestion
  | ⟨_, .sendJson _ (.roomState state), _⟩ =>
    if state.roomCode = Runtime.upper roomCode then state.currentQuestion else none
  | _ => none

def broadcasts (roomCode : String) : Ev → Option WSQuestion
  | ⟨_, .publish room ⟨.question message, _⟩, _⟩ =>
    if Runtime.upper room = Runtime.upper roomCode then some message else none
  | _ => none

end Rebuilt

open Rebuilt in
/-- A step of a call that builds questions finds what they were opened with. -/
def Steady (s₀ : State) : unordered.Transition → Prop
  | ⟨c, .run i⟩ =>
    match c.procs[i]? with
    | some ⟨call, .await o _⟩ => Call.Builds call → OpSteady s₀ c.world.state c.world.history i o
    | _ => True
  | _ => True

open Rebuilt in
instance (s₀ : State) : DecidablePred (Steady s₀)
  | ⟨c, .run i⟩ =>
    match h : c.procs[i]? with
    | some ⟨call, .await o _⟩ =>
      have : Decidable (Call.Builds call) := (inferInstance : DecidablePred Call.Builds) call
      have : Decidable (OpSteady s₀ c.world.state c.world.history i o) :=
        (inferInstance : ∀ s : State, Decidable (OpSteady s₀ s c.world.history i o)) c.world.state
      decidable_of_iff (Call.Builds call → OpSteady s₀ c.world.state c.world.history i o)
        (by simp [Steady, h])
    | some ⟨_, .done _⟩ | none => isTrue (by simp [Steady, h])
  | ⟨_, .spawn _⟩ | ⟨_, .fault _ _⟩ | ⟨_, .env _⟩ => isTrue trivial

open Rebuilt in
/-- A question that a connecting client is sent is the question that was broadcast. -/
def SameQuestions (roomCode : String) (c : unordered.Config) : Prop :=
  ∀ ev ∈ c.world.history, (∃ call, c.calls[ev.pid]? = some call ∧ Call.Builds call) →
    ∀ m, rebuilds roomCode ev = some m →
      ∀ ev' ∈ c.world.history, ∀ b, broadcasts roomCode ev' = some b →
        m.questionIndex = b.questionIndex ∨ m.questionId = b.questionId → m = b

open Rebuilt in
instance (roomCode : String) (c : unordered.Config) : Decidable (SameQuestions roomCode c) :=
  have (ev : Ev) : Decidable (∃ call ∈ c.calls[ev.pid]?, Call.Builds call) :=
    (inferInstance : ∀ call : Option Call, Decidable (∃ a ∈ call, Call.Builds a)) c.calls[ev.pid]?
  decidable_of_iff (∀ ev ∈ c.world.history, (∃ call ∈ c.calls[ev.pid]?, Call.Builds call) →
    ∀ m ∈ rebuilds roomCode ev, ∀ ev' ∈ c.world.history, ∀ b ∈ broadcasts roomCode ev',
      m.questionIndex = b.questionIndex ∨ m.questionId = b.questionId → m = b)
    (by simp only [SameQuestions, Option.mem_def])

namespace Rebuilt

variable {i : ℕ} {roomCode : String} {call : Call} {l l' l'' : List Ev} {α β γ : Type}

section Facts

/-- What of a room no step changes: whether its options are drawn, and how many questions it has. -/
def traits (d : Db) (roomCode : String) : Option (Bool × ℕ) :=
  (d.room? roomCode).map fun r => (r.session.randomizeAnswers, r.quiz.questions.length)

omit [Runtime] in
lemma traits_eq (d : Db) (roomCode : String) :
    traits d roomCode = (d.sessions.get? roomCode).bind fun g =>
    (d.quizzes.table.get? g.quizId).map fun q => (g.randomizeAnswers, q.questions.length) := by
  have hlength (q : Quiz) : q.loaded.questions.length = q.questions.length :=
    (sortByPosition_perm _).length_eq
  rw [traits, Db.room?, Option.map_bind]
  simp [Function.comp_def, hlength]

omit [Runtime] in
lemma traits_commit {d e : Db} {changes : Changes} (h : d.commit changes = some e)
    (roomCode : String) :
    traits e roomCode = traits d roomCode := by
  obtain ⟨hq, hs⟩ := commit_eq_some h
  rw [traits_eq, traits_eq, hs, hq, Db.get?_flushSession]
  cases d.sessions.get? roomCode with
  | none => rfl
  | some row =>
    cases changes.session with
    | none => rfl
    | some s =>
      simp only [Option.map_some, Option.bind_some]
      split <;> rfl

omit [Runtime] in
lemma traits_reorder (d : Db) (questionId : UUID) (answers : List QuizAnswer) (roomCode : String) :
    traits (d.reorder questionId answers) roomCode = traits d roomCode := by
  have hget (quizId : UUID) : (d.quizzes.reorder questionId answers).table.get? quizId =
      (d.quizzes.table.get? quizId).map (Quiz.reorder questionId answers) :=
    Table.get?_map _ (Quiz.reorder questionId answers) (fun _ => rfl) _
  rw [traits_eq, traits_eq]
  simp [hget, Db.reorder, Function.comp_def, Quiz.reorder]

lemma traits_exec {β : Type} (o : Op β) (s : State) (roomCode : String) :
    traits (exec o s).2.db roomCode = traits s.db roomCode := by
  cases o with
  | commit changes =>
    cases hc : s.db.commit changes with
    | none => simp [exec, hc]
    | some e => rw [exec_commit_some hc, traits_commit hc]
  | listen room =>
    simp only [exec]
    split <;> rfl
  | _ => rfl

variable {s₀ : State} {c : unordered.Config}

structure Kept (s₀ : State) (roomCode : String) (c : unordered.Config) : Prop where
  traced : c.Traced Fine fun _ _ _ => True
  labelled : c.Labelled
  confined : c.Confined fun _ => Dealt
  room : traits (State.db c.world.state) (Runtime.upper roomCode) = traits s₀.db
    (Runtime.upper roomCode)
  rooms : ∀ ev ∈ c.world.history, ∀ r, roomAnswer roomCode ev = some r →
    r.map (fun r => (r.session.randomizeAnswers, r.quiz.questions.length)) = traits s₀.db
      (Runtime.upper roomCode)
  checked : Recorded (fun before ev => ∃ call, c.calls[ev.pid]? = some call ∧
    (Call.Builds call → Checked s₀ roomCode before ev)) c.world.history

lemma kept_start (s₀ : State) (roomCode : String) : Kept s₀ roomCode (start s₀) where
  traced := ⟨fun _ _ h => (by cases h), recorded_nil⟩
  labelled := labelled_start s₀
  confined := @confined_start _ _ _ unordered (fun _ => Dealt) s₀
  room := rfl
  rooms ev hev := by cases hev
  checked := recorded_nil

lemma rooms_perform {o : Op β} {s : State} {r : Option Room}
    (h : roomAnswer roomCode ⟨i, o, (exec o s).1⟩ = some r) :
    r.map (fun r => (r.session.randomizeAnswers, r.quiz.questions.length)) =
      traits s.db (Runtime.upper roomCode) := by
  cases o with
  | getRoom room =>
    simp only [roomAnswer, exec] at h
    split at h
    · next hu =>
      cases h
      rw [traits, hu]
    · cases h
  | _ => simp [roomAnswer] at h

lemma Kept.resume {o : Op β} {r : Except Exn β} {d : unordered.Config} (h : Kept s₀ roomCode c)
    (htraced : d.Traced Fine fun _ _ _ => True) (hlabelled : d.Labelled)
    (hconfined : d.Confined fun _ => Dealt) (hcalls : d.calls = c.calls)
    (pending : c.calls[i]? = some call) (hh : d.world.history = c.world.history ++ [⟨i, o, r⟩])
    (hroom : traits (State.db d.world.state) (Runtime.upper roomCode) =
      traits (State.db c.world.state) (Runtime.upper roomCode))
    (hread : ∀ a, roomAnswer roomCode ⟨i, o, r⟩ = some a →
      a.map (fun r => (r.session.randomizeAnswers, r.quiz.questions.length)) =
        traits (State.db c.world.state) (Runtime.upper roomCode))
    (hchecked : call.Builds → Checked s₀ roomCode c.world.history ⟨i, o, r⟩) :
    Kept s₀ roomCode d where
  traced := htraced
  labelled := hlabelled
  confined := hconfined
  room := hroom.trans h.room
  rooms ev hev a ha := by
    rw [hh] at hev
    rcases List.mem_append.mp hev with hev | hev
    · exact h.rooms ev hev a ha
    · rw [List.mem_singleton.mp hev] at ha
      exact (hread a ha).trans h.room
  checked := by
    rw [hh, hcalls]
    exact h.checked.append ⟨call, pending, hchecked⟩

lemma Kept.step {t : unordered.Transition} (h : Kept s₀ roomCode t.before) (hs : Steady s₀ t) :
    Kept s₀ roomCode t.after := by
  obtain ⟨c, a⟩ := t
  change Kept s₀ roomCode (Machine.step a c)
  replace h : Kept s₀ roomCode c := h
  have htraced := h.traced.step h.labelled code_follows a
  have hlabelled := h.labelled.step a
  have hconfined := h.confined.step code_dealt a
  have hm := step_moves a c
  generalize Machine.step a c = d at hm htraced hlabelled hconfined
  cases hm with
  | idle => exact h
  | spawn call s admitted =>
    have hdb : s.db = State.db c.world.state := (enter_eq_some admitted).1
    refine ⟨htraced, hlabelled, hconfined, ?_, h.rooms, ?_⟩
    · rw [← h.room]
      exact congrArg (traits · _) hdb
    · intro before ev after heq
      obtain ⟨call', hc, hchecked⟩ := h.checked before ev after heq
      refine ⟨call', ?_, hchecked⟩
      rw [Config.calls, List.map_append]
      exact (List.getElem?_append_left (List.getElem?_eq_some_iff.mp hc).1).trans hc
  | run i call o k pending ready =>
    have hsteady : call.Builds → OpSteady s₀ c.world.state c.world.history i o := by
      simpa only [Steady, pending] using hs
    apply h.resume htraced hlabelled hconfined (calls_set pending) (getElem?_calls pending)
      (World.perform_history _ _ _)
    · exact traits_exec o _ _
    · exact fun a ha => rooms_perform ha
    · exact fun hb => checked_perform (hsteady hb)
  | fault i e call o k pending =>
    apply h.resume htraced hlabelled hconfined (calls_set pending) (getElem?_calls pending)
      (World.fail_history _ _ _ _)
    · rfl
    · intro a ha
      cases o <;> simp [roomAnswer] at ha
    · exact fun _ => checked_fail s₀ _ o e
  | env e =>
    refine ⟨htraced, hlabelled, hconfined, ?_, h.rooms, h.checked⟩
    rw [← h.room]
    cases e with
    | outside e => cases e <;> rfl
    | reorder questionId answers => exact traits_reorder _ _ _ _

end Facts

/-- The message of a question, as what was first stored for it makes it. -/
def opened (s₀ : State) (roomCode : String) (history : List Ev) (k : ℕ) : Option WSQuestion := do
  let ids ← (ordersStored roomCode history).head?
  let id ← ids[k - 1]?
  let question ← s₀.db.question? id
  let (randomize, total) ← traits s₀.db (Runtime.upper roomCode)
  let startedAt ← (openings roomCode history).lookup k
  pure (questionMessage question k total randomize startedAt)

lemma exists_order_of_opened {s₀ : State} {history : List Ev} {k : ℕ} {m : WSQuestion}
    (h : opened s₀ roomCode history k = some m) :
    ∃ ids, (ordersStored roomCode history).head? = some ids ∧ ids[k - 1]? = some m.questionId := by
  simp only [opened, Option.bind_eq_bind, Option.bind_eq_some_iff] at h
  obtain ⟨ids, hids, id, hid, question, hquestion, _, -, _, -, hm⟩ := h
  obtain rfl : questionMessage question k _ _ _ = m := Option.some.inj hm
  exact ⟨ids, hids, hid.trans (congrArg some (Db.questionId_question? hquestion).symm)⟩

lemma orderRead_congr {room : String} (h : Runtime.upper room = Runtime.upper roomCode) (ev : Ev) :
    orderRead room ev = orderRead roomCode ev := by
  simp only [orderRead, h]

lemma roomAnswer_congr {room : String} (h : Runtime.upper room = Runtime.upper roomCode) (ev : Ev) :
    roomAnswer room ev = roomAnswer roomCode ev := by
  simp only [roomAnswer, h]

section Opened

variable {s₀ : State} {c : unordered.Config} {before : List Ev}

lemma Kept.checked_own (h : Kept s₀ roomCode c) (hi : c.calls[i]? = some call) (hb : call.Builds)
    (hh : before <+: c.world.history) {ev : Ev} (hev : ev ∈ own i before) :
    ∃ before', before' <+: c.world.history ∧ Checked s₀ roomCode before' ev := by
  obtain ⟨hmem, rfl⟩ := mem_own.mp hev
  obtain ⟨before', hp, call', hc, hchecked⟩ := h.checked.of_mem (hh.subset hmem)
  cases hi.symm.trans hc
  exact ⟨before', hp, hchecked hb⟩

lemma Kept.made (h : Kept s₀ roomCode c) (hi : c.calls[i]? = some call) (hb : call.Builds)
    (hh : before <+: c.world.history) {room : String}
    (hu : Runtime.upper room = Runtime.upper roomCode) {m : WSQuestion}
    (hm : Made i room (own i before) m) :
    m.questionIndex ≠ 0 ∧ opened s₀ roomCode c.world.history m.questionIndex = some m := by
  obtain ⟨question, total, randomize, l₀, start, hs, hp, hbuilding, hmessage⟩ := hm
  obtain ⟨ids, id, ⟨ev, hev, hids⟩, hid, ev', hev', hquestion⟩ := hs.asked
  obtain ⟨b₁, hb₁, hchecked⟩ := h.checked_own hi hb hh hev
  have horder : (ordersStored roomCode c.world.history).head? = some ids :=
    head?_of_prefix (hchecked.order ids (orderRead_congr hu ev ▸ hids)) (hb₁.filterMap _)
  obtain ⟨b₂, -, hchecked'⟩ := h.checked_own hi hb hh hev'
  have hq : s₀.db.question? id = some question := (hchecked'.question id _ hquestion).symm
  have htraits : traits s₀.db (Runtime.upper roomCode) = some (randomize, total) := by
    obtain ⟨ev₁, hev₁, r, hr, htotal⟩ := hs.counted
    obtain ⟨ev₂, hev₂, r', hr', hrandomize⟩ := hs.drawn
    have h₁ := h.rooms ev₁ (hh.subset (mem_own.mp hev₁).1) _ (roomAnswer_congr hu ev₁ ▸ hr)
    have h₂ := h.rooms ev₂ (hh.subset (mem_own.mp hev₂).1) _ (roomAnswer_congr hu ev₂ ▸ hr')
    cases r' with
    | none => exact absurd (h₁.trans h₂.symm) (by simp)
    | some r' =>
      have heq := h₁.trans h₂.symm
      simp only [Option.map_some, Option.some.injEq, Prod.mk.injEq] at heq
      rw [← h₁, Option.map_some, htotal, heq.1]
      exact congrArg (fun b => some (b, total)) hrandomize
  have hstart : ∃ t ∈ start, (openings roomCode c.world.history).lookup m.questionIndex =
      some t := by
    obtain ⟨rest, hrest⟩ := hh
    obtain ⟨r, hr⟩ := hp
    have hown : own i before = l₀ ++ ⟨i, .getQuestionStart room, .ok start⟩ :: r := by
      simpa using hr.symm
    obtain ⟨b, a, hsplit, hown, -⟩ := exists_of_own hown
    obtain ⟨call', hc, hchecked⟩ := h.checked b ⟨i, .getQuestionStart room, .ok start⟩ (a ++ rest)
      (by rw [← hrest, hsplit]; simp)
    cases hi.symm.trans hc
    obtain ⟨k, hk, t, ht, hlookup⟩ := (hchecked hb).start room start rfl hu
    have hk' : building l₀ = some k := hown ▸ hk
    cases hbuilding.symm.trans hk'
    refine ⟨t, ht, (gather_grows _ ?_).lookup_eq_some hlookup⟩
    rw [← hrest, hsplit]
    exact ⟨_, (List.append_assoc _ _ _).symm⟩
  obtain ⟨t, ht, hlookup⟩ := hstart
  refine ⟨hs.numbered, ?_⟩
  simp only [opened, horder, hid, hq, htraits, hlookup, Option.bind_eq_bind, Option.bind_some,
    Option.pure_def, Option.some.injEq]
  exact (hmessage t ht).symm

lemma Kept.index_eq (h : Kept s₀ roomCode c) {m b : WSQuestion} (hm : m.questionIndex ≠ 0)
    (hb : b.questionIndex ≠ 0)
    (hopened : opened s₀ roomCode c.world.history m.questionIndex = some m)
    (hopened' : opened s₀ roomCode c.world.history b.questionIndex = some b)
    (hid : m.questionId = b.questionId) : m.questionIndex = b.questionIndex := by
  obtain ⟨ids, hids, hget⟩ := exists_order_of_opened hopened
  obtain ⟨ids', hids', hget'⟩ := exists_order_of_opened hopened'
  cases hids.symm.trans hids'
  have hnodup : ids.Nodup := nodup_of_stored (fun ev hev => by
    obtain ⟨_, -, hdealt⟩ := h.confined.history ev hev
    exact hdealt) (List.mem_of_mem_head? hids)
  have hlt := (List.getElem?_eq_some_iff.mp hget).1
  have hpos : m.questionIndex - 1 = b.questionIndex - 1 :=
    (List.getElem?_inj hlt hnodup).mp (hget.trans (hid ▸ hget'.symm))
  omega

lemma Kept.sameQuestions (h : Kept s₀ roomCode c) : SameQuestions roomCode c := by
  intro ev hev ⟨call, hi, hb⟩ m hm ev' hev' b hbroadcast hsame
  have hopened : m.questionIndex ≠ 0 ∧
      opened s₀ roomCode c.world.history m.questionIndex = some m := by
    obtain ⟨before, hh, call', hc, hfine⟩ := h.traced.history.of_mem hev
    cases hi.symm.trans hc
    obtain ⟨i, o, r⟩ := ev
    cases o with
    | sendJson websocket message =>
      cases message with
      | roomState state =>
        obtain ⟨room, hroom, hmade⟩ := hfine hb
        simp only [rebuilds] at hm
        split at hm
        · next hcode => exact h.made hi hb hh (hroom.symm.trans hcode) (hmade m hm)
        · cases hm
      | _ => cases hm
    | _ => cases hm
  have hopened' : b.questionIndex ≠ 0 ∧
      opened s₀ roomCode c.world.history b.questionIndex = some b := by
    obtain ⟨before, hh, call', hc, hfine⟩ := h.traced.history.of_mem hev'
    obtain ⟨i, o, r⟩ := ev'
    cases o with
    | publish room envelope =>
      obtain ⟨message, exclude⟩ := envelope
      cases message with
      | question message =>
        obtain ⟨hb', hmade⟩ := hfine
        simp only [broadcasts] at hbroadcast
        split at hbroadcast
        · next hu =>
          cases hbroadcast
          exact h.made hc hb' hh hu hmade
        · cases hbroadcast
      | _ => cases hbroadcast
    | _ => cases hbroadcast
  have hindex : m.questionIndex = b.questionIndex :=
    hsame.elim id fun hid => h.index_eq hopened.1 hopened'.1 hopened.2 hopened'.2 hid
  rw [hindex, hopened'.2] at hopened
  exact (Option.some.inj hopened.2).symm

end Opened

end Rebuilt

/-- Where every build finds what the question was opened with, a client that connects is sent the
question that was broadcast. -/
theorem rebuilt_questions_same (roomCode : String) (s₀ : State) (acts : List unordered.Act)
    (h : ∀ t ∈ transitions (start s₀) acts, Steady s₀ t) :
    SameQuestions roomCode (run acts (start s₀)) :=
  (invariant (I := fun c : unordered.Config => Rebuilt.Kept s₀ roomCode c)
    (fun _ hs hk => hk.step hs)
    (Rebuilt.kept_start s₀ roomCode) acts h).2.sameQuestions

end

section Sample

attribute [local instance] Runtime.ascii

/-- The first player of the sample room has joined with a token. -/
def Sample.joined : State :=
  { Sample.state with redis.wsToken := fun token => if token = "token" then some "p1" else none }

/-- The player connects while the first question is running. -/
def lateConnect : List unordered.Act :=
  .spawn (Call.hostFrames "ABCDEF" "host" [.startGame]) :: runs 0 15 ++ .env
    (RowEnv.outside (.clock 5)) :: runs 0 7 ++
    .env (RowEnv.outside (.clock 9)) :: .spawn
      (Call.playerEndpoint 0 "ABCDEF" none (some "token")) :: runs 1 14

theorem rebuilt_questions_same_connected :
    SameQuestions "ABCDEF" (run lateConnect (start Sample.joined)) :=
  rebuilt_questions_same "ABCDEF" Sample.joined lateConnect (by decide +kernel)

/-- The player connects after the commit that moves the session to the first question, and before
the start of the question is stored. -/
def earlyConnect : List unordered.Act :=
  .spawn (Call.hostFrames "ABCDEF" "host" [.startGame]) :: runs 0 15 ++
    .spawn (Call.playerEndpoint 0 "ABCDEF" none (some "token")) :: runs 1 14 ++
    .env (RowEnv.outside (.clock 5)) :: runs 0 6

theorem early_connect_reads_another_start :
    ¬SameQuestions "ABCDEF" (run earlyConnect (start Sample.joined)) := by
  decide +kernel

end Sample

end Askit.Game

import Askit.Game.Answered

/-! Every handler keeps the two feeds of a room together. -/

namespace Askit.Game

open Interleaving Machine Coro Tables

section

variable [Runtime]

namespace LiveFeed

section Handlers

variable {roomCode : String} {sessionId : UUID} {i : ℕ} {l : List Accepted}
    {w : system.World} {α : Type}

variable (roomCode sessionId i) in
/-- Served among the other handlers of the system, where `Kept` holds whenever one of them may
run. -/
abbrev Feeds (Q : List Accepted → Except Exn α → system.World → Prop) (x : Handler α)
    (l : List Accepted) (w : system.World) : Prop :=
  Serves Op.rests i (fun l w => Kept roomCode sessionId l w.state) Q x l w

variable (roomCode sessionId α) in
abbrev Keeping (l : List Accepted) (_ : Except Exn α) (w : system.World) : Prop :=
  Kept roomCode sessionId l w.state

lemma feeds_of_keeps {F : Footprint} {x : Handler α} (hx : Keeps F x)
    (hF : ∀ changes, F.commits changes → Harmless changes)
    (hstores : ∀ room ids, ¬F.stores room ids) (h : Kept roomCode sessionId l w.state) :
    Feeds roomCode sessionId i (Keeping roomCode sessionId α) x l w :=
  Serves.of_all hx (fun _ _ _ ho hw => hw.exec hF hstores ho) h

def announcing : Footprint :=
  { Footprint.silent with announces := fun _ _ => True, arms := fun _ => True, receives := True }

lemma feeds_of_announcing {x : Handler α} (hx : Keeps announcing x)
    (h : Kept roomCode sessionId l w.state) :
    Feeds roomCode sessionId i (Keeping roomCode sessionId α) x l w :=
  feeds_of_keeps hx (fun _ => False.elim) (fun _ _ => id) h

omit [Runtime] in
lemma session_of_room? {d : Db} {room : String} {loaded : Room} (h : d.room? room = some loaded) :
    d.sessions.get? room = some loaded.session := by
  simp only [Db.room?, Option.bind_eq_some_iff, Option.map_eq_some_iff] at h
  obtain ⟨g, hg, quiz, -, rfl⟩ := h
  exact hg

lemma feeds_commit {Q : List Accepted → Except Exn α → system.World → Prop} {f : Unit → Handler α}
    {room : String} {loaded : Room} (hloaded : w.state.db.room? (Runtime.upper room) = some loaded)
    {cur : GameSession} (hm : Runtime.upper room = roomCode → Moves roomCode w.state cur.position)
    (h : Kept roomCode sessionId l w.state)
    (hf : ∀ (v : system.World) (e : Db), Db.commit (State.db w.state)
      { session := some ⟨loaded.session, cur⟩ } = some e →
      v.state = { w.state with db := e } → Kept roomCode sessionId l v.state →
      Feeds roomCode sessionId i Q (f ()) l v) :
    Feeds roomCode sessionId i Q (await (.commit { session := some ⟨loaded.session, cur⟩ }) >>= f) l
    w := by
  obtain ⟨e, he, -⟩ := exists_commit_session (State.db w.state) ⟨loaded.session, cur⟩
  have hg := session_of_room? hloaded
  have hcode : loaded.session.roomCode = Runtime.upper room := Table.key_get? hg
  apply Serves.perform_bind rfl (exec_commit_some he)
  intro v hv
  apply hf v e he hv
  rw [hv]
  exact h.session (hcode ▸ hg) he fun hroom => hm (hcode ▸ hroom)

lemma moves_finished {s : State} {g : GameSession} (hg : s.db.sessions.get? roomCode = some g)
    (endedAt : Option Time) :
    Moves roomCode s (GameSession.position { g with status := .finished, endedAt := endedAt }) := by
  refine .inl ⟨by rw [State.position_eq hg]; rfl, nofun, ?_⟩
  rintro (h | h) <;> cases h

lemma feeds_read {β : Type} {o : Op β} {f : β → Handler α}
    {Q : List Accepted → Except Exn α → system.World → Prop} {a : β}
    (hh : system.Halts Op.rests o w.state = false) (hx : exec o w.state = (.ok a, w.state))
    (hf : ∀ history, Feeds roomCode sessionId i Q (f a) l ⟨w.state, history⟩) :
    Feeds roomCode sessionId i Q (await o >>= f) l w := by
  apply Serves.perform_bind hh hx
  rintro ⟨state, history⟩ rfl
  exact hf history

lemma endGame_feeds (room : String) (h : Kept roomCode sessionId l w.state) :
    Feeds roomCode sessionId i (Keeping roomCode sessionId Unit) (endGame room) l w := by
  apply feeds_read (a := w.state.db.room? (Runtime.upper room)) rfl rfl
  intro history
  cases hroom : w.state.db.room? (Runtime.upper room) with
  | none => exact h
  | some loaded =>
    apply feeds_read (a := State.now w.state) rfl rfl
    intro history'
    apply feeds_commit (w := ⟨w.state, history'⟩) hroom _ h
    · intro v e _ _ hkept
      apply feeds_of_announcing _ hkept
      refine All.bind (buildGameFinished_keeps room) fun finished => ?_
      cases finished with
      | none => trivial
      | some f =>
        exact All.bind (announceFinished_keeps room _ _) fun _ => (all_perform _).mpr trivial
    · exact fun hup => moves_finished (hup ▸ session_of_room? hroom) _

lemma sendQuestion_feeds (room : String) (questionIndex totalQuestions : ℕ)
    (hnext : Runtime.upper room = roomCode →
      questionIndex = (State.position w.state roomCode).index + 1)
    (h : Kept roomCode sessionId l w.state) :
    Feeds roomCode sessionId i (Keeping roomCode sessionId Unit)
      (sendQuestion room questionIndex totalQuestions) l w := by
  apply Serves.bind (S := fun l _ w => Kept roomCode sessionId l w.state)
  · apply feeds_read (a := w.state.db.room? (Runtime.upper room)) rfl rfl
    intro history
    cases hroom : w.state.db.room? (Runtime.upper room) with
    | none => exact h
    | some loaded =>
      apply feeds_read (a := w.state.redis.questions room) rfl rfl
      intro history'
      cases hids : w.state.redis.questions room with
      | none => exact h
      | some ids =>
        apply feeds_read (a := ()) rfl rfl
        intro history''
        apply Serves.ite
        · intro _
          apply feeds_read (a := State.now w.state) rfl rfl
          intro history'''
          apply feeds_commit (w := ⟨w.state, history'''⟩) hroom _ h
          · exact fun v e _ _ hkept => hkept
          · exact fun hup => moves_finished (hup ▸ session_of_room? hroom) _
        · intro hlong
          apply feeds_commit (w := ⟨w.state, history''⟩) hroom _ h
          · intro v e _ _ hkept
            apply feeds_of_announcing _ hkept
            refine All.perform_bind trivial fun _ _ => All.perform_bind trivial fun _ _ => ?_
            cases ids[questionIndex - 1]? with
            | none => trivial
            | some questionId => exact (all_perform _).mpr trivial
          · intro hup
            have hindex := hnext hup
            refine .inr ⟨by rw [← hindex]; rfl, fun room' ids' hord => ?_⟩
            obtain rfl := h.one _ _ _ _ ⟨hup, hids⟩ hord
            obtain rfl : ids = ids' := Option.some.inj (hids.symm.trans hord.2)
            change (State.position w.state roomCode).index < ids.length
            omega
  · intro question l w hkept
    cases question with
    | none => exact endGame_feeds room hkept
    | some question =>
      apply feeds_of_announcing _ hkept
      exact All.perform_bind trivial fun _ _ =>
        All.bind (buildQuestionMessage_keeps _ _ _ _ _) fun _ =>
        All.bind (broadcastToRoom_keeps room (by trivial) none) fun _ => (all_perform _).mpr trivial
  · exact fun _ _ _ hkept => hkept

lemma moves_starting {s : State} {g : GameSession} (hg : s.db.sessions.get? roomCode = some g)
    (startedAt : Option Time) :
    Moves roomCode s
      (GameSession.position { g with status := .starting, startedAt := startedAt }) := by
  refine .inl ⟨by rw [State.position_eq hg]; rfl, nofun, ?_⟩
  rintro (h | h) <;> cases h

lemma moves_revealing {s : State} {g : GameSession} (hg : s.db.sessions.get? roomCode = some g)
    (hq : g.status = .question) :
    Moves roomCode s (GameSession.position { g with status := .revealing }) := by
  rw [Moves, State.position_eq hg]
  exact .inl ⟨rfl, nofun, fun _ => .inl hq⟩

lemma buildQuestionEnded_announcing (room : String) (sessionId : UUID) (question : QuizQuestion) :
    Keeps announcing (do
      let (_, ended) ← buildQuestionEnded room sessionId question
      broadcastToRoom room (.questionEnded ended) none) :=
  All.bind (buildQuestionEnded_keeps _ _ _) fun ⟨_, _⟩ => broadcastToRoom_keeps room
    (by trivial) none

lemma questionTimeout_feeds (timer : Timer) (h : Kept roomCode sessionId l w.state) :
    Feeds roomCode sessionId i (Keeping roomCode sessionId Unit)
      (questionTimeout timer.roomCode timer.questionIndex timer.timeLimitMs) l w := by
  apply feeds_read (a := ()) rfl rfl
  intro _
  apply feeds_read (a := w.state.db.room? (Runtime.upper timer.roomCode)) rfl rfl
  intro history
  cases hroom : w.state.db.room? (Runtime.upper timer.roomCode) with
  | none => exact h
  | some loaded =>
    apply Serves.ite
    · exact fun _ => h
    intro _
    apply Serves.ite
    · exact fun _ => h
    intro hstatus
    apply feeds_commit (w := ⟨w.state, history⟩) hroom _ h
    · intro v e _ _ hkept
      apply feeds_of_announcing _ hkept
      refine All.bind (getCurrentQuestion_keeps _) fun q => ?_
      obtain ⟨refreshed, question⟩ := q
      cases question with
      | none => trivial
      | some question => exact buildQuestionEnded_announcing _ _ _
    · exact fun hup => moves_revealing (hup ▸ session_of_room? hroom) (by simpa using hstatus)

abbrev Flows (x : Handler α) : Prop := x.All system.Answers fun o => ∀ s,
    system.Halts Op.rests o s = false

lemma getCurrentQuestion_flows (room : String) : Flows (getCurrentQuestion room) := by
  apply All.perform_bind fun _ => rfl
  intro loaded _
  cases loaded with
  | none => trivial
  | some loaded =>
    refine All.ite (fun _ => trivial) fun _ => All.perform_bind (fun _ => rfl) fun ids _ => ?_
    cases ids with
    | none => trivial
    | some ids =>
      dsimp only
      split
      · exact All.perform_bind (fun _ => rfl) fun _ _ => trivial
      · trivial

lemma submitAnswer_flows (room : String) (playerId : UUID) (questionId : String)
    (answerIds : List String) :
    Flows (submitAnswer room playerId questionId answerIds) := by
  apply All.perform_bind fun _ => rfl
  intro loaded _
  cases loaded with
  | none => trivial
  | some loaded =>
    refine All.require_bind fun _ => All.perform_bind (fun _ => rfl) fun _ _ =>
      All.require_bind fun _ => ?_
    cases Runtime.uuid questionId with
    | none => trivial
    | some submittedQuestionId =>
      refine All.bind (getCurrentQuestion_flows room) fun q => ?_
      obtain ⟨refreshed, question⟩ := q
      cases question with
      | none => trivial
      | some question =>
        refine All.require_bind fun _ => All.perform_bind (fun _ => rfl) fun start _ =>
          All.bind ?_ fun _ =>
          All.perform_bind (fun _ => rfl) fun _ _ => All.bind ?_ fun _ => ?_
        · cases start with
          | none => trivial
          | some start => exact All.perform_bind (fun _ => rfl) fun _ _ => trivial
        · exact All.tryCatch ((all_perform _).mpr fun _ => rfl) fun _ =>
            All.ite (fun _ => All.perform_bind (fun _ => rfl) fun _ _ => trivial) fun _ => trivial
        · exact All.perform_bind (fun _ => rfl) fun _ _ =>
            All.perform_bind (fun _ => rfl) fun _ _ =>
            All.perform_bind (fun _ => rfl) fun _ _ => trivial

lemma getCurrentQuestion_feeds (room : String) :
    Feeds roomCode sessionId i (fun l' r v => l' = l ∧ v.state = w.state ∧
      r = .ok (w.state.db.room? (Runtime.upper room),
        (w.state.db.room? (Runtime.upper room)).bind fun loaded =>
        Submissions.currentQuestion w.state room loaded.session.currentQuestionIndex))
      (getCurrentQuestion room) l w := by
  apply Serves.of_alone (getCurrentQuestion_flows room)
  intro v hv
  have halone := Alone.getCurrentQuestion_alone w.state room
  exact ⟨rfl, hv.trans (congrArg Prod.snd halone), congrArg Prod.fst halone⟩

lemma handleNextQuestion_feeds (room : String) (h : Kept roomCode sessionId l w.state) :
    Feeds roomCode sessionId i (Keeping roomCode sessionId Unit) (handleNextQuestion room) l w := by
  apply feeds_read (a := w.state.db.room? (Runtime.upper room)) rfl rfl
  intro history
  cases hroom : w.state.db.room? (Runtime.upper room) with
  | none => exact h
  | some loaded =>
    have hg := session_of_room? hroom
    apply Serves.ite
    · intro hstatus
      apply Serves.bind (getCurrentQuestion_feeds room)
      · rintro _ _ v ⟨rfl, hv, ⟨⟩⟩
        obtain ⟨state, history⟩ := v
        obtain rfl : state = w.state := hv
        simp only [hroom, Option.bind_some]
        cases Submissions.currentQuestion w.state room loaded.session.currentQuestionIndex with
        | none => exact h
        | some question =>
          apply feeds_commit (w := ⟨w.state, history⟩) hroom _ h
          · intro v e _ _ hkept
            exact feeds_of_announcing (buildQuestionEnded_announcing _ _ _) hkept
          · exact fun hup => moves_revealing (hup ▸ hg) hstatus
      · rintro e _ v ⟨-, -, he⟩
        cases he
    · intro _
      apply Serves.ite
      · exact fun _ => h
      intro _
      apply Serves.ite
      · exact fun _ => endGame_feeds (w := ⟨w.state, history⟩) room h
      · intro _
        apply sendQuestion_feeds (w := ⟨w.state, history⟩) room _ _ _ h
        intro hup
        exact congrArg (fun p => p.index + 1) (State.position_eq (s := w.state) (hup ▸ hg)).symm

lemma questionOrder_feeds (loaded : Room) :
    Feeds roomCode sessionId i (fun l' r v => l' = l ∧ State.db v.state = State.db w.state ∧
      State.redis v.state = State.redis w.state ∧ ∃ questions, r = .ok questions ∧
      questions.Perm loaded.quiz.questions)
      (questionOrder loaded) l w := by
  apply Serves.ite
  · intro _
    apply Serves.perform rfl rfl
    intro v hv
    rw [hv]
    exact ⟨rfl, rfl, rfl, _, rfl, Runtime.shuffle_perm _ _⟩
  · exact fun _ => ⟨rfl, rfl, rfl, _, rfl, sortByPosition_perm _⟩

def Before (roomCode : String) (sessionId : UUID) (room : String) (l : List Accepted)
    (w : system.World) : Prop :=
  Kept roomCode sessionId l w.state ∧
    (Runtime.upper room = roomCode → (State.position w.state roomCode).index = 0)

omit [Runtime] in
lemma questions_of_room? {d : Db} {room : String} {loaded : Room} (h : d.room? room = some loaded) :
    (loaded.quiz.questions.map QuizQuestion.questionId).Nodup ∧
      ∀ id ∈ loaded.quiz.questions.map QuizQuestion.questionId, ∃ q, d.question? id = some q ∧
      q.questionId = id := by
  simp only [Db.room?, Option.bind_eq_some_iff, Option.map_eq_some_iff] at h
  obtain ⟨g, -, quiz, hquiz, rfl⟩ := h
  have hperm := (sortByPosition_perm quiz.questions).map QuizQuestion.questionId
  have hmem := Table.mem_get? hquiz
  constructor
  · have hall := d.quizzes.questionIds_nodup
    rw [List.map_flatMap, List.nodup_flatMap] at hall
    exact hperm.nodup_iff.mpr (hall.1 quiz hmem)
  · exact fun id hid => exists_question hmem (hperm.mem_iff.mp hid)

lemma Kept.unasked {s : State} (h : Kept roomCode sessionId l s) {loaded : Room}
    (hroom : s.db.room? roomCode = some loaded) (hwaiting : loaded.session.status = .waiting)
    {startedAt : Option Time} {e : Db} (he : s.db.commit { session := some ⟨loaded.session,
      { loaded.session with status := .starting, startedAt := startedAt }⟩ } = some e)
    {questions : List QuizQuestion} (hperm : questions.Perm loaded.quiz.questions) :
    Unasked roomCode sessionId { s with db := e } (questions.map QuizQuestion.questionId) := by
  obtain ⟨e', he', hsessions, hquizzes, hplayers, hanswers⟩ := exists_commit_session s.db
    ⟨loaded.session, { loaded.session with status := .starting, startedAt := startedAt }⟩
  obtain rfl : e = e' := Option.some.inj (he.symm.trans he')
  have hg := session_of_room? hroom
  have hcode : loaded.session.roomCode = roomCode := Table.key_get? hg
  have hpos := State.position_eq hg
  obtain ⟨hindex, hunordered, hunanswered⟩ := h.waiting (by rw [hpos]; exact hwaiting)
  obtain ⟨hnodup, hexist⟩ := questions_of_room? hroom
  have hids := hperm.map QuizQuestion.questionId
  refine ⟨?_, hunordered, fun a ha hof => ?_, hids.nodup_iff.mpr hnodup, fun id hid => ?_⟩
  · have hflushed := flushSession_get? (s := ⟨loaded.session,
      { loaded.session with status := .starting, startedAt := startedAt }⟩) (hcode ▸ hg)
    rw [← hsessions, hcode] at hflushed
    have hzero : loaded.session.currentQuestionIndex = 0 := by
      rw [hpos] at hindex
      exact hindex
    rw [State.position_eq hflushed, flush_of_current rfl]
    simp [GameSession.position, hzero]
  · rw [hanswers] at ha
    exact hunanswered a ha ((ofSession_congr (by rw [hplayers])).mp hof)
  · simpa only [Db.question?, hquizzes] using hexist id (hids.mem_iff.mp hid)

lemma startGame_feeds (room : String) (hostId : UUID) (h : Kept roomCode sessionId l w.state) :
    Feeds roomCode sessionId i (fun l' r v => Kept roomCode sessionId l' v.state ∧
      ∀ questions, r = .ok questions → Before roomCode sessionId room l' v)
      (startGame room hostId) l w := by
  have herror : ∀ e : Exn, Kept roomCode sessionId l w.state ∧
      ∀ questions : List QuizQuestion, Except.error e = .ok questions →
        Before roomCode sessionId room l w :=
    fun e => ⟨h, fun _ he => by cases he⟩
  apply feeds_read (a := w.state.db.room? (Runtime.upper room)) rfl rfl
  intro history
  cases hroom : w.state.db.room? (Runtime.upper room) with
  | none => exact herror _
  | some loaded =>
    have hg := session_of_room? hroom
    apply Serves.require_bind (fun _ => ?_) fun _ => herror _
    apply Serves.require_bind (fun hwaiting => ?_) fun _ => herror _
    apply Serves.bind (questionOrder_feeds loaded)
    · rintro questions l' v ⟨rfl, hdb, hredis, _, ⟨⟩, hperm⟩
      have hv : Kept roomCode sessionId l' v.state := h.of_db hdb (congrArg Redis.questions hredis)
      have hroom' : (State.db v.state).room? (Runtime.upper room) = some loaded := by
        rw [hdb]; exact hroom
      have hg' := session_of_room? hroom'
      apply feeds_read (a := State.now v.state) rfl rfl
      intro history'
      apply feeds_commit (w := ⟨v.state, history'⟩) hroom' _ hv
      · intro u e he hu hkept
        apply Serves.perform_bind rfl rfl
        intro u' hu'
        have hunasked : Runtime.upper room = roomCode → Unasked roomCode sessionId u.state
            (questions.map QuizQuestion.questionId) := by
          intro hup
          rw [hu]
          exact hv.unasked (hup ▸ hroom') hwaiting he hperm
        have hkept' : Kept roomCode sessionId l' u'.state := by
          rw [hu']
          exact hkept.ordered hunasked
        refine ⟨hkept', ?_⟩
        rintro _ -
        refine ⟨hkept', fun hup => ?_⟩
        have hposition := (hunasked hup).position
        rw [hu']
        exact congrArg Position.index hposition
      · exact fun hup => moves_starting (hup ▸ hg') _
    · rintro e _ v ⟨-, -, -, questions, he, -⟩
      cases he

lemma Before.of_db {room : String} (h : Before roomCode sessionId room l w) {v : system.World}
    (hdb : State.db v.state = State.db w.state)
    (hq : (State.redis v.state).questions = (State.redis w.state).questions) :
    Before roomCode sessionId room l v :=
  ⟨h.1.of_db hdb hq, fun hup => by rw [State.position_congr hdb]; exact h.2 hup⟩

lemma countdown_feeds (room : String) (ms questionCount : ℕ)
    (h : Before roomCode sessionId room l w) :
    Feeds roomCode sessionId i (fun l' _ v => Before roomCode sessionId room l' v)
      (do
        broadcastToRoom room (.gameStarting ms questionCount) none
        await (.sleep 1000)) l w := by
  have hbroadcast : Feeds roomCode sessionId i (fun l' r v => r = .ok () ∧
    Before roomCode sessionId room l' v)
      (broadcastToRoom room (.gameStarting ms questionCount) none) l w := by
    apply Serves.tryCatch (S := fun l' r v => r = .ok () ∧ Before roomCode sessionId room l' v)
    · apply Serves.perform rfl rfl
      intro v hv
      exact ⟨rfl, h.of_db (by rw [hv]) (by rw [hv])⟩
    · exact fun _ _ _ hs => hs
    · rintro e l' v ⟨he, -⟩
      cases he
  apply hbroadcast.bind
  · rintro _ l' v ⟨-, hv⟩
    apply Serves.perform rfl rfl
    exact fun u hu => hv.of_db (by rw [hu]) (by rw [hu])
  · rintro e l' v ⟨he, -⟩
    cases he

lemma handleStartGame_feeds (room : String) (hostId : UUID)
    (h : Kept roomCode sessionId l w.state) :
    Feeds roomCode sessionId i (Keeping roomCode sessionId Unit)
      (handleStartGame room hostId) l w := by
  apply (startGame_feeds room hostId h).bind
  · rintro questions l' v ⟨-, hv⟩
    apply (Serves.forM (A := Before roomCode sessionId room)
      (fun ms _ _ _ hu => countdown_feeds room ms _ hu)
      (hv questions rfl)).bind
    · intro _ l'' u hu
      apply sendQuestion_feeds room 1 _ _ hu.1
      intro hup
      rw [hu.2 hup]
    · exact fun e l'' u hu => hu.1
  · exact fun e l' v hv => hv.1

lemma hostFrames_feeds (room : String) (hostId : UUID) (frames : List ClientMessage)
    (h : Kept roomCode sessionId l w.state) :
    Feeds roomCode sessionId i (Keeping roomCode sessionId Unit)
      (hostFrames room hostId frames) l w := by
  apply Serves.forM _ h
  intro data _ l w hw
  have hreceive : Feeds roomCode sessionId i (Keeping roomCode sessionId Unit)
      (await .receiveJson) l w :=
    feeds_of_announcing ((all_perform _).mpr trivial) hw
  apply hreceive.bind
  · intro _ l w hw
    apply Serves.tryCatch (S := Keeping roomCode sessionId Unit)
    · cases data with
      | startGame => exact handleStartGame_feeds room hostId hw
      | nextQuestion => exact handleNextQuestion_feeds room hw
      | answer _ _ | malformed => exact hw
    · exact fun _ _ _ hs => hs
    · exact fun e l w hw => feeds_of_announcing (sendToHost_keeps _ _) hw
  · exact fun _ _ _ hs => hs

lemma stored_of_judge {s : State} {c : Submission} {a : GamePlayerAnswer}
    {question : QuizQuestion} {readings : List Time}
    (hj : Submissions.judge s c readings = .ok (a, question)) {g : GameSession}
    (hg : s.db.sessions.get? (Runtime.upper c.roomCode) = some g) {p : GamePlayer}
    (hp : s.db.players.get? c.playerId = some p) (hmember : p.sessionId = g.sessionId) :
    ∃ e, s.db.commit (.answer (s.db.players.get? a.playerId) a) = some e ∧ Stored s a g p e := by
  obtain ⟨room, -, -, -, hstorable, ha⟩ := judge_eq_ok hj
  have hrow : s.db.players.get? a.playerId = some p := by
    rw [ha]
    exact hp
  obtain ⟨e, he, hans, hplay, hses, hq⟩ :=
    Submissions.commit_of_storable (s.db.players.get? a.playerId) hstorable
  refine ⟨e, he, ?_, hrow, hmember, hses, hq, hans, ?_, fun id hne => ?_⟩
  · have hcode : g.roomCode = Runtime.upper c.roomCode := Table.key_get? hg
    rw [hcode]
    exact hg
  · have hsettled := (Submissions.settled_of_commit (Submissions.Own.refl s) hans hplay).player
    rw [hrow] at hsettled
    exact hsettled
  · exact (Submissions.own_of_commit hne hans hplay hses hq).player

lemma Kept.submitted {s t : State} (h : Kept roomCode sessionId l s) (c : Submission)
    {g : GameSession} (hg : s.db.sessions.get? (Runtime.upper c.roomCode) = some g) {p : GamePlayer}
    (hp : s.db.players.get? c.playerId = some p) (hmember : p.sessionId = g.sessionId)
    (ht : t = ((submitAnswer c.roomCode c.playerId c.questionId c.answerIds).alone Game.exec s).2) :
    Kept roomCode sessionId (l ++ (acceptedAnswer (.playerFrame c.roomCode c.playerId
      (.answer c.questionId c.answerIds)) s).toList) t := by
  have halone := Alone.submitAnswer_alone s c
  cases hj : Submissions.judge s c [s.now] with
  | error e =>
    simp only [hj] at halone
    rw [halone] at ht
    subst ht
    simpa only [acceptedAnswer, halone, Option.toList_none, List.append_nil] using h
  | ok v =>
    obtain ⟨a, question⟩ := v
    simp only [hj] at halone
    obtain ⟨e, he, hst⟩ := stored_of_judge hj hg hp hmember
    obtain ⟨loaded, hloaded, hstatus, hcurrent, -, ha⟩ := judge_eq_ok hj
    obtain rfl : g = loaded.session := Option.some.inj (hg.symm.trans (session_of_room? hloaded))
    rw [he, Option.getD_some] at halone
    rw [halone] at ht
    have hcode : loaded.session.roomCode = Runtime.upper c.roomCode := Table.key_get? hg
    have hupdate := hst.update ⟨a.isCorrect, correctAnswerIds question, a.pointsEarned,
      a.timeTakenMs⟩ rfl rfl
    have hid : a.playerId = c.playerId := by rw [ha]; rfl
    have hselected : a.selectedAnswerIds = c.answerIds := by rw [ha]; rfl
    rw [hcode, hid, hselected] at hupdate
    simp only [acceptedAnswer, halone, hloaded, Option.map_some, hupdate, Option.toList_some]
    exact h.answered hst hcode.symm hstatus hcurrent (by rw [ha]; rfl) (by rw [ht])
      (by rw [ht]; rfl)

lemma playerFrame_feeds (room : String) (playerId : UUID) (data : ClientMessage) {s : State}
    (hs : enter (.playerFrame room playerId data) w.state = some s)
    (h : Kept roomCode sessionId l w.state) :
    Feeds roomCode sessionId i (Keeping roomCode sessionId Unit)
      (handlePlayerMessage room playerId data)
      (l ++ (acceptedAnswer (.playerFrame room playerId data) w.state).toList) w := by
  cases data with
  | answer questionId answerIds =>
    obtain ⟨g, hg, p, hp, hmember⟩ : ∃ g, w.state.db.sessions.get? (Runtime.upper room) = some g ∧
        ∃ p, w.state.db.players.get? playerId = some p ∧ p.sessionId = g.sessionId := by
      simp only [enter] at hs
      split at hs
      · next hadmitted =>
        obtain ⟨g, hg, p, hp, hmember⟩ := hadmitted
        exact ⟨g, hg, p, hp, hmember⟩
      · cases hs
    apply Serves.tryCatch (S := Keeping roomCode sessionId Unit) _ (fun _ _ _ hs => hs)
    · exact fun e l w hw => feeds_of_announcing (sendToPlayer_keeps _ _) hw
    apply Serves.tryCatch (S := Keeping roomCode sessionId Unit) _ (fun _ _ _ hs => hs)
    · exact fun e l w hw => feeds_of_announcing (answerRejected_keeps _ _) hw
    apply Serves.bind (S := fun l' _ v => Kept roomCode sessionId l' v.state)
    · apply Serves.of_alone (submitAnswer_flows _ _ _ _)
      exact fun v hv => h.submitted ⟨room, playerId, questionId, answerIds⟩ hg hp hmember hv
    · exact fun result l w hw => feeds_of_announcing (answerAccepted_keeps _ _ _ _) hw
    · exact fun _ _ _ hs => hs
  | startGame | nextQuestion | malformed =>
    simp only [acceptedAnswer, Option.toList_none, List.append_nil]
    exact feeds_of_keeps (handlePlayerMessage_keeps _ _ _) (fun _ => False.elim) (fun _ _ => id) h

lemma code_feeds (call : Call) {s : State} (hs : enter call w.state = some s)
    (h : Kept roomCode sessionId l w.state) :
    Feeds roomCode sessionId i (Keeping roomCode sessionId Unit) (code call)
      (l ++ (acceptedAnswer call w.state).toList) { w with state := s } := by
  obtain ⟨hdb, hredis, -⟩ := enter_eq_some hs
  have hk : Kept roomCode sessionId l s := h.of_db hdb (by rw [hredis])
  cases call with
  | playerFrame room playerId data =>
    have hstate : s = w.state := by
      simp only [enter] at hs
      split at hs <;> cases hs
      rfl
    subst hstate
    exact playerFrame_feeds room playerId data hs h
  | hostFrames room hostId frames =>
    simp only [acceptedAnswer, Option.toList_none, List.append_nil]
    exact hostFrames_feeds room hostId frames hk
  | questionTimeout timer =>
    simp only [acceptedAnswer, Option.toList_none, List.append_nil]
    exact questionTimeout_feeds timer hk
  | joinRoom | playerEndpoint | hostEndpoint | subscriber | delivery =>
    simp only [acceptedAnswer, Option.toList_none, List.append_nil]
    apply feeds_of_keeps (code_keeps _) _ (fun _ _ => id) hk
    intro changes hc
    first
    | exact hc.elim
    | obtain ⟨p, rfl⟩ := hc
      exact ⟨rfl, rfl, rfl⟩
    | obtain ⟨p, -, rfl⟩ := hc
      exact ⟨rfl, rfl, rfl⟩

end Handlers

end LiveFeed

end

end Askit.Game

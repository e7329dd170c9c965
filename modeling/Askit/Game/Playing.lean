import Askit.Game.Starting

/-! What the host's frames do when nothing else happens. -/

namespace Askit.Game

open Interleaving Machine Coro Tables

section

variable [Runtime]

namespace Stranded

variable {roomCode code : String}

section Playing

/-- The room's quiz is being played, its order is stored under `code`, and the room stands at
`p`. -/
structure Plays (roomCode code : String) (quiz : Quiz) (p : Position) (s : State) : Prop where
  session : ∃ g, s.db.sessions.get? (Runtime.upper roomCode) = some g ∧ g.quizId = quiz.quizId ∧
    g.position = p
  stored : s.db.quizzes.table.get? quiz.quizId = some quiz
  order : ∃ ids, s.redis.questions code = some ids ∧
    ids.Perm (quiz.questions.map QuizQuestion.questionId)

structure Still (s t : State) : Prop where
  db : t.db = s.db
  questions : t.redis.questions = s.redis.questions

def calm : Footprint :=
  ⟨fun _ => False, fun _ _ => False, fun _ _ => True, fun _ => True, True, True, True, True⟩

variable {quiz : Quiz} {p : Position} {s t u : State} {hostId : UUID}

omit [Runtime] in
lemma Still.refl (s : State) : Still s s := ⟨rfl, rfl⟩

omit [Runtime] in
lemma Still.trans (h : Still s t) (h' : Still t u) : Still s u :=
  ⟨h'.db.trans h.db, h'.questions.trans h.questions⟩

omit [Runtime] in
lemma announces_calm (code : String) (message : Frame) : calm.Announces code message := by
  cases message <;> trivial

lemma still_exec {β : Type} {o : Op β} (ho : o.Within calm) (s : State) : Still s (exec o s).2 := by
  cases o with
  | commit | setQuestions => exact ho.elim
  | listen code => constructor <;> (simp only [exec]; split <;> rfl)
  | _ => exact ⟨rfl, rfl⟩

lemma still_alone {α : Type} {x : Handler α} (hx : Keeps calm x) (s : State) :
    Still s (x.alone exec s).2 :=
  alone_of_all (V := system.Answers) (fun _ s _ h => ⟨s, h⟩)
    (fun _ _ ho hs => hs.trans (still_exec ho _)) hx
    (Still.refl s)

lemma Plays.still (h : Plays roomCode code quiz p s) (hs : Still s t) :
    Plays roomCode code quiz p t := by
  obtain ⟨hdb, hquestions⟩ := hs
  obtain ⟨hsession, hstored, horder⟩ := h
  rw [← hdb] at hsession hstored
  rw [← hquestions] at horder
  exact ⟨hsession, hstored, horder⟩

lemma finished_of_still (h : Finished roomCode s) (hs : Still s t) : Finished roomCode t := by
  rw [Finished, State.position_congr hs.db]
  exact h

lemma Plays.room (h : Plays roomCode code quiz p s)
    (hcode : Runtime.upper code = Runtime.upper roomCode) :
    ∃ g players, s.db.sessions.get? (Runtime.upper roomCode) = some g ∧ g.quizId = quiz.quizId ∧
    g.position = p ∧
      g.roomCode = Runtime.upper roomCode ∧
      s.db.room? (Runtime.upper code) = some ⟨g, players, quiz.loaded⟩ := by
  obtain ⟨g, hg, hquiz, hp⟩ := h.session
  exact ⟨g, _, hg, hquiz, hp, Table.key_get? hg, hcode ▸ room?_eq hg (hquiz ▸ h.stored)⟩

lemma Plays.question (h : Plays roomCode code quiz p s) {ids : List UUID}
    (hids : s.redis.questions code = some ids) {k : ℕ} (hk : k < quiz.questions.length) :
    ∃ id question, ids[k]? = some id ∧ s.db.question? id = some question := by
  obtain ⟨ids', hids', hperm⟩ := h.order
  obtain rfl : ids' = ids := Option.some.inj (hids'.symm.trans hids)
  have hlen : ids'.length = quiz.questions.length := by simpa using hperm.length_eq
  obtain ⟨id, hid⟩ : ∃ id, ids'[k]? = some id := ⟨_, List.getElem?_eq_getElem (hlen ▸ hk)⟩
  obtain ⟨q, hq, -⟩ := exists_question (Table.mem_get? h.stored)
    (hperm.subset (List.mem_of_getElem? hid))
  exact ⟨id, q, hid, hq⟩

lemma alone_next {α β : Type} {o : Op α} {f : α → Handler β} {a : α} {A : State → Prop}
    (h : exec o s = (.ok a, t)) (hf : A ((f a).alone exec t).2) :
    A ((await o >>= f).alone exec s).2 := by
  rw [alone_perform_bind h]
  exact hf

lemma exists_commit {g : GameSession} (cur : GameSession)
    (hg : s.db.sessions.get? (Runtime.upper roomCode) = some g) (hquiz : g.quizId = quiz.quizId)
    (hstored : s.db.quizzes.table.get? quiz.quizId = some quiz) :
    ∃ t, exec (.commit { session := some ⟨g, cur⟩ }) s = (.ok (), t) ∧
      (∃ row, t.db.sessions.get? (Runtime.upper roomCode) = some row ∧ row.quizId = quiz.quizId ∧
        row.position = cur.position) ∧
      t.db.quizzes.table.get? quiz.quizId = some quiz ∧ t.redis = s.redis := by
  have hkey : g.roomCode = Runtime.upper roomCode := Table.key_get? hg
  refine ⟨_, rfl, ⟨GameSession.flush ⟨g, cur⟩ g, ?_, hquiz, flush_of_current rfl⟩, hstored, rfl⟩
  exact hkey ▸ flushSession_get? (s := ⟨g, cur⟩) (hkey.symm ▸ hg)

lemma Plays.commit (h : Plays roomCode code quiz p s) {g : GameSession}
    (hg : s.db.sessions.get? (Runtime.upper roomCode) = some g) (cur : GameSession) :
    ∃ t, exec (.commit { session := some ⟨g, cur⟩ }) s = (.ok (), t) ∧
      Plays roomCode code quiz cur.position t ∧
      t.redis = s.redis := by
  obtain ⟨g', hg', hquiz, -⟩ := h.session
  obtain rfl : g' = g := Option.some.inj (hg'.symm.trans hg)
  obtain ⟨t, ht, hrow, hstored, hredis⟩ := exists_commit cur hg hquiz h.stored
  exact ⟨t, ht, ⟨hrow, hstored, hredis ▸ h.order⟩, hredis⟩

lemma Plays.position (h : Plays roomCode code quiz p s) :
    s.position (Runtime.upper roomCode) = p := by
  obtain ⟨g, hg, -, hp⟩ := h.session
  exact (State.position_eq hg).trans hp

lemma Plays.finished (h : Plays roomCode code quiz p s) (hp : p.status = .finished) :
    Finished roomCode s := by
  rw [Finished, h.position]
  exact hp

lemma endGame_finishes (h : Plays roomCode code quiz p s)
    (hcode : Runtime.upper code = Runtime.upper roomCode) :
    Finished roomCode ((endGame code).alone exec s).2 := by
  obtain ⟨g, players, hg, -, -, -, hroom⟩ := h.room hcode
  have hread : exec (.getRoom code) s = (.ok (some ⟨g, players, quiz.loaded⟩), s) := by
    simp [exec, hroom]
  apply alone_next hread
  apply alone_next (o := .now) rfl
  obtain ⟨t, ht, hplays, -⟩ := h.commit hg { g with status := .finished, endedAt := some s.now }
  apply alone_next ht
  refine finished_of_still (hplays.finished rfl) (still_alone ?_ t)
  apply All.bind (buildGameFinished_keeps code)
  rintro (_ | ⟨room, finished⟩)
  · trivial
  · exact All.bind (announceFinished_keeps _ _ _) fun _ => (all_perform _).mpr trivial

lemma advanceToQuestion_asks (h : Plays roomCode code quiz p s)
    (hcode : Runtime.upper code = Runtime.upper roomCode) {k : ℕ} (hk : 1 ≤ k)
    (hn : k ≤ quiz.questions.length) :
    ∃ question t, (advanceToQuestion code k).alone exec s = (.ok (some question), t) ∧
      Plays roomCode code quiz ⟨.question, k⟩ t := by
  obtain ⟨g, players, hg, -, -, -, hroom⟩ := h.room hcode
  obtain ⟨ids, hids, hperm⟩ := h.order
  have hlen : ids.length = quiz.questions.length := by simpa using hperm.length_eq
  obtain ⟨t, ht, hplays, hredis⟩ :=
    h.commit hg { g with status := .question, currentQuestionIndex := k }
  obtain ⟨id, question, hid, hquestion⟩ := hplays.question (hredis.symm ▸ hids)
    (k := k - 1) (by omega)
  have hread : exec (.getRoom code) s = (.ok (some ⟨g, players, quiz.loaded⟩), s) := by
    simp [exec, hroom]
  have horder : exec (.getQuestions code) s = (.ok (some ids), s) := by simp [exec, hids]
  refine ⟨question, { t with redis := t.redis.setQuestionStart code (some t.now) }, ?_,
    hplays.still ⟨rfl, rfl⟩⟩
  apply (alone_perform_bind hread).trans
  apply (alone_perform_bind horder).trans
  apply (alone_perform_bind (o := Op.expireQuestions code sessionKeyTtl) rfl).trans
  rw [if_neg (by omega)]
  apply (alone_perform_bind ht).trans
  apply (alone_perform_bind (o := Op.now) rfl).trans
  apply (alone_perform_bind (o := Op.setQuestionStart code t.now 600) rfl).trans
  rw [hid]
  simp [exec, hquestion]

lemma advanceToQuestion_ends (h : Plays roomCode code quiz p s)
    (hcode : Runtime.upper code = Runtime.upper roomCode) {k : ℕ} (hn : quiz.questions.length < k) :
    ∃ t, (advanceToQuestion code k).alone exec s = (.ok none, t) ∧ Plays roomCode code quiz
      ⟨.finished, p.index⟩ t := by
  obtain ⟨g, players, hg, -, hp, -, hroom⟩ := h.room hcode
  obtain ⟨ids, hids, hperm⟩ := h.order
  have hlen : ids.length = quiz.questions.length := by simpa using hperm.length_eq
  obtain ⟨t, ht, hplays, -⟩ := h.commit hg { g with status := .finished, endedAt := some s.now }
  have hread : exec (.getRoom code) s = (.ok (some ⟨g, players, quiz.loaded⟩), s) := by
    simp [exec, hroom]
  have horder : exec (.getQuestions code) s = (.ok (some ids), s) := by simp [exec, hids]
  refine ⟨t, ?_, hp ▸ hplays⟩
  apply (alone_perform_bind hread).trans
  apply (alone_perform_bind horder).trans
  apply (alone_perform_bind (o := Op.expireQuestions code sessionKeyTtl) rfl).trans
  rw [if_pos (by omega)]
  apply (alone_perform_bind (o := Op.now) rfl).trans
  exact alone_perform_bind ht

lemma alone_after {α β : Type} {x : Handler α} {f : α → Handler β} {a : α} {A : State → Prop}
    (h : x.alone exec s = (.ok a, t)) (hf : A ((f a).alone exec t).2) :
    A ((x >>= f).alone exec s).2 := by
  rw [alone_bind_ok h]
  exact hf

lemma sendQuestion_asks (h : Plays roomCode code quiz p s)
    (hcode : Runtime.upper code = Runtime.upper roomCode) {k : ℕ} (hk : 1 ≤ k)
    (hn : k ≤ quiz.questions.length) (total : ℕ) :
    Plays roomCode code quiz ⟨.question, k⟩ ((sendQuestion code k total).alone exec s).2 := by
  obtain ⟨question, t, ht, hplays⟩ := advanceToQuestion_asks h hcode hk hn
  apply alone_after ht
  apply hplays.still
  apply still_alone
  apply All.perform_bind (by trivial)
  intro room _
  apply All.bind (buildQuestionMessage_keeps _ _ _ _ _)
  intro message
  exact All.bind (broadcastToRoom_keeps code (announces_calm _ _) none) fun _ =>
    (all_perform _).mpr trivial

lemma sendQuestion_ends (h : Plays roomCode code quiz p s)
    (hcode : Runtime.upper code = Runtime.upper roomCode) {k : ℕ} (hn : quiz.questions.length < k)
    (total : ℕ) :
    Finished roomCode ((sendQuestion code k total).alone exec s).2 := by
  obtain ⟨t, ht, hplays⟩ := advanceToQuestion_ends h hcode hn
  exact alone_after ht (endGame_finishes hplays hcode)

lemma handleNextQuestion_closes {i : ℕ} (h : Plays roomCode code quiz ⟨.question, i⟩ s)
    (hcode : Runtime.upper code = Runtime.upper roomCode) (hi : 1 ≤ i)
    (hn : i ≤ quiz.questions.length) :
    Plays roomCode code quiz ⟨.revealing, i⟩ ((handleNextQuestion code).alone exec s).2 := by
  obtain ⟨g, players, hg, -, hp, -, hroom⟩ := h.room hcode
  obtain ⟨ids, hids, -⟩ := h.order
  obtain ⟨id, question, hid, hquestion⟩ := h.question hids (k := i - 1) (by omega)
  obtain ⟨hstatus, hindex⟩ := Position.mk.inj hp
  have hread : exec (.getRoom code) s = (.ok (some ⟨g, players, quiz.loaded⟩), s) := by
    simp [exec, hroom]
  have hcurrent : (getCurrentQuestion code).alone exec s =
      (.ok (some ⟨g, players, quiz.loaded⟩, some question), s) := by
    rw [Alone.getCurrentQuestion_alone, hroom]
    have hi : i ≠ 0 := by omega
    simp [Submissions.currentQuestion, hindex, hi, hids, hid, hquestion]
  apply alone_next hread
  dsimp only
  rw [if_pos hstatus]
  apply alone_after hcurrent
  obtain ⟨t, ht, hplays, -⟩ := h.commit hg { g with status := .revealing }
  apply alone_next ht
  have hpos : Plays roomCode code quiz ⟨.revealing, i⟩ t := hindex ▸ hplays
  apply hpos.still
  apply still_alone
  exact All.bind (buildQuestionEnded_keeps _ _ _) fun _ => broadcastToRoom_keeps code
    (announces_calm _ _) none

lemma handleNextQuestion_asks {i : ℕ} (h : Plays roomCode code quiz ⟨.revealing, i⟩ s)
    (hcode : Runtime.upper code = Runtime.upper roomCode) (hn : i < quiz.questions.length) :
    Plays roomCode code quiz ⟨.question, i + 1⟩ ((handleNextQuestion code).alone exec s).2 := by
  obtain ⟨g, players, hg, -, hp, -, hroom⟩ := h.room hcode
  obtain ⟨hstatus, hindex⟩ := Position.mk.inj hp
  have hread : exec (.getRoom code) s = (.ok (some ⟨g, players, quiz.loaded⟩), s) := by
    simp [exec, hroom]
  have hcount : quiz.loaded.questions.length = quiz.questions.length :=
    (sortByPosition_perm _).length_eq
  apply alone_next hread
  dsimp only
  rw [if_neg (by simp [hstatus]), if_neg (by simp [hstatus]), hindex, if_neg (by omega)]
  exact sendQuestion_asks h hcode (by omega) (by omega) _

lemma handleNextQuestion_ends {i : ℕ} (h : Plays roomCode code quiz ⟨.revealing, i⟩ s)
    (hcode : Runtime.upper code = Runtime.upper roomCode) (hn : quiz.questions.length ≤ i) :
    Finished roomCode ((handleNextQuestion code).alone exec s).2 := by
  obtain ⟨g, players, hg, -, hp, -, hroom⟩ := h.room hcode
  obtain ⟨hstatus, hindex⟩ := Position.mk.inj hp
  have hread : exec (.getRoom code) s = (.ok (some ⟨g, players, quiz.loaded⟩), s) := by
    simp [exec, hroom]
  have hcount : quiz.loaded.questions.length = quiz.questions.length :=
    (sortByPosition_perm _).length_eq
  apply alone_next hread
  dsimp only
  rw [if_neg (by simp [hstatus]), if_neg (by simp [hstatus]), hindex, if_pos (by omega)]
  exact endGame_finishes h hcode

lemma broadcastToRoom_alone (code : String) (message : Frame) (s : State) :
    ∃ t, (broadcastToRoom code message none).alone exec s = (.ok (), t) ∧ Still s t := by
  refine ⟨_, ?_, still_exec (o := .publish code ⟨message, none⟩) (announces_calm code message) s⟩
  change (tryCatch (await (.publish code ⟨message, none⟩)) _ : Handler Unit).alone exec s = _
  rw [alone_tryCatch, alone_perform]
  rfl

lemma countdown_alone (code : String) (count : ℕ) (delays : List ℕ) (s : State) :
    ∃ t, (delays.forM fun ms => do
      broadcastToRoom code (.gameStarting ms count) none
      await (.sleep 1000) : Handler Unit).alone exec s = (.ok (), t) ∧ Still s t := by
  induction delays generalizing s with
  | nil => exact ⟨s, rfl, Still.refl s⟩
  | cons ms delays ih =>
    obtain ⟨t, ht, hst⟩ := broadcastToRoom_alone code (.gameStarting ms count) s
    obtain ⟨u, hu, htu⟩ := ih t
    refine ⟨u, ?_, hst.trans htu⟩
    apply (alone_bind_ok (a := ()) (t := t) ?_).trans hu
    exact (alone_bind_ok ht).trans rfl

lemma questionOrder_alone (room : Room) (s : State) :
    ∃ questions t, (questionOrder room).alone exec s = (.ok questions, t) ∧ Still s t ∧
      questions.Perm room.quiz.questions := by
  unfold questionOrder
  split
  · exact ⟨_, _, rfl, ⟨rfl, rfl⟩, Runtime.shuffle_perm _ _⟩
  · exact ⟨_, _, rfl, ⟨rfl, rfl⟩, sortByPosition_perm _⟩

lemma startGame_alone {g : GameSession} (hcode : Runtime.upper code = Runtime.upper roomCode)
    (hg : s.db.sessions.get? (Runtime.upper roomCode) = some g) (hquiz : g.quizId = quiz.quizId)
    (hstored : s.db.quizzes.table.get? quiz.quizId = some quiz) (hwaiting : g.status = .waiting) :
    ∃ questions t, (startGame code g.hostId).alone exec s = (.ok questions, t) ∧
      Plays roomCode code quiz ⟨.starting, g.currentQuestionIndex⟩ t := by
  obtain ⟨players, hroom⟩ : ∃ players, s.db.room? (Runtime.upper code) = some
      ⟨g, players, quiz.loaded⟩ :=
    ⟨_, hcode ▸ room?_eq hg (hquiz ▸ hstored)⟩
  have hread : exec (.getRoom code) s = (.ok (some ⟨g, players, quiz.loaded⟩), s) := by
    simp [exec, hroom]
  obtain ⟨questions, s₁, horder, ⟨hdb, -⟩, hperm⟩ := questionOrder_alone ⟨g, players, quiz.loaded⟩ s
  rw [← hdb] at hg hstored
  obtain ⟨t, ht, hrow, hstored', -⟩ :=
    exists_commit { g with status := .starting, startedAt := some s₁.now } hg
    hquiz hstored
  refine ⟨questions, { t with
      redis := t.redis.setQuestions code (some (questions.map QuizQuestion.questionId)) }, ?_,
    ⟨hrow, hstored', _, Function.update_self .., ?_⟩⟩
  · apply (alone_perform_bind hread).trans
    rw [alone_require_bind, if_pos rfl, alone_require_bind, if_pos hwaiting]
    apply (alone_bind_ok horder).trans
    apply (alone_perform_bind (o := Op.now) rfl).trans
    apply (alone_perform_bind ht).trans
    rfl
  · exact (hperm.trans (sortByPosition_perm _)).map _

/-- A question of the quiz, of `n` questions, is running or has been closed. -/
def Asked (n : ℕ) (p : Position) : Prop :=
  (p.status = .question ∨ p.status = .revealing) ∧ 1 ≤ p.index ∧ p.index ≤ n

omit [Runtime] in
lemma Asked.rank_le {n : ℕ} (h : Asked n p) : p.rank ≤ 2 * n + 1 := by
  obtain ⟨status, i⟩ := p
  obtain ⟨rfl | rfl, -, hn⟩ := h <;> simp only [Position.rank] at * <;> omega

def Underway (roomCode code : String) (quiz : Quiz) (rank : ℕ) (s : State) : Prop :=
  Finished roomCode s ∨ ∃ p, Plays roomCode code quiz p s ∧
    Asked quiz.questions.length p ∧ rank ≤ p.rank

lemma Underway.still {rank : ℕ} (h : Underway roomCode code quiz rank s) (hs : Still s t) :
    Underway roomCode code quiz rank t := by
  rcases h with h | ⟨p, h, hp⟩
  · exact .inl (finished_of_still h hs)
  · exact .inr ⟨p, h.still hs, hp⟩

lemma handleStartGame_alone {g : GameSession} (hcode : Runtime.upper code = Runtime.upper roomCode)
    (hg : s.db.sessions.get? (Runtime.upper roomCode) = some g) (hquiz : g.quizId = quiz.quizId)
    (hstored : s.db.quizzes.table.get? quiz.quizId = some quiz) (hwaiting : g.status = .waiting) :
    Underway roomCode code quiz 0 ((handleStartGame code g.hostId).alone exec s).2 := by
  obtain ⟨questions, t, ht, hplays⟩ := startGame_alone hcode hg hquiz hstored hwaiting
  apply alone_after ht
  obtain ⟨u, hu, htu⟩ := countdown_alone code questions.length [3000, 2000, 1000] t
  apply alone_after hu
  by_cases hn : 1 ≤ quiz.questions.length
  · exact .inr ⟨_, sendQuestion_asks (hplays.still htu) hcode le_rfl hn _, ⟨.inl rfl, le_rfl, hn⟩,
      Nat.zero_le _⟩
  · exact .inl (sendQuestion_ends (hplays.still htu) hcode (by omega) _)

lemma handleNextQuestion_alone (h : Plays roomCode code quiz p s)
    (hcode : Runtime.upper code = Runtime.upper roomCode) (hp : Asked quiz.questions.length p) :
    Underway roomCode code quiz (p.rank + 1) ((handleNextQuestion code).alone exec s).2 := by
  obtain ⟨status, i⟩ := p
  obtain ⟨rfl | rfl, hi, hn⟩ := hp
  · exact .inr ⟨_, handleNextQuestion_closes h hcode hi hn, ⟨.inr rfl, hi, hn⟩, le_rfl⟩
  · by_cases hlast : i < quiz.questions.length
    · refine .inr ⟨_, handleNextQuestion_asks h hcode hlast, ⟨.inl rfl, by simp, hlast⟩, ?_⟩
      simp only [Position.rank]
      omega
    · exact .inl (handleNextQuestion_ends h hcode (by omega))

lemma sendToHost_alone (message : Frame) (s : State) :
    ∃ t, (sendToHost code message).alone exec s = (.ok (), t) ∧ Still s t := by
  refine ⟨s, ?_, Still.refl s⟩
  apply (alone_perform_bind (o := Op.hostSocket code) (t := s)
    (a := s.registry.hosts code) rfl).trans
  cases s.registry.hosts code with
  | none => rfl
  | some websocket =>
    change (tryCatch (await (.sendJson websocket message)) _ : Handler Unit).alone exec s = _
    rw [alone_tryCatch, alone_perform]
    rfl

lemma handleHostMessage_alone {hostId : UUID} {data : ClientMessage} {x : Handler Unit}
    (hx : handleHostMessage code hostId data = tryCatch x fun _ => sendToHost code handlerError)
    (s : State) :
    ∃ t, (handleHostMessage code hostId data).alone exec s = (.ok (), t) ∧
    Still (x.alone exec s).2 t := by
  rw [hx, alone_tryCatch]
  rcases x.alone exec s with ⟨e | u, t⟩
  · exact sendToHost_alone handlerError t
  · exact ⟨t, rfl, Still.refl t⟩

lemma hostFrames_alone (code : String) (hostId : UUID) (data : ClientMessage) {x : Handler Unit}
    (hx : handleHostMessage code hostId data = tryCatch x fun _ => sendToHost code handlerError)
    (s : State) :
    ∃ t, Still (x.alone exec s).2 t ∧ ∀ frames,
    (hostFrames code hostId (data :: frames)).alone exec s =
      (hostFrames code hostId frames).alone exec t := by
  obtain ⟨t, ht, hstill⟩ := handleHostMessage_alone hx s
  refine ⟨t, hstill, fun frames => ?_⟩
  apply alone_bind_ok (a := ())
  exact (alone_perform_bind (o := Op.receiveJson) (t := s) (a := ()) rfl).trans ht

lemma exists_frames {rank : ℕ} (hostId : UUID) (h : Underway roomCode code quiz rank s)
    (hcode : Runtime.upper code = Runtime.upper roomCode) :
    ∃ frames, (∀ data ∈ frames, data = .nextQuestion) ∧
    frames.length ≤ 2 * quiz.questions.length + 2 - rank ∧
      Finished roomCode ((hostFrames code hostId frames).alone exec s).2 := by
  induction hm : 2 * quiz.questions.length + 2 - rank generalizing rank s with
  | zero =>
    rcases h with h | ⟨p, -, hp, hrank⟩
    · exact ⟨[], by simp, by simp, h⟩
    · have hle := hp.rank_le
      omega
  | succ m ih =>
    rcases h with h | ⟨p, h, hp, hrank⟩
    · exact ⟨[], by simp, by simp, h⟩
    · have hle := hp.rank_le
      obtain ⟨t, hstill, ht⟩ := hostFrames_alone code hostId .nextQuestion rfl s
      have hnext := (handleNextQuestion_alone h hcode hp).still hstill
      have hnext' : Underway roomCode code quiz (rank + 1) t :=
        hnext.imp id fun ⟨q, hq, hasked, hle⟩ => ⟨q, hq, hasked, by omega⟩
      obtain ⟨frames, hframes, hlen, hfinished⟩ := ih hnext' (by omega)
      refine ⟨.nextQuestion :: frames, by simpa using hframes, by simpa using hlen, ?_⟩
      rw [ht]
      exact hfinished

end Playing

end Stranded

end

end Askit.Game

import Askit.Game.Feeds

/-! An accepted answer extends both feeds by the same entry. -/

namespace Askit.Game

open Interleaving Machine Coro Tables

section

variable [Runtime]

namespace LiveFeed

section Kept

variable (roomCode : String) (sessionId : UUID)
variable {roomCode sessionId} {l : List Accepted} {s t : State}

lemma judge_eq_ok {c : Submission} {readings : List Time} {a : GamePlayerAnswer}
    {question : QuizQuestion} (h : Submissions.judge s c readings = .ok (a, question)) :
    ∃ room, s.db.room? (Runtime.upper c.roomCode) = some room ∧ room.session.status = .question ∧
      Submissions.currentQuestion s c.roomCode room.session.currentQuestionIndex = some question ∧
      Submissions.Storable s.db a ∧ a = Submissions.judgedRecord s c question readings := by
  grind [Submissions.judge]

structure Stored (s : State) (a : GamePlayerAnswer) (g : GameSession) (p : GamePlayer) (e : Db) :
    Prop where
  session : s.db.sessions.get? g.roomCode = some g
  player : s.db.players.get? a.playerId = some p
  member : p.sessionId = g.sessionId
  sessions : e.sessions = s.db.sessions
  quizzes : e.quizzes = s.db.quizzes
  answers : s.db.answers.insert a = some e.answers
  scored : e.players.get? a.playerId = some { p with score := p.score + a.pointsEarned }
  others : ∀ id ≠ a.playerId, e.players.get? id = s.db.players.get? id

section Stored

omit [Runtime]

variable {a : GamePlayerAnswer} {g : GameSession} {p : GamePlayer} {e : Db}

def entry (a : GamePlayerAnswer) (p : GamePlayer) : WSHostAnswerUpdate :=
  ⟨a.playerId, p.nickname, a.isCorrect, a.selectedAnswerIds, a.timeTakenMs,
    p.score + a.pointsEarned⟩

lemma Stored.update (h : Stored s a g p e) (result : WSAnswerResult)
    (hcorrect : result.isCorrect = a.isCorrect) (htime : result.timeTakenMs = a.timeTakenMs) :
    (e.room? g.roomCode).bind (hostAnswerUpdate a.playerId a.selectedAnswerIds result) =
      some (entry a p) := by
  have hg : e.sessions.get? g.roomCode = some g := by rw [h.sessions]; exact h.session
  obtain ⟨quiz, hquiz, hid⟩ := List.mem_map.mp (e.quizId_fk g (Table.mem_get? hg))
  have hroom := room?_eq hg (hid ▸ Table.get?_of_mem hquiz)
  have hloaded : ((e.playersOf g.sessionId).find? fun q => q.playerId = a.playerId) =
      some { p with score := p.score + a.pointsEarned } := by
    refine (Submissions.loaded_eq e g.sessionId a.playerId).trans ?_
    rw [h.scored, Option.filter_some, if_pos (by simpa using h.member)]
  rw [hroom, Option.bind_some, hostAnswerUpdate, hloaded, Option.map_some, hcorrect, htime]
  rfl

lemma detail_eq_none {d : Db} {questionId : UUID} {r : GamePlayerAnswer}
    (h : r.questionId = questionId → ∀ q ∈ d.players.get? r.playerId, q.sessionId ≠ sessionId) :
    detail d sessionId questionId r = none := by
  cases hd : detail d sessionId questionId r with
  | none => rfl
  | some u =>
    obtain ⟨hq, q, hrow, hsession⟩ := ofSession_of_detail hd
    exact absurd hsession (h hq q hrow)

lemma Stored.details (h : Stored s a g p e) :
    LiveFeed.details e g.sessionId a.questionId = LiveFeed.details s.db g.sessionId a.questionId ++
      [entry a p] := by
  have hnew : detail e g.sessionId a.questionId a = some (entry a p) := by
    simp only [detail, if_true, h.scored, Option.filter_some, h.member, decide_true,
      Option.map_some, entry]
    rw [Table.key_get? h.player]
  have hold : ∀ r ∈ s.db.answers.rows, detail e g.sessionId a.questionId r =
      detail s.db g.sessionId a.questionId r := by
    intro r hr
    by_cases hq : r.questionId = a.questionId
    · apply detail_congr
      rw [h.others]
      intro hid
      have hkey : r.key = a.key := by rw [GamePlayerAnswer.key, GamePlayerAnswer.key, hid, hq]
      exact Table.fresh_of_insert h.answers (hkey ▸ List.mem_map_of_mem hr)
    · rw [detail_eq_none fun heq => absurd heq hq, detail_eq_none fun heq => absurd heq hq]
  rw [LiveFeed.details, Table.rows_insert h.answers, List.filterMap_append,
    List.filterMap_congr hold]
  simp [hnew, LiveFeed.details]

lemma Stored.details_of_ne (h : Stored s a g p e) (hne : g.sessionId ≠ sessionId)
    (questionId : UUID) :
    LiveFeed.details e sessionId questionId = LiveFeed.details s.db sessionId questionId := by
  have hscored : ∀ q ∈ e.players.get? a.playerId, q.sessionId ≠ sessionId := by
    rw [h.scored]
    rintro _ ⟨⟩
    exact fun hs => hne (h.member.symm.trans hs)
  have hbefore : ∀ q ∈ s.db.players.get? a.playerId, q.sessionId ≠ sessionId := by
    rw [h.player]
    rintro _ ⟨⟩
    exact fun hs => hne (h.member.symm.trans hs)
  have hold : ∀ r ∈ s.db.answers.rows, detail e sessionId questionId r =
      detail s.db sessionId questionId r := by
    intro r _
    by_cases hid : r.playerId = a.playerId
    · rw [detail_eq_none fun _ => hid ▸ hscored, detail_eq_none fun _ => hid ▸ hbefore]
    · apply detail_congr
      rw [h.others _ hid]
  rw [LiveFeed.details, Table.rows_insert h.answers, List.filterMap_append,
    List.filterMap_congr hold]
  simp [detail_eq_none fun _ => hscored, LiveFeed.details]

end Stored

section Answered

variable {a : GamePlayerAnswer} {g : GameSession} {p : GamePlayer} {e : Db}

omit [Runtime] in
lemma Stored.ofSession (h : Stored s a g p e) (r : GamePlayerAnswer) :
    OfSession e sessionId r ↔ OfSession s.db sessionId r := by
  unfold OfSession
  by_cases hid : r.playerId = a.playerId
  · simp [hid, h.scored, h.player]
  · rw [h.others _ hid]

omit [Runtime] in
lemma Stored.ofSession_self (h : Stored s a g p e) : OfSession s.db sessionId a ↔
    g.sessionId = sessionId := by
  simp [OfSession, h.player, h.member]

omit [Runtime] in
lemma updatesOf_concat (index : ℕ) (x : Accepted) : updatesOf sessionId index (l ++ [x]) =
    updatesOf sessionId index l ++
      if x.sessionId = sessionId ∧ x.questionIndex = index then [x.update] else [] := by
  by_cases hx : x.sessionId = sessionId ∧ x.questionIndex = index <;> simp [updatesOf, hx]

lemma InOrder.current {ids : List UUID} (h : InOrder roomCode sessionId l s ids) {room : String}
    {index : ℕ} (hr : Ordered roomCode s room ids) {question : QuizQuestion}
    (hq : Submissions.currentQuestion s room index = some question) :
    index ≠ 0 ∧ ids[index - 1]? = some question.questionId := by
  unfold Submissions.currentQuestion at hq
  split at hq
  · cases hq
  · next hzero =>
    rw [hr.2, Option.bind_some] at hq
    obtain ⟨id, hid, hfound⟩ := Option.bind_eq_some_iff.mp hq
    obtain ⟨q, hq', hqid⟩ := h.exist id (List.mem_of_getElem? hid)
    obtain rfl : q = question := Option.some.inj (hq'.symm.trans hfound)
    exact ⟨hzero, by rw [hid, hqid]⟩

lemma Kept.answered (h : Kept roomCode sessionId l s) (hst : Stored s a g p e) {room : String}
    (hup : Runtime.upper room = g.roomCode) (hstatus : g.status = .question)
    {question : QuizQuestion}
    (hq : Submissions.currentQuestion s room g.currentQuestionIndex = some question)
    (ha : a.questionId = question.questionId) (ht : t.db = e)
    (hr : t.redis.questions = s.redis.questions) :
    Kept roomCode sessionId (l ++ [⟨g.sessionId, g.currentQuestionIndex, some (entry a p)⟩]) t := by
  subst ht
  have hposition : t.position roomCode = s.position roomCode := by
    simp only [State.position, hst.sessions]
  have hordered : ∀ room ids, Ordered roomCode t room ids ↔ Ordered roomCode s room ids := by
    intro room ids
    rw [Ordered, Ordered, hr]
  have hjoined : ∀ r ∈ t.db.answers.rows, (t.db.players.get? r.playerId).isSome := by
    intro r hrow
    by_cases hid : r.playerId = a.playerId
    · rw [hid, hst.scored]
      rfl
    · rw [hst.others _ hid]
      rcases (Table.mem_insert hst.answers r).mp hrow with hrow | rfl
      · exact h.joined r hrow
      · exact absurd rfl hid
  have hroom : g.sessionId = sessionId ↔ g.roomCode = roomCode := by
    obtain ⟨g', hg', hid⟩ := h.stored
    constructor
    · exact h.only g (Table.mem_get? hst.session)
    · intro hcode
      obtain rfl : g' = g := Option.some.inj (by rw [← hg', ← hcode, hst.session])
      exact hid
  have hstored : ∃ g, t.db.sessions.get? roomCode = some g ∧ g.sessionId = sessionId := by
    rw [hst.sessions]
    exact h.stored
  have honly : ∀ g ∈ t.db.sessions.rows, g.sessionId = sessionId → g.roomCode = roomCode := by
    rw [hst.sessions]
    exact h.only
  by_cases hsession : g.sessionId = sessionId
  · have hcode := hroom.mp hsession
    subst hsession hcode
    have hpos := State.position_eq hst.session
    refine ⟨hstored, honly, hjoined, fun hw => ?_, fun _ _ _ _ h₁ h₂ =>
      h.one _ _ _ _ ((hordered _ _).mp h₁)
      ((hordered _ _).mp h₂), fun room' ids hord => ?_, fun x hx hs => ?_⟩
    · rw [hposition, hpos] at hw
      exact absurd (hstatus.symm.trans hw) (by decide)
    · replace hord := (hordered _ _).mp hord
      have hin := h.order room' ids hord
      obtain ⟨ids', hids'⟩ : ∃ ids', Ordered g.roomCode s room ids' := by
        cases hids : s.redis.questions room with
        | none => simp [Submissions.currentQuestion, hids] at hq
        | some ids' => exact ⟨ids', hup, hids⟩
      obtain rfl := h.one _ _ _ _ hord hids'
      obtain ⟨hzero, hcurrent⟩ := hin.current hord hq
      have hindex : (s.position g.roomCode).index = g.currentQuestionIndex := by rw [hpos]; rfl
      refine ⟨hin.nodup, by simpa only [Db.question?,
        hst.quizzes] using hin.exist, fun r hrow hof => ?_,
        by rw [hposition]; exact hin.shown, fun hs q hid => ?_⟩
      · rw [hposition]
        rcases (Table.mem_insert hst.answers r).mp hrow with hrow | rfl
        · exact hin.asked r hrow ((hst.ofSession r).mp hof)
        · obtain ⟨hlt, hget⟩ := List.getElem?_eq_some_iff.mp hcurrent
          rw [hindex, ha, List.mem_take_iff_getElem]
          exact ⟨g.currentQuestionIndex - 1, by omega, hget⟩
      · rw [hposition] at hs hid ⊢
        have hfeed := hin.feed hs q hid
        rw [hindex, hcurrent] at hid
        obtain rfl : question.questionId = q := Option.some.inj hid
        rw [← ha] at hfeed ⊢
        rw [hst.details, updatesOf_concat, if_pos ⟨rfl, hindex.symm⟩, List.map_append]
        exact hfeed.append_right _
    · rw [hposition]
      rcases List.mem_append.mp hx with hx | hx
      · exact h.past x hx hs
      · rw [List.mem_singleton.mp hx, hpos]
        exact Nat.le_refl _
  · refine ⟨hstored, honly, hjoined, fun hw => ?_, fun _ _ _ _ h₁ h₂ =>
      h.one _ _ _ _ ((hordered _ _).mp h₁)
      ((hordered _ _).mp h₂), fun room' ids hord => ?_, fun x hx hs => ?_⟩
    · rw [hposition] at hw ⊢
      obtain ⟨hindex, hnone, hans⟩ := h.waiting hw
      refine ⟨hindex, fun room ids hord => hnone room ids ((hordered room ids).mp hord),
        fun r hrow hof => ?_⟩
      rcases (Table.mem_insert hst.answers r).mp hrow with hrow | rfl
      · exact hans r hrow ((hst.ofSession r).mp hof)
      · exact hsession (hst.ofSession_self.mp ((hst.ofSession r).mp hof))
    · have hin := h.order room' ids ((hordered _ _).mp hord)
      refine ⟨hin.nodup, by simpa only [Db.question?,
        hst.quizzes] using hin.exist, fun r hrow hof => ?_,
        by rw [hposition]; exact hin.shown, fun hs q hid => ?_⟩
      · rw [hposition]
        rcases (Table.mem_insert hst.answers r).mp hrow with hrow | rfl
        · exact hin.asked r hrow ((hst.ofSession r).mp hof)
        · exact absurd (hst.ofSession_self.mp ((hst.ofSession r).mp hof)) hsession
      · rw [hposition] at hs hid ⊢
        rw [hst.details_of_ne hsession, updatesOf_concat, if_neg fun h => hsession h.1,
          List.append_nil]
        exact hin.feed hs q hid
    · rw [hposition]
      rcases List.mem_append.mp hx with hx | hx
      · exact h.past x hx hs
      · rw [List.mem_singleton.mp hx] at hs
        exact absurd hs hsession

end Answered

omit [Runtime] in
def Harmless (changes : Changes) : Prop :=
  changes.session = none ∧ changes.player = none ∧ changes.newAnswer = none

omit [Runtime] in
lemma face_of_harmless {d e : Db} {changes : Changes} (hc : Harmless changes)
    (h : d.commit changes = some e) {id : UUID} (hid : (d.players.get? id).isSome) :
    (e.players.get? id).map face = (d.players.get? id).map face := by
  have hp : d.insertPlayer (Db.flushConnected d.players changes.connected) changes.newPlayer =
      some e.players := by
    have hp := commit_players h
    rwa [hc.2.1] at hp
  have hflushed : ((Db.flushConnected d.players changes.connected).get? id).map face =
      (d.players.get? id).map face := by
    cases changes.connected with
    | none => rfl
    | some c =>
      rw [Db.flushConnected, Table.get?_modify, Option.map_map]
      congr 1
      funext p
      simp only [Function.comp_apply]
      split <;> rfl
  cases hn : changes.newPlayer with
  | none =>
    rw [hn, Db.insertPlayer, Option.some.injEq] at hp
    exact hp ▸ hflushed
  | some p =>
    rw [hn, Db.insertPlayer] at hp
    split at hp
    · have hne : id ≠ p.playerId := by
        rintro rfl
        have hnone := Table.get?_eq_none.mpr (Table.fresh_of_insert hp)
        rw [hnone, Option.map_none, eq_comm, Option.map_eq_none_iff] at hflushed
        simp [hflushed] at hid
      rw [Table.get?_insert hp, if_neg hne]
      exact hflushed
    · cases hp

lemma Kept.of_db (h : Kept roomCode sessionId l s) (hdb : t.db = s.db)
    (hq : t.redis.questions = s.redis.questions) : Kept roomCode sessionId l t := by
  apply h.same
  refine ⟨by rw [hdb], fun g hg => ⟨g, hdb ▸ hg, rfl, rfl⟩, by rw [hdb], by
    rw [hdb], fun a _ => by rw [hdb], ?_⟩
  intro room ids hord
  exact ⟨hord.1, hq ▸ hord.2⟩

lemma Kept.exec {F : Footprint} (hF : ∀ changes, F.commits changes → Harmless changes)
    (hstores : ∀ room ids, ¬F.stores room ids) {β : Type} {o : Op β} (ho : o.Within F)
    (h : Kept roomCode sessionId l s) : Kept roomCode sessionId l (exec o s).2 := by
  cases o with
  | commit changes =>
    cases hc : s.db.commit changes with
    | none =>
      rw [exec_commit_none hc]
      exact h
    | some e =>
      rw [exec_commit_some hc]
      have hharm := hF changes ho
      have hsessions : e.sessions = s.db.sessions := by rw [(commit_eq_some hc).2, hharm.1]; rfl
      have hanswers : e.answers = s.db.answers := by
        rcases commit_answers hc with ⟨-, heq⟩ | ⟨a, ha, -⟩
        · exact heq
        · cases hharm.2.2.symm.trans ha
      apply h.same
      exact ⟨by rw [hsessions], fun g hg => ⟨g, hsessions ▸ hg, rfl, rfl⟩, (commit_eq_some
        hc).1, hanswers,
        fun a ha => face_of_harmless hharm hc (h.joined a ha), fun _ _ hord => hord⟩
  | setQuestions room ids ex => exact absurd ho (hstores room ids)
  | listen room =>
    apply h.of_db
    · exact exec_listen_db room s
    · simp only [Game.exec]
      split <;> rfl
  | _ => exact h.of_db rfl rfl

end Kept

end LiveFeed

end

end Askit.Game

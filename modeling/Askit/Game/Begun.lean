import Askit.Game.Grounds

/-! What holds of a room in every run. -/

namespace Askit.Game

open Interleaving Machine Coro Tables

section

variable [Runtime]

namespace Stranded

variable {roomCode code : String}

section Runs

variable (roomCode : String) (quiz : Quiz)

def Stored (s : State) : Prop :=
  ∃ code, Runtime.upper code = Runtime.upper roomCode ∧ (s.redis.questions code).isSome

structure Begun (s : State) : Prop where
  index : 1 ≤ (s.position (Runtime.upper roomCode)).index
  stored : Stored roomCode s

def Truthful (s : State) : Ev → Prop
  | ⟨_, .getRoom code, .ok (some room)⟩ => Runtime.upper code = Runtime.upper roomCode →
      room.quiz = quiz.loaded ∧
      (1 ≤ room.session.currentQuestionIndex → 1 ≤ (s.position (Runtime.upper roomCode)).index) ∧
      (room.session.status = .question → Begun roomCode s)
  | ⟨_, .getQuestions code, .ok (some ids)⟩ => Runtime.upper code = Runtime.upper roomCode →
      ids.length = quiz.questions.length ∧ Stored roomCode s
  | _ => True

/-- Where the room stands, and what is stored of it. -/
structure Sound (s : State) : Prop where
  session : ∃ g, s.db.sessions.get? (Runtime.upper roomCode) = some g ∧ g.quizId = quiz.quizId
  stored : s.db.quizzes.table.get? quiz.quizId = some quiz
  orders : ∀ code, Runtime.upper code = Runtime.upper roomCode → ∀ ids ∈ s.redis.questions code,
    ids.Perm (quiz.questions.map QuizQuestion.questionId)
  index : (s.position (Runtime.upper roomCode)).index ≤ quiz.questions.length
  begun : (s.position (Runtime.upper roomCode)).status = .question ∨
    (s.position (Runtime.upper roomCode)).status = .revealing → Begun roomCode s

structure Grown (s t : State) : Prop where
  index : 1 ≤ (s.position (Runtime.upper roomCode)).index →
    1 ≤ (t.position (Runtime.upper roomCode)).index
  stored : Stored roomCode s → Stored roomCode t

structure Kept (c : system.Config) : Prop where
  labelled : c.Labelled
  traced : c.Traced Duty fun _ _ _ => True
  answers : ∀ ev ∈ c.world.history, Truthful roomCode quiz c.world.state ev
  sound : Sound roomCode quiz c.world.state

variable {roomCode quiz} {s t : State} {call : Call} {c : system.Config}

lemma Begun.mono (h : Begun roomCode s) (hst : Grown roomCode s t) : Begun roomCode t :=
  ⟨hst.index h.index, hst.stored h.stored⟩

lemma truthful_of_error {i : ℕ} {β : Type} (o : Op β) (e : Exn) :
    Truthful roomCode quiz s ⟨i, o, .error e⟩ := by
  cases o <;> trivial

lemma Truthful.mono {ev : Ev} (h : Truthful roomCode quiz s ev) (hst : Grown roomCode s t) :
    Truthful roomCode quiz t ev := by
  obtain ⟨i, o, r⟩ := ev
  cases r with
  | error e => exact truthful_of_error o e
  | ok a =>
    cases o with
    | getRoom code =>
      cases a with
      | none => trivial
      | some room =>
        intro hcode
        obtain ⟨hquiz, hindex, hrunning⟩ := h hcode
        exact ⟨hquiz, fun hi => hst.index (hindex hi), fun hr => (hrunning hr).mono hst⟩
    | getQuestions code =>
      cases a with
      | none => trivial
      | some ids => exact fun hcode => ⟨(h hcode).1, hst.stored (h hcode).2⟩
    | _ => exact h

lemma Sound.truthful (h : Sound roomCode quiz s) {i : ℕ} {β : Type} {o : Op β} {r : Except Exn β}
    (hr : (exec o s).1 = r) : Truthful roomCode quiz s ⟨i, o, r⟩ := by
  subst hr
  cases o with
  | getRoom code =>
    simp only [exec]
    cases hroom : s.db.room? (Runtime.upper code) with
    | none => trivial
    | some room =>
      intro hcode
      obtain ⟨g, hg, hquiz⟩ := h.session
      rw [hcode, room?_eq hg (hquiz ▸ h.stored)] at hroom
      cases hroom
      have hpos : s.position (Runtime.upper roomCode) = g.position := State.position_eq hg
      refine ⟨rfl, fun hi => hpos ▸ hi, fun hrunning => h.begun (.inl ?_)⟩
      rw [hpos]
      exact hrunning
  | getQuestions code =>
    simp only [exec]
    cases hids : s.redis.questions code with
    | none => trivial
    | some ids =>
      intro hcode
      exact ⟨by simpa using (h.orders code hcode ids hids).length_eq, code, hcode, by simp [hids]⟩
  | _ => trivial

lemma Sound.same (h : Sound roomCode quiz s)
    (hsession : t.db.sessions.get? (Runtime.upper roomCode) = s.db.sessions.get?
      (Runtime.upper roomCode))
    (hquizzes : t.db.quizzes = s.db.quizzes)
    (horders : ∀ code, Runtime.upper code = Runtime.upper roomCode →
      t.redis.questions code = s.redis.questions code) :
      Sound roomCode quiz t ∧ Grown roomCode s t := by
  have hpos : t.position (Runtime.upper roomCode) = s.position (Runtime.upper roomCode) := by
    simp only [State.position, hsession]
  have hstored : Stored roomCode s → Stored roomCode t := by
    rintro ⟨code, hcode, hsome⟩
    exact ⟨code, hcode, (horders code hcode).symm ▸ hsome⟩
  have hgrown : Grown roomCode s t := ⟨fun hi => hpos.symm ▸ hi, hstored⟩
  refine ⟨⟨hsession.symm ▸ h.session, hquizzes.symm ▸ h.stored, fun code hcode ids hids => ?_,
    hpos.symm ▸ h.index,
    fun hp => (h.begun (hpos ▸ hp)).mono hgrown⟩, hgrown⟩
  exact h.orders code hcode ids (horders code hcode ▸ hids)

structure Lands (roomCode : String) (quiz : Quiz) (s : State) (row row' : GameSession) : Prop where
  index : 1 ≤ row.currentQuestionIndex → 1 ≤ row'.currentQuestionIndex
  last : row'.currentQuestionIndex ≤ quiz.questions.length
  begun : row'.status = .question ∨ row'.status = .revealing → 1 ≤ row'.currentQuestionIndex ∧
    Stored roomCode s

lemma Lands.of_status {row row' : GameSession} (h : Lands roomCode quiz s row row)
    (hindex : row'.currentQuestionIndex = row.currentQuestionIndex)
    (hstatus : row'.status = row.status ∨ row'.status = .starting ∨ row'.status = .finished) :
    Lands roomCode quiz s row row' := by
  refine ⟨hindex ▸ id, hindex ▸ h.last, fun hshows => ?_⟩
  rw [hindex]
  rcases hstatus with hs | hs | hs
  · exact h.begun (hs ▸ hshows)
  · simp [hs] at hshows
  · simp [hs] at hshows

lemma Sound.lands (h : Sound roomCode quiz s) {i : ℕ} {l : List Ev} {g cur row : GameSession}
    (hcode : Runtime.upper call.room = Runtime.upper roomCode) (hm : Moves i call l g cur)
    (htrue : ∀ ev ∈ l, Truthful roomCode quiz s ev)
    (hrow : s.db.sessions.get? (Runtime.upper roomCode) = some row) :
    Lands roomCode quiz s row (GameSession.flush ⟨g, cur⟩ row) := by
  have hpos : s.position (Runtime.upper roomCode) = row.position := State.position_eq hrow
  have hself : Lands roomCode quiz s row row := by
    have hlast := h.index
    have hbegun := h.begun
    rw [hpos] at hlast hbegun
    refine ⟨id, hlast, fun hshows => ?_⟩
    obtain ⟨hone, hstored⟩ := hbegun hshows
    rw [hpos] at hone
    exact ⟨hone, hstored⟩
  cases hm with
  | start startedAt =>
    apply hself.of_status (if_pos rfl)
    simp only [GameSession.flush, changed]
    split
    · exact .inl rfl
    · exact .inr (.inl rfl)
  | finish endedAt =>
    apply hself.of_status (if_pos rfl)
    simp only [GameSession.flush, changed]
    split
    · exact .inl rfl
    · exact .inr (.inr rfl)
  | ask room ids k read loaded order first last =>
    obtain ⟨hlen, hstored⟩ := htrue _ order hcode
    obtain ⟨-, hread, -⟩ := htrue _ read hcode
    have hindex : (GameSession.flush ⟨g, { g with status := .question, currentQuestionIndex := k }⟩
      row).currentQuestionIndex =
        changed g.currentQuestionIndex k row.currentQuestionIndex := rfl
    have hone : 1 ≤ changed g.currentQuestionIndex k row.currentQuestionIndex := by
      unfold changed
      split
      · next heq =>
        have hrow := hread (by rw [loaded, ← heq]; exact first)
        rwa [hpos] at hrow
      · exact first
    refine ⟨fun _ => hindex ▸ hone, ?_, fun _ => ⟨hindex ▸ hone, hstored⟩⟩
    rw [hindex, changed]
    split
    · exact hself.last
    · exact hlen ▸ last
  | reveal room read running =>
    obtain ⟨-, -, hbegun⟩ := htrue _ read hcode
    obtain ⟨hone, hstored⟩ := hbegun running
    rw [hpos] at hone
    have hindex : (GameSession.flush ⟨g, { g with status := .revealing }⟩
      row).currentQuestionIndex =
        row.currentQuestionIndex := if_pos rfl
    exact ⟨hindex ▸ id, hindex ▸ hself.last, fun _ => ⟨hindex ▸ hone, hstored⟩⟩

lemma Sound.commit (h : Sound roomCode quiz s) {i : ℕ} {l : List Ev} {changes : Changes} {e : Db}
    {r : Except Exn Unit} (he : s.db.commit changes = some e)
    (hduty : Duty call l ⟨i, .commit changes, r⟩) (htrue : ∀ ev ∈ l, Truthful roomCode quiz s ev) :
    Sound roomCode quiz { s with db := e } ∧ Grown roomCode s { s with db := e } := by
  obtain ⟨hquizzes, hsessions⟩ := commit_eq_some he
  by_cases hsame : ∀ d ∈ changes.session, d.loaded.roomCode ≠ Runtime.upper roomCode
  · have hrow : e.sessions.get? (Runtime.upper roomCode) = s.db.sessions.get?
        (Runtime.upper roomCode) := by
      rw [hsessions]
      exact flushSession_get?_of_ne hsame
    exact h.same (t := { s with db := e }) hrow hquizzes fun _ _ => rfl
  · obtain ⟨d, hd, hkey⟩ : ∃ d ∈ changes.session, d.loaded.roomCode = Runtime.upper roomCode := by
      simpa using hsame
    obtain ⟨g, cur⟩ := d
    obtain ⟨hcall, hm⟩ := hduty _ hd
    obtain ⟨row, hrow, hquiz⟩ := h.session
    have hlands := h.lands (hcall.symm.trans hkey) hm htrue hrow
    have hrow' : e.sessions.get? (Runtime.upper roomCode) = some
        (GameSession.flush ⟨g, cur⟩ row) := by
      rw [hsessions, hd, ← hkey]
      exact flushSession_get? (hkey.symm ▸ hrow)
    have hpos : s.position (Runtime.upper roomCode) = row.position := State.position_eq hrow
    have hpos' : State.position { s with db := e } (Runtime.upper roomCode) =
        (GameSession.flush ⟨g, cur⟩ row).position := State.position_eq hrow'
    have hgrown : Grown roomCode s { s with db := e } := by
      refine ⟨fun hone => ?_, id⟩
      rw [hpos']
      rw [hpos] at hone
      exact hlands.index hone
    refine ⟨⟨⟨_, hrow', hquiz⟩, hquizzes.symm ▸ h.stored, h.orders, ?_, fun hshows => ?_⟩, hgrown⟩
    · rw [hpos']
      exact hlands.last
    · rw [hpos'] at hshows
      obtain ⟨hone, hstored⟩ := hlands.begun hshows
      exact ⟨by rw [hpos']; exact hone, hstored⟩

lemma Sound.order (h : Sound roomCode quiz s) {code : String} {ids : List UUID}
    (hperm : Runtime.upper code = Runtime.upper roomCode →
      ids.Perm (quiz.questions.map QuizQuestion.questionId)) :
    Sound roomCode quiz { s with redis := s.redis.setQuestions code (some ids) } ∧
      Grown roomCode s { s with redis := s.redis.setQuestions code (some ids) } := by
  have hstored : Stored roomCode s →
      Stored roomCode { s with redis := s.redis.setQuestions code (some ids) } := by
    rintro ⟨code', hcode', hsome⟩
    refine ⟨code', hcode', ?_⟩
    by_cases heq : code' = code
    · simp [Redis.setQuestions, heq]
    · simpa [Redis.setQuestions, Function.update_of_ne heq] using hsome
  refine ⟨⟨h.session, h.stored, fun code' hcode' ids' hids' => ?_, h.index, fun hp =>
    ?_⟩, id, hstored⟩
  · by_cases heq : code' = code
    · subst heq
      obtain rfl : ids = ids' := by simpa [Redis.setQuestions] using hids'
      exact hperm hcode'
    · exact h.orders code' hcode' ids'
        (by simpa [Redis.setQuestions, Function.update_of_ne heq] using hids')
  · exact ⟨(h.begun hp).index, hstored (h.begun hp).stored⟩

lemma Sound.still (h : Sound roomCode quiz s) (hs : Still s t) :
    Sound roomCode quiz t ∧ Grown roomCode s t :=
  h.same (by rw [hs.db]) (by rw [hs.db]) fun _ _ => by rw [hs.questions]

lemma Sound.exec (h : Sound roomCode quiz s) {i : ℕ} {l : List Ev} {β : Type} {o : Op β}
    {r : Except Exn β} (hduty : Duty call l ⟨i, o, r⟩)
    (htrue : ∀ ev ∈ l, Truthful roomCode quiz s ev) :
    Sound roomCode quiz (Game.exec o s).2 ∧ Grown roomCode s (Game.exec o s).2 := by
  cases o with
  | commit changes =>
    cases he : s.db.commit changes with
    | none =>
      rw [exec_commit_none he]
      exact ⟨h, id, id⟩
    | some e =>
      rw [exec_commit_some he]
      exact h.commit he hduty htrue
  | setQuestions code ids ex =>
    obtain ⟨rfl, room, hread, hperm⟩ := hduty
    refine h.order fun hcode => ?_
    obtain ⟨hquiz, -, -⟩ := htrue _ hread hcode
    rw [hquiz] at hperm
    exact hperm.trans ((sortByPosition_perm _).map _)
  | publish code e => exact h.still (still_exec (o := Op.publish code e)
      (announces_calm code e.message) s)
  | _ => exact h.still (still_exec (by trivial) s)

lemma kept_start (hcreated : Created roomCode quiz s)
    (hfresh : ∀ code, Runtime.upper code = Runtime.upper roomCode → s.redis.questions code = none) :
    Kept roomCode quiz (start s) where
  labelled := @labelled_start _ _ _ system s
  traced := @traced_start _ _ _ system _ _ s
  answers ev h := by cases h
  sound := by
    obtain ⟨g, hg, hp, hquiz, hstored⟩ := hcreated
    have hpos : s.position (Runtime.upper roomCode) = ⟨.waiting, 0⟩ :=
      (State.position_eq hg).trans hp
    refine ⟨⟨g, hg, hquiz⟩, hstored, fun code hcode ids hids => ?_, ?_, fun hshows => ?_⟩
    · cases (hfresh code hcode).symm.trans hids
    · change (s.position _).index ≤ _
      simp [hpos]
    · change (s.position _).status = _ ∨ (s.position _).status = _ at hshows
      simp [hpos] at hshows

lemma Sound.env (h : Sound roomCode quiz s) {e : Env} (hkeys : KeepsOrder roomCode (.env e)) :
    Sound roomCode quiz (e.act s) ∧ Grown roomCode s (e.act s) := by
  cases e with
  | clock now => exact h.still ⟨rfl, rfl⟩
  | lose key =>
    cases key with
    | questions code =>
      refine h.same rfl rfl fun code' hcode' => Function.update_of_ne ?_ _ _
      rintro rfl
      exact hkeys hcode'
    | _ => exact h.still ⟨rfl, rfl⟩

lemma Kept.step (h : Kept roomCode quiz c) {a : system.Act} (hkeys : KeepsOrder roomCode a) :
    Kept roomCode quiz (Machine.step a c) := by
  have hlabelled := h.labelled.step a
  have htraced := h.traced.step h.labelled (fun i call => code_follows i call) a
  have hm := step_moves a c
  generalize Machine.step a c = d at hm hlabelled htraced
  cases hm with
  | idle => exact h
  | spawn call s admitted =>
    obtain ⟨hdb, hredis, -⟩ := enter_eq_some admitted
    obtain ⟨hsound, hgrown⟩ := h.sound.still (t := s) ⟨hdb, by rw [hredis]⟩
    exact ⟨hlabelled, htraced, fun ev hev => (h.answers ev hev).mono hgrown, hsound⟩
  | env e =>
    obtain ⟨hsound, hgrown⟩ := h.sound.env hkeys
    exact ⟨hlabelled, htraced, fun ev hev => (h.answers ev hev).mono hgrown, hsound⟩
  | fault i e call o k pending =>
    refine ⟨hlabelled, htraced, fun ev hev => ?_, h.sound⟩
    rcases List.mem_append.mp hev with hev | hev
    · exact h.answers ev hev
    · rw [List.mem_singleton.mp hev]
      exact truthful_of_error o e
  | run i call o k pending ready =>
    have hduty : Duty call (own i c.world.history) ⟨i, o, (Game.exec o c.world.state).1⟩ :=
      (h.traced.rest i _ pending (Game.exec o c.world.state).1 fun a ha => ⟨c.world.state, ha⟩).1
    have htrue : ∀ ev ∈ own i c.world.history, Truthful roomCode quiz c.world.state ev :=
      fun ev hev => h.answers ev (mem_own.mp hev).1
    obtain ⟨hsound, hgrown⟩ := h.sound.exec hduty htrue
    refine ⟨hlabelled, htraced, fun ev hev => ?_, hsound⟩
    rcases List.mem_append.mp hev with hev | hev
    · exact (h.answers ev hev).mono hgrown
    · rw [List.mem_singleton.mp hev]
      exact (h.sound.truthful rfl).mono hgrown

lemma kept_run (hcreated : Created roomCode quiz s)
    (hfresh : ∀ code, Runtime.upper code = Runtime.upper roomCode → s.redis.questions code = none)
    {acts : List system.Act} (hkeys : ∀ a ∈ acts, KeepsOrder roomCode a) :
    Kept roomCode quiz (run acts (start s)) :=
  (invariant (I := Kept roomCode quiz) (P := fun t => KeepsOrder roomCode t.act)
    (fun _ ht h => h.step ht)
    (kept_start hcreated hfresh) acts fun _ ht => hkeys _ (act_mem ht)).2

end Runs

end Stranded

end

end Askit.Game

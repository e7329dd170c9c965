import Askit.Game.Footprint
import Askit.Game.Lifecycle

/-! What the single operations leave as it is, and what the commit of a session does. -/

namespace Askit.Game

open Interleaving Machine Tables

def GameSession.position (g : GameSession) : Position := ⟨g.status, g.currentQuestionIndex⟩

/-- Where a room stands; one that is not stored stands at the beginning. -/
def State.position (s : State) (roomCode : String) : Position :=
  ((s.db.sessions.get? roomCode).map GameSession.position).getD ⟨.waiting, 0⟩

lemma State.position_eq {s : State} {roomCode : String} {g : GameSession}
    (h : s.db.sessions.get? roomCode = some g) : s.position roomCode = g.position := by
  simp [State.position, h]

lemma State.position_congr {s t : State} (h : s.db = t.db) (roomCode : String) :
    s.position roomCode = t.position roomCode := by
  simp only [State.position, h]

lemma room?_eq {d : Db} {roomCode : String} {g : GameSession} {quiz : Quiz}
    (hg : d.sessions.get? roomCode = some g) (hq : d.quizzes.table.get? g.quizId = some quiz) :
    d.room? roomCode = some ⟨g, d.playersOf g.sessionId, quiz.loaded⟩ := by
  simp [Db.room?, hg, hq]

lemma exists_question {d : Db} {quiz : Quiz} (hq : quiz ∈ d.quizzes.table.rows) {questionId : UUID}
    (hid : questionId ∈ quiz.questions.map QuizQuestion.questionId) :
    ∃ q, d.question? questionId = some q ∧ q.questionId = questionId := by
  obtain ⟨q, hm, rfl⟩ := List.mem_map.mp hid
  have hsome : (d.question? q.questionId).isSome := by
    rw [Db.question?, List.find?_isSome]
    exact ⟨q, List.mem_flatMap.mpr ⟨quiz, hq, hm⟩, by simp⟩
  obtain ⟨r, hr⟩ := Option.isSome_iff_exists.mp hsome
  exact ⟨r, hr, by simpa using List.find?_some hr⟩

lemma commit_eq_some {d e : Db} {changes : Changes} (h : d.commit changes = some e) :
    e.quizzes = d.quizzes ∧ e.sessions = d.flushSession changes.session := by
  simp only [Db.commit, Option.bind_eq_some_iff, Option.map_eq_some_iff] at h
  obtain ⟨answers, -, players, -, rfl⟩ := h
  exact ⟨rfl, rfl⟩

lemma commit_answers {d e : Db} {changes : Changes} (h : d.commit changes = some e) :
    (changes.newAnswer = none ∧ e.answers = d.answers) ∨
      ∃ a, changes.newAnswer = some a ∧ (d.players.get? a.playerId).isSome ∧
        d.answers.insert a = some e.answers := by
  simp only [Db.commit, Option.bind_eq_some_iff, Option.map_eq_some_iff] at h
  obtain ⟨answers, hanswers, players, -, rfl⟩ := h
  cases ha : changes.newAnswer with
  | none =>
    rw [ha] at hanswers
    cases hanswers
    exact .inl ⟨rfl, rfl⟩
  | some a =>
    rw [ha, Db.insertAnswer] at hanswers
    split at hanswers
    case isTrue hfk => exact .inr ⟨a, rfl, hfk.1, hanswers⟩
    case isFalse => cases hanswers

lemma commit_players {d e : Db} {changes : Changes} (h : d.commit changes = some e) :
    d.insertPlayer (Db.flushConnected (Db.flushPlayer d.players changes.player) changes.connected)
      changes.newPlayer = some e.players := by
  simp only [Db.commit, Option.bind_eq_some_iff, Option.map_eq_some_iff] at h
  obtain ⟨answers, -, players, hp, rfl⟩ := h
  exact hp

lemma commit_players_isSome {d e : Db} {changes : Changes} (h : d.commit changes = some e)
    {id : UUID} (hid : (d.players.get? id).isSome) : (e.players.get? id).isSome := by
  have hp := commit_players h
  have hflushed : ((Db.flushConnected (Db.flushPlayer d.players changes.player)
      changes.connected).get? id).isSome := by
    cases changes.player <;> cases changes.connected <;>
      simpa [Db.flushPlayer, Db.flushConnected, Table.get?_modify] using hid
  cases hn : changes.newPlayer with
  | none =>
    rw [hn, Db.insertPlayer, Option.some.injEq] at hp
    exact hp ▸ hflushed
  | some p =>
    rw [hn, Db.insertPlayer] at hp
    split at hp
    · rw [Table.get?_insert hp]
      split
      · rfl
      · exact hflushed
    · cases hp

lemma flushSession_get?_of_ne {d : Db} {s : Option (Dirty GameSession)} {roomCode : String}
    (h : ∀ g ∈ s, g.loaded.roomCode ≠ roomCode) :
    (d.flushSession s).get? roomCode = d.sessions.get? roomCode := by
  cases s with
  | none => rfl
  | some g => exact Table.get?_modify_of_ne _ _ (GameSession.roomCode_flush g) (h g rfl).symm

lemma flushSession_get? {d : Db} {s : Dirty GameSession} {row : GameSession}
    (h : d.sessions.get? s.loaded.roomCode = some row) :
    (d.flushSession (some s)).get? s.loaded.roomCode = some (GameSession.flush s row) := by
  simp [Db.flushSession, h]

lemma flush_of_current {s : Dirty GameSession} {row : GameSession}
    (h : row.position = s.loaded.position) :
    (GameSession.flush s row).position = s.current.position := by
  simp only [GameSession.position, Position.mk.injEq] at h
  simp only [GameSession.position, GameSession.flush, changed, h]
  split <;> split <;> simp_all

lemma flush_status (g row : GameSession) (status : GameSessionStatus) (endedAt : Option Time) :
    (GameSession.flush ⟨g, { g with status := status, endedAt := endedAt }⟩ row).position =
      ⟨changed g.status status row.status, row.currentQuestionIndex⟩ := by
  simp [GameSession.position, GameSession.flush, changed]

lemma flush_status_or (g row : GameSession) (status : GameSessionStatus) (endedAt : Option Time) :
    (GameSession.flush ⟨g, { g with status := status, endedAt := endedAt }⟩ row).position =
        row.position ∨
      (GameSession.flush ⟨g, { g with status := status, endedAt := endedAt }⟩ row).position =
        ⟨status, row.position.index⟩ := by
  rw [flush_status, changed]
  split
  · exact .inl rfl
  · exact .inr rfl

lemma flush_ask {g row : GameSession} {k : ℕ} (hs : g.status ≠ .question)
    (hk : g.currentQuestionIndex ≠ k) :
    (GameSession.flush ⟨g, { g with status := .question, currentQuestionIndex := k }⟩
      row).position =
      ⟨.question, k⟩ := by
  simp [GameSession.position, GameSession.flush, changed, Ne.symm hs, Ne.symm hk]

lemma flush_finished {g row : GameSession} {endedAt : Option Time}
    (hg : g.status = .finished → row.status = .finished) :
    (GameSession.flush ⟨g, { g with status := .finished, endedAt := endedAt }⟩ row).position =
      ⟨.finished, row.currentQuestionIndex⟩ := by
  rw [flush_status, changed]
  split
  · rw [hg (by simp_all)]
  · rfl

variable [Runtime]

abbrev position (roomCode : String) (w : system.World) : Position :=
  w.state.position (Runtime.upper roomCode)

lemma position_eq {roomCode : String} {w : system.World} {g : GameSession}
    (h : w.state.db.sessions.get? (Runtime.upper roomCode) = some g) :
    position roomCode w = g.position :=
  State.position_eq h

/-- A room as `create_room` leaves it, for the quiz `quiz`. -/
def Created (roomCode : String) (quiz : Quiz) (s : State) : Prop :=
  ∃ g, s.db.sessions.get? (Runtime.upper roomCode) = some g ∧ g.position = ⟨.waiting, 0⟩ ∧
    g.quizId = quiz.quizId ∧ s.db.quizzes.table.get? quiz.quizId = some quiz

lemma stored_of_enter {roomCode : String} {playerId : UUID} (data : ClientMessage) {s u : State}
    (h : enter (.playerFrame roomCode playerId data) s = some u) :
    (s.db.sessions.get? (Runtime.upper roomCode)).isSome := by
  simp only [enter] at h
  split at h
  case isTrue hg =>
    obtain ⟨g, hg, -⟩ := hg
    exact Option.isSome_iff_exists.mpr ⟨g, hg⟩
  case isFalse => cases h

lemma exec_quizzes {β : Type} (o : Op β) (s : State) :
    (exec o s).2.db.quizzes = s.db.quizzes := by
  cases o with
  | commit changes =>
    cases h : s.db.commit changes with
    | none => simp [exec, h]
    | some e => simpa [exec, h] using (commit_eq_some h).1
  | listen roomCode => simp only [exec]; split <;> rfl
  | _ => rfl

lemma exec_listen_db (roomCode : String) (s : State) : (exec (.listen roomCode) s).2.db = s.db := by
  simp only [exec]
  split <;> rfl

lemma exec_commit_none {s : State} {changes : Changes} (h : s.db.commit changes = none) :
    exec (.commit changes) s = (.error .integrityError, s) := by
  simp [exec, h]

lemma exec_commit_some {s : State} {changes : Changes} {e : Db} (h : s.db.commit changes = some e) :
    exec (.commit changes) s = (.ok (), { s with db := e }) := by
  simp [exec, h]

lemma exec_sessions_isSome {β : Type} (o : Op β) {s : State} {roomCode : String}
    (h : (s.db.sessions.get? roomCode).isSome) :
    ((exec o s).2.db.sessions.get? roomCode).isSome := by
  cases o with
  | commit changes =>
    cases hc : s.db.commit changes with
    | none => simpa [exec, hc] using h
    | some e =>
      simp only [exec, hc, (commit_eq_some hc).2]
      cases changes.session with
      | none => exact h
      | some d => simpa [Db.flushSession, Table.get?_modify] using h
  | listen roomCode => simp only [exec]; split <;> exact h
  | _ => exact h

lemma exec_players_isSome {β : Type} (o : Op β) (s : State) {playerId : UUID}
    (h : (s.db.players.get? playerId).isSome) :
    ((exec o s).2.db.players.get? playerId).isSome := by
  cases o with
  | commit changes =>
    cases hc : s.db.commit changes with
    | none => simpa [exec, hc] using h
    | some e => simpa [exec, hc] using commit_players_isSome hc h
  | listen roomCode =>
    rw [exec_listen_db]
    exact h
  | _ => exact h

/-- The step commits `changes` for the process that handles `call`, and the database is `e` then. -/
def Commits (t : system.Transition) (i : ℕ) (call : Call) (changes : Changes) (e : Db) : Prop :=
  t.Runs i call (.commit changes) ∧ Db.commit (State.db t.before.world.state) changes = some e

lemma Commits.db {t : system.Transition} {i : ℕ} {call : Call} {changes : Changes} {e : Db}
    (h : Commits t i call changes e) : State.db t.after.world.state = e := by
  obtain ⟨c, a⟩ := t
  obtain ⟨⟨hact, k, hp⟩, hc⟩ := h
  obtain rfl : a = .run i := hact
  have hp : c.procs[i]? = some ⟨call, .await (.commit changes) k⟩ := hp
  change State.db (Machine.step (.run i) c).world.state = e
  rw [step_run hp rfl]
  exact congrArg (fun x => State.db x.2) (exec_commit_some hc)

lemma Commits.history {t : system.Transition} {i : ℕ} {call : Call} {changes : Changes} {e : Db}
    (h : Commits t i call changes e) :
    t.after.world.history = t.before.world.history ++ [⟨i, .commit changes, .ok ()⟩] := by
  obtain ⟨c, a⟩ := t
  obtain ⟨⟨hact, k, hp⟩, hc⟩ := h
  obtain rfl : a = .run i := hact
  have hp : c.procs[i]? = some ⟨call, .await (.commit changes) k⟩ := hp
  change (Machine.step (.run i) c).world.history = _
  rw [step_run hp rfl, World.perform_history,
    show (system.exec (.commit changes) c.world.state).1 = .ok () from
      congrArg Prod.fst (exec_commit_some hc)]

lemma db_of_no_commit {t : system.Transition}
    (h : ∀ i call changes e, ¬Commits t i call changes e) :
    State.db t.after.world.state = State.db t.before.world.state := by
  obtain ⟨c, a⟩ := t
  change State.db (Machine.step a c).world.state = State.db c.world.state
  have hm := step_moves a c
  generalize Machine.step a c = d at hm
  cases hm with
  | idle => rfl
  | spawn call s admitted => exact (enter_eq_some admitted).1
  | run i call o k pending ready =>
    cases o with
    | commit changes =>
      cases hc : Db.commit (State.db c.world.state) changes with
      | none => exact congrArg (fun x => State.db x.2) (exec_commit_none hc)
      | some e => exact (h i call changes e ⟨⟨rfl, k, pending⟩, hc⟩).elim
    | listen roomCode => exact exec_listen_db roomCode c.world.state
    | _ => rfl
  | fault i e call o k pending => rfl
  | env e => cases e <;> rfl

lemma Commits.within {t : system.Transition} {i : ℕ} {call : Call} {changes : Changes} {e : Db}
    (h : Commits t i call changes e)
    (hc : t.before.Confined fun call => Op.Within (Call.footprint call)) :
    call.footprint.commits changes := by
  obtain ⟨⟨-, k, hp⟩, -⟩ := h
  exact (hc.rest i _ hp).1

/-- The operations that leave the session and the order of a room alone. -/
def Footprint.elsewhere (roomCode : String) : Footprint where
  commits changes := ∀ s ∈ changes.session, s.loaded.roomCode ≠ Runtime.upper roomCode
  stores room _ := room ≠ roomCode
  announces _ _ := True
  arms _ := True
  receives := True
  registers := True
  issues := True
  opens := True

lemma exec_session_elsewhere {β : Type} {o : Op β} {roomCode : String}
    (ho : o.Within (.elsewhere roomCode)) (s : State) :
    (exec o s).2.db.sessions.get? (Runtime.upper roomCode) =
      s.db.sessions.get? (Runtime.upper roomCode) := by
  cases o with
  | commit changes =>
    cases h : s.db.commit changes with
    | none => simp [exec, h]
    | some e =>
      simp only [exec, h, (commit_eq_some h).2]
      exact flushSession_get?_of_ne ho
  | listen roomCode => simp only [exec]; split <;> rfl
  | _ => rfl

lemma exec_position_elsewhere {β : Type} {o : Op β} {roomCode : String}
    (ho : o.Within (.elsewhere roomCode)) (s : State) :
    (exec o s).2.position (Runtime.upper roomCode) = s.position (Runtime.upper roomCode) := by
  simp [State.position, exec_session_elsewhere ho]

lemma exec_questions_elsewhere {β : Type} {o : Op β} {roomCode : String}
    (ho : o.Within (.elsewhere roomCode)) (s : State) :
    (exec o s).2.redis.questions roomCode = s.redis.questions roomCode := by
  cases o with
  | commit changes => cases h : s.db.commit changes <;> simp [exec, h]
  | listen roomCode => simp only [exec]; split <;> rfl
  | setQuestions room ids ex =>
    exact Function.update_of_ne (Ne.symm ho) _ _
  | _ => rfl

/-- The operations that leave the session, the order and the questions of a room alone. -/
def Footprint.offstage (roomCode : String) : Footprint where
  commits changes := ∀ s ∈ changes.session, s.loaded.roomCode ≠ Runtime.upper roomCode
  stores room _ := Runtime.upper room ≠ Runtime.upper roomCode
  announces room _ := Runtime.upper room ≠ Runtime.upper roomCode
  arms _ := True
  receives := True
  registers := True
  issues := True
  opens := True

lemma offstage_elsewhere {β : Type} {o : Op β} {roomCode : String}
    (ho : o.Within (.offstage roomCode)) : o.Within (.elsewhere roomCode) := by
  cases o with
  | setQuestions room ids ex =>
    rintro rfl
    exact ho rfl
  | publish room e => cases e with | mk message excluded => cases message <;> trivial
  | _ => exact ho

def Footprint.silent : Footprint := { Footprint.only fun _ => False with opens := True }

lemma silent_offstage {β : Type} {o : Op β} (ho : o.Within .silent) (roomCode : String) :
    o.Within (.offstage roomCode) := by
  cases o with
  | commit changes => exact ho.elim
  | setQuestions room ids ex => exact ho.elim
  | publish room e =>
    obtain ⟨message, excluded⟩ := e
    cases message with
    | question q => exact ho.elim
    | _ => trivial
  | _ => trivial

lemma silent_elsewhere {β : Type} {o : Op β} (ho : o.Within .silent) (roomCode : String) :
    o.Within (.elsewhere roomCode) :=
  offstage_elsewhere (silent_offstage ho roomCode)

def Call.Elsewhere (roomCode : String) : Call → Prop
  | .hostFrames room _ _ => Runtime.upper room ≠ Runtime.upper roomCode
  | .questionTimeout timer => Runtime.upper timer.roomCode ≠ Runtime.upper roomCode
  | _ => True

lemma Call.Elsewhere.offstage {call : Call} {roomCode : String} (h : call.Elsewhere roomCode) :
    Keeps (.offstage roomCode) (code call) := by
  apply Coro.All.mono (code_keeps call)
  intro β o ho
  cases o with
  | commit changes =>
    intro s hs
    cases call with
    | hostFrames room hostId frames =>
      obtain ⟨d, hd, rfl⟩ := ho
      cases hs
      exact hd.1 ▸ h
    | questionTimeout timer =>
      obtain ⟨g, hg, rfl⟩ := ho
      cases hs
      exact hg ▸ h
    | playerFrame room playerId data =>
      obtain ⟨-, -, -, -, -, p, a, -, -, rfl⟩ := ho.ofAnswer
      cases hs
    | joinRoom room nickname user =>
      obtain ⟨p, -, rfl⟩ := ho
      cases hs
    | playerEndpoint id room origin wsToken =>
      obtain ⟨p, rfl⟩ := ho
      cases hs
    | hostEndpoint | subscriber | delivery => exact ho.elim
  | setQuestions room ids ex =>
    cases call with
    | hostFrames room' hostId frames =>
      obtain rfl : room = room' := ho
      exact h
    | _ => exact ho.elim
  | publish room e =>
    obtain ⟨message, excluded⟩ := e
    cases message with
    | question q =>
      cases call with
      | hostFrames room' hostId frames =>
        obtain rfl : room = room' := ho
        exact h
      | _ => exact ho.elim
    | _ => trivial
  | _ => trivial

lemma Call.Elsewhere.keeps {call : Call} {roomCode : String} (h : call.Elsewhere roomCode) :
    Keeps (.elsewhere roomCode) (code call) :=
  Coro.All.mono h.offstage fun _ ho => offstage_elsewhere ho

end Askit.Game

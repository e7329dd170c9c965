import Askit.Game.Submissions
import Askit.Interleaving.Sequential

/-! What the services do when nothing else happens meanwhile. -/

namespace Askit.Game

open Interleaving Machine Coro Tables

namespace Alone

variable [Runtime]

lemma getCurrentQuestion_alone (s : State) (roomCode : String) :
    (getCurrentQuestion roomCode).alone exec s =
      (.ok (s.db.room? (Runtime.upper roomCode),
        (s.db.room? (Runtime.upper roomCode)).bind fun room =>
        Submissions.currentQuestion s roomCode room.session.currentQuestionIndex), s) := by
  apply (alone_perform_bind (t := s) (a := s.db.room? (Runtime.upper roomCode)) rfl).trans
  cases s.db.room? (Runtime.upper roomCode) with
  | none => rfl
  | some room =>
    simp only [Option.bind_some, Submissions.currentQuestion]
    rw [alone_ite]
    split
    · rfl
    · apply (alone_perform_bind (t := s) (a := s.redis.questions roomCode) rfl).trans
      cases s.redis.questions roomCode with
      | none => rfl
      | some ids => 
        simp only [Option.bind_some]
        cases ids[room.session.currentQuestionIndex - 1]? <;> rfl

lemma timeTaken_alone (s : State) (roomCode : String) (question : QuizQuestion) :
    (timeTaken question (s.redis.questionStart roomCode)).alone exec s =
      (.ok (Submissions.judgedTime s roomCode question [s.now]), s) := by
  unfold Submissions.judgedTime
  cases s.redis.questionStart roomCode <;> rfl

lemma commitAnswer_alone (s : State) (a : GamePlayerAnswer) :
    (commitAnswer (s.db.players.get? a.playerId) a).alone exec s =
      match s.db.commit (.answer (s.db.players.get? a.playerId) a) with
      | some d => (.ok (), { s with db := d })
      | none => (.error .alreadyAnsweredError, s) := by
  change (tryCatch (await (.commit (.answer (s.db.players.get? a.playerId) a))) _ : Handler
    Unit).alone exec s = _
  rw [alone_tryCatch, alone_perform]
  cases h : s.db.commit (.answer (s.db.players.get? a.playerId) a) with
  | none => 
    rw [exec_commit_none h]
    rfl
  | some d => rw [exec_commit_some h]

lemma submitAnswer_alone (s : State) (c : Submission) :
    (submitAnswer c.roomCode c.playerId c.questionId c.answerIds).alone exec s =
      match Submissions.judge s c [s.now] with
      | .error e => (.error e, s)
      | .ok (a, question) =>
        (.ok ⟨a.isCorrect, correctAnswerIds question, a.pointsEarned, a.timeTakenMs⟩,
          { s with
            db := (s.db.commit (.answer (s.db.players.get? a.playerId) a)).getD s.db
            redis := s.redis.setAnswered c.roomCode (s.position (Runtime.upper c.roomCode)).index
              (insert c.playerId (s.redis.answered c.roomCode
                (s.position (Runtime.upper c.roomCode)).index)) }) := by
  apply (alone_perform_bind (t := s) (a := s.db.room? (Runtime.upper c.roomCode)) rfl).trans
  cases hroom : s.db.room? (Runtime.upper c.roomCode) with
  | none => simp [Submissions.judge, hroom]
  | some room =>
    have hindex := Submissions.index_of_room? hroom (t := s) rfl
    simp only [alone_require_bind]
    by_cases hst : room.session.status = .question
    swap
    · simp [Submissions.judge, hroom, hst]
    rw [if_pos hst]
    apply (alone_perform_bind (t := s)
      (a := decide (c.playerId ∈ s.redis.answered c.roomCode room.session.currentQuestionIndex))
        rfl).trans
    rw [alone_require_bind]
    by_cases hans : c.playerId ∈ s.redis.answered c.roomCode room.session.currentQuestionIndex
    · simp [Submissions.judge, hroom, hst, hans]
    rw [if_pos (by simpa using hans)]
    cases hid : Runtime.uuid c.questionId with
    | none =>
      cases hq : Submissions.currentQuestion s c.roomCode room.session.currentQuestionIndex <;>
        simp [Submissions.judge, hroom, hst, hans, hq, hid]
    | some submittedQuestionId =>
      apply (alone_bind_ok (getCurrentQuestion_alone s c.roomCode)).trans
      rw [hroom]
      simp only [Option.bind_some]
      cases hq : Submissions.currentQuestion s c.roomCode room.session.currentQuestionIndex with
      | none => simp [Submissions.judge, hroom, hst, hans, hq]
      | some question =>
        simp only [alone_require_bind]
        by_cases heq : question.questionId = submittedQuestionId
        swap
        · simp [Submissions.judge, hroom, hst, hans, hq, hid, Ne.symm heq, heq]
        subst heq
        rw [if_pos rfl]
        apply (alone_perform_bind (t := s) (a := s.redis.questionStart c.roomCode) rfl).trans
        apply (alone_bind_ok (timeTaken_alone s c.roomCode question)).trans
        apply (alone_perform_bind (t := s) (a := s.db.players.get? c.playerId) rfl).trans
        have hrow : ((s.db.players.get? c.playerId).map fun p =>
            (room.players.find? fun p => p.playerId = c.playerId).getD p) =
              s.db.players.get? c.playerId := by
          simp only [Db.room?, Option.bind_eq_some_iff, Option.map_eq_some_iff] at hroom
          obtain ⟨g, -, quiz, -, rfl⟩ := hroom
          exact Submissions.getD_loaded s.db g.sessionId c.playerId
        simp only [Option.getD_some]
        rw [hrow]
        have hcommit := commitAnswer_alone s (Submissions.judgedRecord s c question [s.now])
        by_cases hst' : Submissions.Storable s.db (Submissions.judgedRecord s c question [s.now])
        · obtain ⟨d, hd, -⟩ := Submissions.commit_of_storable (s.db.players.get? c.playerId) hst'
          have hd' :
            s.db.commit
            (.answer (s.db.players.get? (Submissions.judgedRecord s c question [s.now]).playerId)
            (Submissions.judgedRecord s c question [s.now])) = some d := hd
          rw [hd'] at hcommit
          apply (alone_bind_ok hcommit).trans
          have hj : Submissions.judge s c [s.now] =
              .ok (Submissions.judgedRecord s c question [s.now], question) := by
            simp [Submissions.judge, hroom, hst, hans, hq, hid, hst']
          simp only [hj, hd', Option.getD_some, ← hindex]
          rfl
        · have hd := Submissions.commit_of_not_storable (s.db.players.get? c.playerId) hst'
          have hd' :
            s.db.commit
            (.answer (s.db.players.get? (Submissions.judgedRecord s c question [s.now]).playerId)
            (Submissions.judgedRecord s c question [s.now])) = none := hd
          rw [hd'] at hcommit
          apply (alone_bind_error hcommit).trans
          simp [Submissions.judge, hroom, hst, hans, hq, hid, hst']

/-! The last process, step after step. -/

section Steps

variable {w : system.World} {ps : List system.Proc}

lemma step_spawn {call : Call} {s : State} (h : enter call w.state = some s) :
    step (.spawn call) (⟨w, ps⟩ : system.Config) =
      ⟨⟨s, w.history⟩, ps ++ [⟨call, Game.code call⟩]⟩ := by
  have henter : system.enter call w.state = some s := h
  simp only [step, henter]
  rfl

lemma run_await {call : Call} {β : Type} {o : Op β} {f : β → Handler Unit} {a : β} {t : State}
    (n : ℕ) (hready : ready o w.state = true) (h : exec o w.state = (.ok a, t)) :
    run (runs ps.length (n + 1)) ⟨w, ps ++ [⟨call, await o >>= f⟩]⟩ =
      run (runs ps.length n) ⟨⟨t, w.history ++ [⟨ps.length, o, .ok a⟩]⟩, ps ++ [⟨call, f a⟩]⟩ :=
  run_runs_perform_bind (M := system) n hready h

lemma run_pure {call : Call} (n : ℕ) :
    run (runs ps.length n) (⟨w, ps ++ [⟨call, pure ()⟩]⟩ : system.Config) =
      ⟨w, ps ++ [⟨call, pure ()⟩]⟩ :=
  run_runs_done n

lemma run_sendQuietly {call : Call} (websocket : Socket) (message : Frame) :
    run (runs ps.length 1) (⟨w, ps ++ [⟨call, sendQuietly websocket message⟩]⟩ : system.Config) =
      ⟨⟨w.state, w.history ++ [⟨ps.length, .sendJson websocket message, .ok ()⟩]⟩,
        ps ++ [⟨call, pure ()⟩]⟩ :=
  run_runs_await (M := system) 0 rfl

end Steps

end Alone

def sentFrame : Event Op Exn → Option (Socket × Frame)
  | ⟨_, .sendJson websocket message, .ok _⟩ => some (websocket, message)
  | _ => none

def sentFrames (history : List (Event Op Exn)) : List (Socket × Frame) :=
    history.filterMap sentFrame

end Askit.Game

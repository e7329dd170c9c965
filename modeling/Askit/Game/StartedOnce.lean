import Askit.Game.AnsweredOnce
import Askit.Game.InOrder
import Askit.Interleaving.Credit

/-! A room is started once, and its order is stored once. -/

namespace Askit.Game

open Interleaving Machine Coro Tables

section

variable [Runtime]

def startsRoom (roomCode : String) {β : Type} : Op β → Except Exn β → Bool
  | .commit ⟨some s, _, _, _, _⟩, .ok _ => s.loaded.roomCode = roomCode ∧
  s.current.status = .starting
  | _, _ => false

def storesOrder (roomCode : String) {β : Type} : Op β → Bool
  | .setQuestions room _ _ => Runtime.upper room = roomCode
  | _ => false

namespace InTime

variable {roomCode room : String} {n : ℕ}

abbrev Pays (roomCode : String) (n : ℕ) {α : Type} (x : Handler α) : Prop :=
  x.Pays system.Answers (startsRoom (Runtime.upper roomCode))
    (storesOrder (Runtime.upper roomCode)) n

lemma pays_of_keeps {F : Footprint} {α : Type} {x : Handler α} (hx : Keeps F x)
    (hF : ∀ room ids, F.stores room ids → Runtime.upper room ≠ Runtime.upper roomCode) :
    Pays roomCode n x := by
  apply Coro.Pays.of_all hx
  intro β o ho
  cases o with
  | setQuestions room ids ex => exact decide_eq_false (hF room ids ho)
  | _ => rfl

lemma startGame_pays (hu : Runtime.upper room = Runtime.upper roomCode) (hostId : UUID) :
    Pays roomCode 0 (startGame room hostId) := by
  apply Coro.Pays.perform_bind (fun h => by cases h)
  intro r hroom
  cases r with
  | none => trivial
  | some r =>
    have hkey : r.session.roomCode = Runtime.upper roomCode := hu ▸ roomCode_of_answers hroom
    apply Coro.Pays.require_bind
    intro _
    apply Coro.Pays.require_bind
    intro _
    apply Coro.Pays.bind
    · exact pays_of_keeps (questionOrder_keeps (F := .only fun _ => False) r) fun _ _ h => h.elim
    · intro questions
      apply Coro.Pays.perform_bind (fun h => by cases h)
      intro startedAt _
      apply Coro.Pays.perform_bind (fun h => by cases h)
      rintro ⟨⟩ -
      apply Coro.Pays.perform_bind
      · intro _
        simp [startsRoom, hkey]
      · exact fun _ _ => trivial

lemma hostFrames_pays (hostId : UUID) (frames : List ClientMessage) :
    Pays roomCode 0 (hostFrames room hostId frames) := by
  by_cases hu : Runtime.upper room = Runtime.upper roomCode
  · induction frames with
    | nil => trivial
    | cons data frames ih =>
      refine Coro.Pays.bind ?_ fun _ => ih
      apply Coro.Pays.perform_bind (fun h => by cases h)
      intro _ _
      apply Coro.Pays.tryCatch
      · cases data with
        | startGame =>
          apply Coro.Pays.bind (startGame_pays hu hostId)
          intro questions
          refine pays_of_keeps (F := .started room) ?_ fun _ _ h => h.elim
          exact All.bind (All.forM fun _ _ =>
            All.bind (broadcastToRoom_keeps room (by trivial) none)
            fun _ => (all_perform _).mpr trivial) fun _ => sendQuestion_keeps room _ _
        | nextQuestion => exact pays_of_keeps (handleNextQuestion_keeps room) fun _ _ h => h.elim
        | answer _ _ | malformed => trivial
      · exact fun _ => pays_of_keeps (F := .silent) (sendToHost_keeps _ _) fun _ _ h => h.elim
  · exact pays_of_keeps (hostFrames_keeps room hostId frames) fun _ _ h => h ▸ hu

lemma code_pays (call : Call) : Pays roomCode 0 (code call) := by
  cases call with
  | hostFrames room hostId frames => exact hostFrames_pays hostId frames
  | _ => exact pays_of_keeps (code_keeps _) fun _ _ h => h.elim

structure Once (roomCode : String) (quiz : Quiz) (c : system.Config) : Prop where
  kept : (Progress.discipline roomCode quiz).Kept c
  labelled : c.Labelled
  solvent : c.Solvent (startsRoom (Runtime.upper roomCode)) (storesOrder (Runtime.upper roomCode))
  confined : c.Confined fun call => Op.Within (Call.footprint call)
  spelled : ∀ room hostId frames, .hostFrames room hostId frames ∈ c.calls →
    Runtime.upper room = Runtime.upper roomCode → room = roomCode
  started : c.world.history.countP (fun ev => startsRoom (Runtime.upper roomCode)
    ev.op ev.outcome) ≤
    if position roomCode c.world = ⟨.waiting, 0⟩ then 0 else 1
  stored : (∀ ev ∈ c.world.history, storesOrder (Runtime.upper roomCode) ev.op = false) →
    ∀ room, Runtime.upper room = Runtime.upper roomCode →
      (State.redis c.world.state).questions room = none
  elsewhere : ∀ room, Runtime.upper room = Runtime.upper roomCode → room ≠ roomCode →
    (State.redis c.world.state).questions room = none

variable {quiz : Quiz} {i : ℕ} {call : Call} {v w : system.World}

omit [Runtime] in
lemma starts_iff (ev : Event Op Exn) :
    startsRoom roomCode ev.op ev.outcome ↔ Progress.Starts roomCode ev := by
  obtain ⟨i, o, r⟩ := ev
  cases o with
  | commit changes =>
    obtain ⟨_ | s, _, _, _, _⟩ := changes <;> cases r <;> simp [startsRoom, Progress.Starts]
  | _ => simp [startsRoom, Progress.Starts]

lemma exec_questions {β : Type} {o : Op β} {s : State}
    (h : storesOrder (Runtime.upper room) o = false) :
    (exec o s).2.redis.questions room = s.redis.questions room := by
  cases o with
  | commit changes => cases hc : s.db.commit changes <;> simp [exec, hc]
  | listen roomCode => simp only [exec]; split <;> rfl
  | setQuestions room' ids ex =>
    apply Function.update_of_ne
    rintro rfl
    simp [storesOrder] at h
  | _ => rfl

lemma exec_questions_of_ne {β : Type} {o : Op β} {s : State} {call : Call}
    (ho : o.Within call.footprint)
    (hspelled : ∀ room hostId frames, call = .hostFrames room hostId frames →
      Runtime.upper room = Runtime.upper roomCode → room = roomCode)
    (hu : Runtime.upper room = Runtime.upper roomCode) (hne : room ≠ roomCode) :
    (exec o s).2.redis.questions room = s.redis.questions room := by
  cases o with
  | setQuestions room' ids ex =>
    cases call with
    | hostFrames room₁ hostId frames =>
      obtain rfl : room' = room₁ := ho
      apply Function.update_of_ne
      rintro rfl
      exact hne (hspelled _ hostId frames rfl hu)
    | _ => exact ho.elim
  | _ => exact exec_questions rfl

lemma Once.spelled_step {t : system.Transition} (h : Once roomCode quiz t.before)
    (hu : Undisturbed roomCode t) (room : String) (hostId : UUID) (frames : List ClientMessage)
    (hc : .hostFrames room hostId frames ∈ t.after.calls) :
    Runtime.upper room = Runtime.upper roomCode → room = roomCode := by
  rcases calls_step t.act t.before with hcalls | ⟨call, hact, hcalls⟩
  · exact h.spelled room hostId frames (hcalls ▸ hc)
  · rcases List.mem_append.mp (hcalls ▸ hc) with hc | hc
    · exact h.spelled room hostId frames hc
    · exact hu.oneSpelling (List.mem_singleton.mp hc ▸ hact)

lemma Once.started_step {t : system.Transition} (h : Once roomCode quiz t.before)
    (hf : Faithful t.act) (hu : Undisturbed roomCode t) :
    t.after.world.history.countP (fun ev => startsRoom (Runtime.upper roomCode) ev.op ev.outcome) ≤
      if position roomCode t.after.world = ⟨.waiting, 0⟩ then 0 else 1 := by
  have hs := h.started
  rcases Progress.step_guar h.kept hf hu h.labelled with ⟨i, p, -, -, hg⟩ | ⟨hp, hh⟩
  · obtain ⟨ev, -, hev, hstart⟩ := hg.history
    rw [hev, List.countP_append, List.countP_singleton]
    by_cases he : startsRoom (Runtime.upper roomCode) ev.op ev.outcome = true
    · obtain ⟨hb, ha⟩ := hstart ((starts_iff ev).mp he)
      rw [if_pos hb] at hs
      rw [if_pos he, ha, if_neg (by decide)]
      omega
    · rw [if_neg he]
      have hback : position roomCode t.after.world = ⟨.waiting, 0⟩ →
          position roomCode t.before.world = ⟨.waiting, 0⟩ := by
        intro ha
        rcases hg.moves with hm | hm
        · exact hm.symm.trans ha
        · have hrank := hm.rank_eq
          rw [ha] at hrank
          simp [Position.rank] at hrank
      split_ifs with ha
      · rwa [if_pos (hback ha)] at hs
      · refine hs.trans ?_
        split <;> omega
  · rw [hh, hp]
    exact hs

lemma Once.order_step {t : system.Transition} (h : Once roomCode quiz t.before)
    (hf : Faithful t.act) :
    ((∀ ev ∈ t.after.world.history, storesOrder (Runtime.upper roomCode) ev.op = false) →
      ∀ room, Runtime.upper room = Runtime.upper roomCode →
        (State.redis t.after.world.state).questions room = none) ∧
    ∀ room, Runtime.upper room = Runtime.upper roomCode → room ≠ roomCode →
      (State.redis t.after.world.state).questions room = none := by
  obtain ⟨c, a⟩ := t
  have hm := step_moves a c
  simp only [Transition.after]
  generalize Machine.step a c = d at hm
  cases hm with
  | idle => exact ⟨h.stored, h.elsewhere⟩
  | spawn call s admitted =>
    obtain ⟨-, hr, -⟩ := enter_eq_some admitted
    simp only [hr]
    exact ⟨h.stored, h.elsewhere⟩
  | run i call o k pending ready =>
    constructor
    · intro hno room hu
      have hlast : storesOrder (Runtime.upper roomCode) o = false :=
        hno ⟨i, o, (system.exec o c.world.state).1⟩ (by simp)
      have hbefore := h.stored (fun ev hev => hno ev (by simp [hev])) room hu
      exact (exec_questions (hu ▸ hlast)).trans hbefore
    · intro room hu hne
      have hcall : call ∈ c.calls := List.mem_of_getElem? (getElem?_calls pending)
      refine (exec_questions_of_ne (h.confined.rest i _ pending).1 ?_ hu hne).trans
        (h.elsewhere room hu hne)
      rintro room' hostId frames rfl
      exact h.spelled room' hostId frames hcall
  | fault i e call o k pending => exact hf.elim
  | env e =>
    cases e with
    | clock now => exact ⟨h.stored, h.elsewhere⟩
    | lose key => exact hf.elim

lemma Once.step {t : system.Transition} (h : Once roomCode quiz t.before) (hf : Faithful t.act)
    (hu : Undisturbed roomCode t) : Once roomCode quiz t.after where
  kept := h.kept.step (Progress.permits hf hu h.labelled)
  labelled := h.labelled.step t.act
  solvent := h.solvent.step code_pays t.act
  confined := h.confined.step code_keeps t.act
  spelled := h.spelled_step hu
  started := h.started_step hf hu
  stored := (h.order_step hf).1
  elsewhere := (h.order_step hf).2

lemma Once.unstored {t : system.Transition} (h : Once roomCode quiz t.before) {i : ℕ} {call : Call}
    {room : String} {ids : List UUID} {ex : ℕ} (hr : t.Runs i call (.setQuestions room ids ex))
    (hu : Runtime.upper room = Runtime.upper roomCode) (room' : String)
    (hu' : Runtime.upper room' = Runtime.upper roomCode) :
    (State.redis t.before.world.state).questions room' = none := by
  obtain ⟨-, k, hp⟩ := hr
  refine h.stored (h.solvent.unspent ?_ hp (by simp [storesOrder, hu])) room' hu'
  refine h.started.trans ?_
  split <;> omega

end InTime

end

end Askit.Game

import Askit.Game.Balance

/-! The account of a broadcast along a run. -/

namespace Askit.Game.ConnectionManager

open Interleaving Machine Coro

namespace Underway

variable {k : ℕ} {roomCode : String} {parcel : Parcel} {websocket : Socket} {c : manager.Config}

lemma live_exec (h : Underway k roomCode parcel websocket c) {β : Type} {o : Op β}
    (ho : ¬o.Removes websocket roomCode) :
    ∀ t ∈ (exec o c.world.state).2.tasks, ∀ p ∈ t.inbox, p.serial = parcel.serial →
      t.cancelled = false := by
  have hkept : ∀ {task : ℕ} {f : Task → Task}, (∀ t, (f t).cancelled = t.cancelled) →
      (∀ t, ∀ p ∈ (f t).inbox, p ∈ t.inbox) →
      ∀ t ∈ (Manager.tasks c.world.state).modify task f, ∀ p ∈ t.inbox, p.serial = parcel.serial →
        t.cancelled = false := by
    intro task f hcancelled hinbox t' ht' p hp hserial
    obtain ⟨t, ht, rfl | rfl⟩ := mem_modify ht'
    · exact h.live t' ht p hp hserial
    · exact (hcancelled t).trans (h.live t ht p (hinbox t p hp) hserial)
  cases o with
  | joinRoom w room playerId =>
    intro t ht p hp hserial
    rcases tasks_join ht with ht | hnil
    · exact h.live t ht p hp hserial
    · rw [hnil] at hp
      cases hp
  | leaveRoom w room =>
    simp only [exec, Manager.leave]
    split
    case isFalse => exact h.live
    case isTrue hemptied =>
      unfold Manager.unsubscribe
      dsimp only
      split
      case h_2 => exact h.live
      case h_1 task hs =>
        intro t' ht' p hp hserial
        obtain ⟨j, hj⟩ := List.mem_iff_getElem?.mp ht'
        obtain ⟨t, ht, hroom, -⟩ := (h.sound.housed.current room task).mp hs
        simp only [List.getElem?_modify] at hj
        by_cases heq : task = j
        · subst heq
          simp only [ht, Option.map_eq_map, Option.map_some, if_true, Option.some.injEq] at hj
          subst hj
          -- the cancelled task would be the one of the socket's own room
          obtain ⟨rfl, -⟩ := h.is_parcel (h.sound.inbox t (List.mem_of_getElem? ht) p hp) hserial
          have hmember : websocket ∈ (Manager.rooms c.world.state room).erase w := by
            rw [← hroom]
            exact (List.mem_erase_of_ne fun hw => ho ⟨hw.symm, hroom.symm⟩).mpr h.member
          rw [hemptied.2] at hmember
          cases hmember
        · simp only [heq, if_false, Option.map_eq_map, Option.map_id'] at hj
          exact h.live t' (List.mem_of_getElem? hj) p hp hserial
  | publish room q =>
    intro t' ht' p hp hserial
    obtain ⟨t, ht, rfl⟩ := List.mem_map.mp ht'
    by_cases hhears : t.hears room = true
    · rw [if_pos hhears]
      exact (hears_iff.mp hhears).2.2
    · rw [if_neg hhears] at hp ⊢
      exact h.live t ht p hp hserial
  | forget room playerId => cases playerId <;> exact h.live
  | subscribe task =>
    simp only [exec]
    split
    · split
      · exact h.live
      · exact hkept (fun _ => rfl) fun _ _ hp => hp
    · exact h.live
  | listen task =>
    simp only [exec]
    split
    · exact hkept (fun _ => rfl) fun _ _ hp => List.mem_of_mem_tail hp
    · exact h.live
  | _ => exact h.live

lemma unread_enter (serial : ℕ) {call : Call} {m m' : Manager} (he : enter call m = some m') :
    unread serial m'.tasks = unread serial m.tasks := by
  cases call with
  | broadcast room p =>
    simp only [enter] at he
    split at he <;> cases he
    rfl
  | subscriber task room rounds =>
    simp only [enter] at he
    split at he <;> cases he
    exact unread_modify fun _ => rfl
  | _ =>
    cases he
    rfl

lemma live_enter {serial : ℕ} {call : Call} {m m' : Manager} (he : enter call m = some m')
    (h : ∀ t ∈ m.tasks, ∀ p ∈ t.inbox, p.serial = serial → t.cancelled = false) :
    ∀ t ∈ m'.tasks, ∀ p ∈ t.inbox, p.serial = serial → t.cancelled = false := by
  cases call with
  | broadcast room p =>
    simp only [enter] at he
    split at he <;> cases he
    exact h
  | subscriber task room rounds =>
    simp only [enter] at he
    split at he <;> cases he
    intro t' ht' p hp hserial
    obtain ⟨t, ht, rfl | rfl⟩ := mem_modify ht'
    · exact h t' ht p hp hserial
    · exact h t ht p hp hserial
  | _ =>
    cases he
    exact h

lemma unread_break (serial : ℕ) {tasks : List Task} {task : ℕ}
    (h : ∀ t, tasks[task]? = some t → ∀ p ∈ t.inbox, p.serial ≠ serial) :
    unread serial (tasks.modify task fun t =>
      { t with listening := false, broken := true, inbox := [] }) = unread serial tasks := by
  unfold unread
  congr 1
  apply List.ext_getElem?
  intro j
  rw [List.getElem?_map, List.getElem?_map, List.getElem?_modify]
  cases ht : tasks[j]? with
  | none => rfl
  | some t =>
    by_cases heq : task = j
    · subst heq
      have hcount : t.inbox.countP (fun p => p.serial = serial) = 0 := by
        rw [List.countP_eq_zero]
        intro p hp
        simpa using h t ht p hp
      simp [hcount]
    · simp [heq]

lemma unread_break_lt {serial : ℕ} {tasks : List Task} {task : ℕ} {t : Task} {p : Parcel}
    (ht : tasks[task]? = some t) (hp : p ∈ t.inbox) (hserial : p.serial = serial) :
    unread serial (tasks.modify task fun t =>
      { t with listening := false, broken := true, inbox := [] }) < unread serial tasks := by
  induction tasks generalizing task with
  | nil => cases ht
  | cons a tasks ih =>
    cases task with
    | zero =>
      obtain rfl : a = t := by simpa using ht
      have hpos : 0 < a.inbox.countP fun p => p.serial = serial :=
        List.countP_pos_iff.mpr ⟨p, hp, by simpa using hserial⟩
      simp only [unread, List.modify_zero_cons, List.map_cons, List.sum_cons, List.countP_nil]
      omega
    | succ task =>
      have hrest := ih ht
      simp only [unread, List.modify_succ_cons, List.map_cons, List.sum_cons] at hrest ⊢
      omega

lemma not_removes {i : ℕ} {call : Call} {β : Type} {o : Op β} {r : Except Exn β}
    (hcall : c.calls[i]? = some call) (hduty : Dutiful call (own i c.world.history) ⟨i, o, r⟩)
    (hstays : ∀ call ∈ c.calls, ¬Call.Leaves websocket roomCode call) :
    ¬o.Removes websocket roomCode := by
  intro hremoves
  cases o with
  | leaveRoom w room =>
    obtain ⟨rfl, rfl⟩ := hremoves
    apply hstays call (List.mem_of_getElem? hcall)
    rcases hduty with rfl | ⟨p, rfl⟩
    · exact ⟨rfl, rfl⟩
    · exact ⟨rfl, rfl⟩
  | _ => exact hremoves

lemma duty_run {i : ℕ} {call : Call} {β : Type} {o : Op β} {q : Except Exn β → Handler Unit}
    (h : Underway k roomCode parcel websocket c)
    (pending : c.procs[i]? = some ⟨call, .await o q⟩) :
    Dutiful call (own i c.world.history) ⟨i, o, (exec o c.world.state).1⟩ :=
  (h.traced.rest i _ pending (exec o c.world.state).1 fun _ ha => ⟨c.world.state, ha⟩).1

lemma duty_fault {i : ℕ} {call : Call} {β : Type} {o : Op β} {q : Except Exn β → Handler Unit}
    (h : Underway k roomCode parcel websocket c)
    (pending : c.procs[i]? = some ⟨call, .await o q⟩) (e : Exn) :
    Dutiful call (own i c.world.history) ⟨i, o, .error e⟩ :=
  (h.traced.rest i _ pending (.error e) fun a ha => by cases ha).1

lemma step (h : Underway k roomCode parcel websocket c) (a : manager.Act)
    (hstays : ∀ call ∈ c.calls, ¬Call.Leaves websocket roomCode call) :
    Underway k roomCode parcel websocket (Machine.step a c) := by
  have hlabelled := h.labelled.step a
  have htraced := h.traced.step h.labelled (fun i call => code_follows i call) a
  have horigin := call_step (a := a) h.origin
  have hm := step_moves a c
  generalize Machine.step a c = d at hm hlabelled htraced horigin
  cases hm with
  | idle => exact h
  | spawn call s admitted =>
    have hadmitted : enter call c.world.state = some s := admitted
    exact ⟨hlabelled, htraced, h.sound.spawn hadmitted, horigin,
      (Sound.enters hadmitted).rooms.symm ▸ h.member, live_enter hadmitted h.live⟩
  | env e =>
    obtain ⟨task⟩ := e
    refine ⟨hlabelled, htraced, h.sound.breaks task, horigin, h.member, ?_⟩
    intro t' ht' p hp hserial
    obtain ⟨t, ht, rfl | rfl⟩ := mem_modify ht'
    · exact h.live t' ht p hp hserial
    · cases hp
  | run i call o q pending ready =>
    have hremoves := not_removes (getElem?_calls pending) (h.duty_run pending) hstays
    exact ⟨hlabelled, htraced, h.sound.resume pending (h.duty_run pending)
      (effect_exec i o), horigin, exec_member h.member hremoves, h.live_exec hremoves⟩
  | fault i e call o q pending =>
    exact ⟨hlabelled, htraced, h.sound.resume pending (h.duty_fault pending e) (effect_fault i o e),
      horigin, h.member, h.live⟩

lemma account_step (h : Underway k roomCode parcel websocket c) {a : manager.Act}
    (hraises : raisesAwaited ⟨c, a⟩ = true) (hheard : heard k parcel.serial ⟨c, a⟩ = true)
    (hforeign : ∀ q ∈ parcel.excludePlayerId, ∀ room, .connect websocket room q ∉ c.calls) :
    account websocket parcel.serial k (Machine.step a c) = account websocket parcel.serial k c := by
  have hm := step_moves a c
  generalize Machine.step a c = d at hm
  cases hm with
  | idle => rfl
  | spawn call s admitted =>
    have hunread := unread_enter parcel.serial
      (show enter call c.world.state = some s from admitted)
    have htotal := total_succ (μ := fun l => owes websocket parcel.serial (phase l)) rfl h.labelled
    unfold account
    rw [List.length_append, List.length_singleton, htotal, hunread]
  | env e =>
    obtain ⟨task⟩ := e
    have hlost : ∀ t, (Manager.tasks c.world.state)[task]? = some t →
        ∀ p ∈ t.inbox, p.serial ≠ parcel.serial := by
      intro t ht
      simpa [heard, ht] using hheard
    unfold account
    rw [show unread parcel.serial (Manager.tasks (manager.env (.breaks task) c.world.state)) =
      _ from
      unread_break parcel.serial hlost]
  | run i call o q pending ready =>
    have hheard : i = k → o.heard c.world.state = true := by
      rintro rfl
      simpa [heard, pending] using hheard
    have hresume := account_resume k parcel websocket pending
      (exec o c.world.state).1 (exec o c.world.state).2
    rw [h.balanced_run (getElem?_calls pending) (h.duty_run pending) hheard hforeign] at hresume
    exact Nat.add_right_cancel hresume
  | fault i e call o q pending =>
    have hraises : o.fallible = true := by
      simpa only [raisesAwaited, pending] using hraises
    have hresume := account_resume k parcel websocket pending
      (.error e) c.world.state
    rw [h.balanced_fault (getElem?_calls pending) (h.duty_fault pending e) hraises] at hresume
    exact Nat.add_right_cancel hresume

lemma account_unheard (h : Underway k roomCode parcel websocket c) {a : manager.Act}
    (hle : account websocket parcel.serial k c ≤ 1)
    (hheard : heard k parcel.serial ⟨c, a⟩ = false) :
    account websocket parcel.serial k c = 1 ∧
      account websocket parcel.serial k (Machine.step a c) = 0 := by
  cases a with
  | spawn call => cases hheard
  | fault i e => cases hheard
  | env e =>
    obtain ⟨task⟩ := e
    cases ht : (Manager.tasks c.world.state)[task]? with
    | none => simp [heard, ht] at hheard
    | some t =>
      obtain ⟨p, hp, hserial⟩ : ∃ p ∈ t.inbox, p.serial = parcel.serial := by
        simpa [heard, ht] using hheard
      have hlt := unread_break_lt ht hp hserial
      change _ ∧ unpublished (own k c.world.history) + unread parcel.serial
        ((Manager.tasks c.world.state).modify task fun t =>
          { t with listening := false, broken := true, inbox := [] }) +
        total (fun l => owes websocket parcel.serial (phase l)) c.world.history c.procs.length +
        sends websocket parcel.serial c.world.history = 0
      unfold account at hle ⊢
      omega
  | run i =>
    simp only [heard, Bool.or_eq_false_iff, ne_eq, decide_not, Bool.not_eq_false',
      decide_eq_true_eq] at hheard
    obtain ⟨rfl, hpending⟩ := hheard
    cases hp : c.procs[i]? with
    | none => simp [hp] at hpending
    | some proc =>
      obtain ⟨call, r | ⟨o, q⟩⟩ := proc
      · simp [hp] at hpending
      · rw [hp] at hpending
        cases o with
        | publish room p =>
          obtain ⟨hl, rfl⟩ := h.duty_run hp
          obtain ⟨-, rfl, rfl⟩ := h.is_origin (getElem?_calls hp) (h.own_serial (getElem?_calls hp))
          have hnone : (Manager.tasks c.world.state).countP (fun t => t.hears room) = 0 := by
            rw [List.countP_eq_zero]
            simpa [Op.heard] using hpending
          have hresume := account_resume i p websocket hp
            (.ok ()) (Manager.publish c.world.state room p)
          rw [step_run hp rfl]
          unfold share at hresume
          rw [unread_publish c.world.state room p, hl, phase_append, if_pos rfl,
            if_pos rfl, if_pos rfl, hnone] at hresume
          change _ + (1 + _ + 0) = _ + (0 + _ + 0 + 0) at hresume
          change account websocket p.serial i c = 1 ∧ account websocket p.serial i ⟨⟨Manager.publish
            c.world.state room p, c.world.history ++ [⟨i, .publish room p, .ok ()⟩]⟩,
            c.procs.set i ⟨_, q (.ok ())⟩⟩ = 0
          omega
        | _ => cases hpending

end Underway

end Askit.Game.ConnectionManager

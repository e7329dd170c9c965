import Askit.Game.Phases

/-! Each room with sockets has one subscriber task that has not been cancelled. -/

namespace Askit.Game.ConnectionManager

open Interleaving Machine Coro

section Current

variable {subscriptions : String → Option ℕ} {tasks : List Task} {roomCode : String} {task : ℕ}

/-- The entries of `_subscriptions` are the tasks that have not been cancelled. -/
def Current (subscriptions : String → Option ℕ) (tasks : List Task) : Prop :=
  ∀ roomCode task, subscriptions roomCode = some task ↔
    ∃ t, tasks[task]? = some t ∧ t.roomCode = roomCode ∧ t.cancelled = false

lemma Current.lt (h : Current subscriptions tasks) (ht : subscriptions roomCode = some task) :
    task < tasks.length := by
  obtain ⟨t, ht, -⟩ := (h roomCode task).mp ht
  exact (List.getElem?_eq_some_iff.mp ht).1

lemma Current.concat (h : Current subscriptions tasks) (hnone : subscriptions roomCode = none) :
    Current (Function.update subscriptions roomCode (some tasks.length))
      (tasks ++ [⟨roomCode, false, false, false, false, []⟩]) := by
  intro room task
  rcases Nat.lt_trichotomy task tasks.length with hlt | rfl | hgt
  · rw [List.getElem?_append_left hlt, ← h room task]
    by_cases heq : room = roomCode
    · subst heq
      rw [Function.update_self, hnone, Option.some.injEq]
      constructor
      · rintro rfl
        exact absurd hlt (Nat.lt_irrefl _)
      · rintro ⟨⟩
    · rw [Function.update_of_ne heq]
  · rw [List.getElem?_concat_length]
    by_cases heq : room = roomCode
    · subst heq
      simp
    · rw [Function.update_of_ne heq]
      constructor
      · exact fun ht => absurd (h.lt ht) (Nat.lt_irrefl _)
      · rintro ⟨t, ⟨⟩, hroom, -⟩
        exact (heq hroom.symm).elim
  · have hnone' : (tasks ++ [⟨roomCode, false, false, false, false, []⟩])[task]? = none :=
      List.getElem?_eq_none (by simp; omega)
    rw [hnone']
    constructor
    · intro ht
      by_cases heq : room = roomCode
      · subst heq
        rw [Function.update_self, Option.some.injEq] at ht
        omega
      · rw [Function.update_of_ne heq] at ht
        have := h.lt ht
        omega
    · rintro ⟨t, ⟨⟩, -⟩

lemma Current.modify (h : Current subscriptions tasks) {f : Task → Task}
    (hroom : ∀ t, (f t).roomCode = t.roomCode) (hcancelled : ∀ t, (f t).cancelled = t.cancelled) :
    Current subscriptions (tasks.modify task f) := by
  intro room j
  rw [h room j, List.getElem?_modify]
  cases tasks[j]? with
  | none => simp
  | some t =>
    by_cases heq : task = j <;> simp [heq, hroom, hcancelled]

lemma Current.map (h : Current subscriptions tasks) {f : Task → Task}
    (hroom : ∀ t, (f t).roomCode = t.roomCode) (hcancelled : ∀ t, (f t).cancelled = t.cancelled) :
    Current subscriptions (tasks.map f) := by
  intro room j
  rw [h room j, List.getElem?_map]
  cases tasks[j]? with
  | none => simp
  | some t => simp [hroom, hcancelled]

lemma Current.cancel (h : Current subscriptions tasks) (hs : subscriptions roomCode = some task) :
    Current (Function.update subscriptions roomCode none)
      (tasks.modify task fun t => { t with cancelled := true }) := by
  obtain ⟨t, ht, hroom, hcancelled⟩ := (h roomCode task).mp hs
  intro room j
  rw [List.getElem?_modify]
  by_cases hj : task = j
  · subst hj
    rw [ht]
    by_cases heq : room = roomCode
    · subst heq
      simp
    · rw [Function.update_of_ne heq, h room task, ht]
      simp [hroom, Ne.symm heq]
  · by_cases heq : room = roomCode
    · subst heq
      rw [Function.update_self]
      constructor
      · rintro ⟨⟩
      · rintro ⟨t', ht', hroom', hcancelled'⟩
        have hs' := (h room j).mpr ⟨t', by simpa [hj] using ht', hroom', hcancelled'⟩
        rw [hs] at hs'
        exact (hj (by simpa using hs')).elim
    · rw [Function.update_of_ne heq, h room j]
      cases tasks[j]? <;> simp [hj]

end Current

structure Housed (m : Manager) : Prop where
  nodup : ∀ roomCode, (m.rooms roomCode).Nodup
  subscribed : ∀ roomCode, m.rooms roomCode ≠ [] → m.subscriptions roomCode ≠ none
  current : Current m.subscriptions m.tasks

namespace Housed

variable {m : Manager} {websocket : Socket} {roomCode : String} {playerId : Option UUID} {task : ℕ}

lemma empty : Housed Manager.empty where
  nodup _ := List.nodup_nil
  subscribed _ h := (h rfl).elim
  current _ task := by simp [Manager.empty]

lemma subscribeToRoom (h : Housed m) : Housed (m.subscribeToRoom roomCode) ∧
    (m.subscribeToRoom roomCode).subscriptions roomCode ≠ none := by
  unfold Manager.subscribeToRoom
  split
  case isFalse hsome => exact ⟨h, hsome⟩
  case isTrue hnone =>
    refine ⟨⟨h.nodup, fun room hroom => ?_, h.current.concat hnone⟩, by simp⟩
    by_cases heq : room = roomCode
    · subst heq
      simp
    · exact (Function.update_of_ne heq _ _).trans_ne (h.subscribed room hroom)

lemma join (h : Housed m) : Housed (m.join websocket roomCode playerId) := by
  have hsub : Housed (if m.rooms roomCode = [] then m.subscribeToRoom roomCode else m) ∧
      (if m.rooms roomCode = [] then m.subscribeToRoom roomCode else m).subscriptions
        roomCode ≠ none ∧
      (if m.rooms roomCode = [] then m.subscribeToRoom roomCode else m).rooms = m.rooms := by
    split
    case isTrue =>
      refine ⟨h.subscribeToRoom.1, h.subscribeToRoom.2, ?_⟩
      unfold Manager.subscribeToRoom
      split <;> rfl
    case isFalse hne => exact ⟨h, h.subscribed roomCode hne, rfl⟩
  unfold Manager.join
  generalize (if m.rooms roomCode = [] then m.subscribeToRoom roomCode else m) = m' at hsub
  obtain ⟨hm', hsome, hrooms⟩ := hsub
  refine ⟨fun room => ?_, fun room hroom => ?_, hm'.current⟩
  · by_cases heq : room = roomCode
    · subst heq
      dsimp only
      rw [Function.update_self]
      exact (h.nodup room).insert
    · dsimp only
      rw [Function.update_of_ne heq]
      exact h.nodup room
  · by_cases heq : room = roomCode
    · subst heq
      exact hsome
    · dsimp only at hroom
      rw [Function.update_of_ne heq, ← hrooms] at hroom
      exact hm'.subscribed room hroom

lemma unsubscribe (h : Housed m) (hm : m.rooms roomCode = []) :
    Housed (m.unsubscribe roomCode) := by
  unfold Manager.unsubscribe
  split
  case h_2 => exact h
  case h_1 task hs =>
    refine ⟨h.nodup, fun room hroom => ?_, h.current.cancel hs⟩
    by_cases heq : room = roomCode
    · subst heq
      exact (hroom hm).elim
    · dsimp only
      rw [Function.update_of_ne heq]
      exact h.subscribed room hroom

lemma leave (h : Housed m) : Housed (m.leave websocket roomCode).2 := by
  have hrest : ∀ room, (Function.update m.rooms roomCode
    ((m.rooms roomCode).erase websocket) room).Nodup ∧
      (Function.update m.rooms roomCode ((m.rooms roomCode).erase websocket) room ≠ [] →
        m.rooms room ≠ []) := by
    intro room
    by_cases heq : room = roomCode
    · subst heq
      rw [Function.update_self]
      refine ⟨(h.nodup room).erase _, fun hne hnil => ?_⟩
      rw [hnil] at hne
      exact hne rfl
    · rw [Function.update_of_ne heq]
      exact ⟨h.nodup room, id⟩
  have hm' : Housed { m with
      rooms := Function.update m.rooms roomCode ((m.rooms roomCode).erase websocket),
        locked := true } :=
    ⟨fun room => (hrest room).1, fun room hroom => h.subscribed room
      ((hrest room).2 hroom), h.current⟩
  unfold Manager.leave
  dsimp only
  split
  case isTrue hempty => exact hm'.unsubscribe ((Function.update_self _ _ _).trans hempty.2)
  case isFalse => exact hm'

lemma modifyTask (h : Housed m) {f : Task → Task} (hroom : ∀ t, (f t).roomCode = t.roomCode)
    (hcancelled : ∀ t, (f t).cancelled = t.cancelled) : Housed (m.modifyTask task f) :=
  ⟨h.nodup, h.subscribed, h.current.modify hroom hcancelled⟩

lemma publish (h : Housed m) (parcel : Parcel) : Housed (m.publish roomCode parcel) := by
  refine ⟨h.nodup, h.subscribed, h.current.map ?_ ?_⟩
  · intro t
    split <;> rfl
  · intro t
    split <;> rfl

lemma exec (h : Housed m) {β : Type} (o : Op β) : Housed (exec o m).2 := by
  cases o with
  | joinRoom => exact h.join
  | leaveRoom => exact h.leave
  | publish roomCode parcel => exact h.publish parcel
  | forget roomCode playerId => cases playerId <;> exact ⟨h.nodup, h.subscribed, h.current⟩
  | releaseLock => exact ⟨h.nodup, h.subscribed, h.current⟩
  | subscribe task =>
    simp only [ConnectionManager.exec]
    split
    · split
      · exact h
      · exact h.modifyTask (fun _ => rfl) fun _ => rfl
    · exact h
  | listen task =>
    simp only [ConnectionManager.exec]
    split
    · exact h.modifyTask (fun _ => rfl) fun _ => rfl
    · exact h
  | _ => exact h

lemma enter (h : Housed m) {call : Call} {m' : Manager} (he : enter call m = some m') :
    Housed m' := by
  cases call with
  | broadcast roomCode parcel =>
    simp only [ConnectionManager.enter] at he
    split at he <;> cases he
    exact ⟨h.nodup, h.subscribed, h.current⟩
  | subscriber task roomCode rounds =>
    simp only [ConnectionManager.enter] at he
    split at he <;> cases he
    exact h.modifyTask (fun _ => rfl) fun _ => rfl
  | _ =>
    cases he
    exact h

end Housed

end Askit.Game.ConnectionManager

import Askit.Game.Tasks

/-! What the single operations do to the rooms, the players and the inboxes. -/

namespace Askit.Game.ConnectionManager

open Interleaving Machine Coro

section Effects

variable {m : Manager} {websocket : Socket} {roomCode : String}

lemma rooms_unsubscribe (m : Manager) (roomCode : String) :
    (m.unsubscribe roomCode).rooms = m.rooms := by
  unfold Manager.unsubscribe
  split <;> rfl

lemma players_unsubscribe (m : Manager) (roomCode : String) :
    (m.unsubscribe roomCode).players = m.players := by
  unfold Manager.unsubscribe
  split <;> rfl

lemma rooms_leave (m : Manager) (websocket : Socket) (roomCode : String) :
    (m.leave websocket roomCode).2.rooms =
      Function.update m.rooms roomCode ((m.rooms roomCode).erase websocket) := by
  unfold Manager.leave
  dsimp only
  split
  · rw [rooms_unsubscribe]
  · rfl

lemma players_leave (m : Manager) (websocket : Socket) (roomCode : String) :
    (m.leave websocket roomCode).2.players = m.players := by
  unfold Manager.leave
  dsimp only
  split
  · rw [players_unsubscribe]
  · rfl

def Op.Removes (websocket : Socket) (roomCode : String) : {β : Type} → Op β → Prop
  | _, .leaveRoom w room => w = websocket ∧ room = roomCode
  | _, _ => False

def Op.Seats (entry : UUID × Socket) : {β : Type} → Op β → Prop
  | _, .joinRoom w _ p => p = some entry.1 ∧ w = entry.2
  | _, _ => False

def Op.Publishes (roomCode : String) (parcel : Parcel) : {β : Type} → Op β → Prop
  | _, .publish room p => room = roomCode ∧ p = parcel
  | _, _ => False

lemma exec_member {β : Type} {o : Op β} (h : websocket ∈ m.rooms roomCode)
    (ho : ¬o.Removes websocket roomCode) :
    websocket ∈ (exec o m).2.rooms roomCode := by
  cases o with
  | joinRoom w room playerId =>
    change websocket ∈ Function.update m.rooms room (insert w (m.rooms room)) roomCode
    by_cases heq : roomCode = room
    · subst heq
      rw [Function.update_self]
      exact List.mem_insert_of_mem h
    · rw [Function.update_of_ne heq]
      exact h
  | leaveRoom w room =>
    change websocket ∈ (m.leave w room).2.rooms roomCode
    rw [rooms_leave]
    by_cases heq : roomCode = room
    · subst heq
      rw [Function.update_self]
      exact (List.mem_erase_of_ne fun hw => ho ⟨hw.symm, rfl⟩).mpr h
    · rw [Function.update_of_ne heq]
      exact h
  | forget room playerId => cases playerId <;> exact h
  | subscribe task =>
    simp only [exec]
    split
    · split <;> exact h
    · exact h
  | listen task =>
    simp only [exec]
    split <;> exact h
  | _ => exact h

lemma mem_setPlayer {players : List (UUID × Socket)} {p : UUID} {entry : UUID × Socket}
    (h : entry ∈ Manager.setPlayer players p websocket) :
    entry ∈ players ∨ entry = (p, websocket) := by
  unfold Manager.setPlayer at h
  split at h
  · obtain ⟨old, hold, rfl⟩ := List.mem_map.mp h
    split
    · exact .inr rfl
    · exact .inl hold
  · simpa using h

lemma exec_players {β : Type} {o : Op β} {entry : UUID × Socket}
    (h : entry ∈ (exec o m).2.players) :
    entry ∈ m.players ∨ o.Seats entry := by
  cases o with
  | joinRoom w room playerId =>
    cases playerId with
    | none => exact .inl h
    | some p =>
      rcases mem_setPlayer h with h | rfl
      · exact .inl h
      · exact .inr ⟨rfl, rfl⟩
  | leaveRoom w room =>
    change entry ∈ (m.leave w room).2.players at h
    rw [players_leave] at h
    exact .inl h
  | forget room playerId =>
    cases playerId with
    | none => exact .inl h
    | some p => exact .inl (List.mem_of_mem_filter h)
  | subscribe task =>
    simp only [exec] at h
    split at h
    · split at h <;> exact .inl h
    · exact .inl h
  | listen task =>
    simp only [exec] at h
    split at h <;> exact .inl h
  | _ => exact .inl h

lemma mem_modify {tasks : List Task} {task : ℕ} {f : Task → Task} {t' : Task}
    (h : t' ∈ tasks.modify task f) : ∃ t ∈ tasks, t' = t ∨ t' = f t := by
  obtain ⟨j, hj⟩ := List.mem_iff_getElem?.mp h
  rw [List.getElem?_modify] at hj
  cases ht : tasks[j]? with
  | none => simp [ht] at hj
  | some t =>
    rw [ht] at hj
    obtain rfl : (if task = j then f t else t) = t' := by simpa using hj
    refine ⟨t, List.mem_of_getElem? ht, ?_⟩
    split
    · exact .inr rfl
    · exact .inl rfl

lemma tasks_subscribeToRoom {t : Task} (h : t ∈ (m.subscribeToRoom roomCode).tasks) :
    t ∈ m.tasks ∨ t.inbox = [] := by
  unfold Manager.subscribeToRoom at h
  split at h
  · rcases List.mem_append.mp h with h | h
    · exact .inl h
    · rw [List.mem_singleton.mp h]
      exact .inr rfl
  · exact .inl h

lemma tasks_join {playerId : Option UUID} {t : Task}
    (h : t ∈ (m.join websocket roomCode playerId).tasks) :
    t ∈ m.tasks ∨ t.inbox = [] := by
  change t ∈ (if m.rooms roomCode = [] then m.subscribeToRoom roomCode else m).tasks at h
  split at h
  · exact tasks_subscribeToRoom h
  · exact .inl h

lemma exec_inbox {β : Type} {o : Op β} {t' : Task} (h : t' ∈ (exec o m).2.tasks) :
    t'.inbox = [] ∨ ∃ t ∈ m.tasks, t'.roomCode = t.roomCode ∧
      ∀ p ∈ t'.inbox, p ∈ t.inbox ∨ o.Publishes t.roomCode p := by
  have hkept : t' ∈ m.tasks → t'.inbox = [] ∨ ∃ t ∈ m.tasks, t'.roomCode = t.roomCode ∧
      ∀ p ∈ t'.inbox, p ∈ t.inbox ∨ o.Publishes t.roomCode p :=
    fun h => .inr ⟨t', h, rfl, fun p hp => .inl hp⟩
  have hmodified : ∀ {task : ℕ} {f : Task → Task}, t' ∈ m.tasks.modify task f →
      (∀ t, (f t).roomCode = t.roomCode ∧ ∀ p ∈ (f t).inbox, p ∈ t.inbox) →
      t'.inbox = [] ∨ ∃ t ∈ m.tasks, t'.roomCode = t.roomCode ∧
        ∀ p ∈ t'.inbox, p ∈ t.inbox ∨ o.Publishes t.roomCode p := by
    intro task f h hf
    obtain ⟨t, ht, rfl | rfl⟩ := mem_modify h
    · exact hkept ht
    · exact .inr ⟨t, ht, (hf t).1, fun p hp => .inl ((hf t).2 p hp)⟩
  cases o with
  | joinRoom w room playerId =>
    rcases tasks_join h with h | h
    · exact hkept h
    · exact .inl h
  | leaveRoom w room =>
    simp only [exec, Manager.leave] at h
    split at h
    · unfold Manager.unsubscribe at h
      dsimp only at h
      split at h
      · exact hmodified h fun t => ⟨rfl, fun p hp => hp⟩
      · exact hkept h
    · exact hkept h
  | publish room parcel =>
    obtain ⟨t, ht, rfl⟩ := List.mem_map.mp h
    refine .inr ⟨t, ht, ?_, fun p hp => ?_⟩
    · split <;> rfl
    · split at hp
      case isTrue hroom =>
        rcases List.mem_append.mp hp with hp | hp
        · exact .inl hp
        · simp only [Task.hears, Bool.and_eq_true, decide_eq_true_eq] at hroom
          exact .inr ⟨hroom.1.1.symm, (List.mem_singleton.mp hp).symm⟩
      case isFalse => exact .inl hp
  | forget room playerId => cases playerId <;> exact hkept h
  | subscribe task =>
    simp only [exec] at h
    split at h
    · split at h
      · exact hkept h
      · exact hmodified h fun t => ⟨rfl, fun p hp => hp⟩
    · exact hkept h
  | listen task =>
    simp only [exec] at h
    split at h
    · exact hmodified h fun t => ⟨rfl, fun p hp => List.mem_of_mem_tail hp⟩
    · exact hkept h
  | _ => exact hkept h

lemma getElem?_subscribeToRoom {task : ℕ} {t : Task} (h : m.tasks[task]? = some t) :
    (m.subscribeToRoom roomCode).tasks[task]? = some t := by
  unfold Manager.subscribeToRoom
  split
  · exact (List.getElem?_append_left (List.getElem?_eq_some_iff.mp h).1).trans h
  · exact h

lemma getElem?_modify_room {tasks : List Task} {task j : ℕ} {f : Task → Task} {t : Task}
    (h : tasks[j]? = some t) (hf : ∀ t, (f t).roomCode = t.roomCode) :
    ∃ t', (tasks.modify task f)[j]? = some t' ∧ t'.roomCode = t.roomCode := by
  rw [List.getElem?_modify, h]
  refine ⟨_, rfl, ?_⟩
  split
  · exact hf t
  · rfl

lemma exec_placed {β : Type} (o : Op β) {task : ℕ} {t : Task} (h : m.tasks[task]? = some t) :
    ∃ t', (exec o m).2.tasks[task]? = some t' ∧ t'.roomCode = t.roomCode := by
  cases o with
  | joinRoom w room playerId =>
    change ∃ t', (if m.rooms room = [] then m.subscribeToRoom room
      else m).tasks[task]? = some t' ∧ _
    split
    · exact ⟨t, getElem?_subscribeToRoom h, rfl⟩
    · exact ⟨t, h, rfl⟩
  | leaveRoom w room =>
    simp only [exec, Manager.leave]
    split
    · unfold Manager.unsubscribe
      dsimp only
      split
      · exact getElem?_modify_room h fun _ => rfl
      · exact ⟨t, h, rfl⟩
    · exact ⟨t, h, rfl⟩
  | publish room parcel =>
    refine ⟨_, (List.getElem?_map ..).trans (congrArg _ h), ?_⟩
    dsimp only
    split <;> rfl
  | forget room playerId => cases playerId <;> exact ⟨t, h, rfl⟩
  | subscribe task =>
    simp only [exec]
    split
    · split
      · exact ⟨t, h, rfl⟩
      · exact getElem?_modify_room h fun _ => rfl
    · exact ⟨t, h, rfl⟩
  | listen task =>
    simp only [exec]
    split
    · exact getElem?_modify_room h fun _ => rfl
    · exact ⟨t, h, rfl⟩
  | _ => exact ⟨t, h, rfl⟩

lemma exec_broadcasts {β : Type} (o : Op β) : (exec o m).2.broadcasts = m.broadcasts := by
  cases o with
  | joinRoom w room playerId =>
    change (if m.rooms room = [] then m.subscribeToRoom room else m).broadcasts = _
    unfold Manager.subscribeToRoom
    split <;> [split; skip] <;> rfl
  | leaveRoom w room =>
    simp only [exec, Manager.leave]
    split
    · unfold Manager.unsubscribe
      dsimp only
      split <;> rfl
    · rfl
  | forget room playerId => cases playerId <;> rfl
  | subscribe task =>
    simp only [exec]
    split <;> [split; skip] <;> rfl
  | listen task =>
    simp only [exec]
    split <;> rfl
  | _ => rfl

def Joins (websocket : Socket) (roomCode : String) : Event Op Exn → Prop
  | ⟨_, .joinRoom w room _, .ok _⟩ => w = websocket ∧ room = roomCode
  | _ => False

lemma exec_joins {β : Type} (i : ℕ) (o : Op β) (websocket : Socket) (roomCode : String)
    (h : Joins websocket roomCode ⟨i, o, (exec o m).1⟩) :
    websocket ∈ (exec o m).2.rooms roomCode := by
  cases o with
  | joinRoom w room playerId =>
    obtain ⟨rfl, rfl⟩ := h
    change w ∈ Function.update m.rooms room (insert w (m.rooms room)) room
    rw [Function.update_self]
    exact List.mem_insert_self
  | _ => exact h.elim

def Reads (m : Manager) : Event Op Exn → Prop
  | ⟨_, .listen task, .ok parcel⟩ => ∃ t, m.tasks[task]? = some t ∧ parcel ∈ t.inbox
  | _ => True

lemma exec_reads {β : Type} (i : ℕ) (o : Op β) : Reads m ⟨i, o, (exec o m).1⟩ := by
  cases o with
  | listen task =>
    simp only [exec]
    split
    case h_1 ht => exact ⟨_, ht, List.mem_cons_self⟩
    case h_2 => trivial
  | _ => trivial

structure Effect {β : Type} (i : ℕ) (o : Op β) (r : Except Exn β) (m m' : Manager) : Prop where
  housed : Housed m → Housed m'
  inbox : ∀ t' ∈ m'.tasks, t'.inbox = [] ∨ ∃ t ∈ m.tasks, t'.roomCode = t.roomCode ∧
    ∀ p ∈ t'.inbox, p ∈ t.inbox ∨ o.Publishes t.roomCode p
  players : ∀ entry ∈ m'.players, entry ∈ m.players ∨ o.Seats entry
  member : ∀ websocket roomCode, websocket ∈ m.rooms roomCode → ¬o.Removes websocket roomCode →
    websocket ∈ m'.rooms roomCode
  joins : ∀ websocket roomCode, Joins websocket roomCode ⟨i, o, r⟩ → websocket ∈ m'.rooms roomCode
  placed : ∀ (task : ℕ) t, m.tasks[task]? = some t →
    ∃ t', m'.tasks[task]? = some t' ∧ t'.roomCode = t.roomCode
  broadcasts : m'.broadcasts = m.broadcasts
  reads : Reads m ⟨i, o, r⟩

lemma effect_exec {β : Type} (i : ℕ) (o : Op β) : Effect i o (exec o m).1 m (exec o m).2 where
  housed h := h.exec o
  inbox _ h := exec_inbox h
  players _ h := exec_players h
  member _ _ h ho := exec_member h ho
  joins := exec_joins i o
  placed _ _ h := exec_placed o h
  broadcasts := exec_broadcasts o
  reads := exec_reads i o

lemma effect_fault {β : Type} (i : ℕ) (o : Op β) (e : Exn) : Effect i o (.error e) m m where
  housed h := h
  inbox t h := .inr ⟨t, h, rfl, fun _ hp => .inl hp⟩
  players _ h := .inl h
  member _ _ h _ := h
  joins websocket roomCode h := by cases o <;> exact h.elim
  placed _ t h := ⟨t, h, rfl⟩
  broadcasts := rfl
  reads := by cases o <;> trivial

end Effects

end Askit.Game.ConnectionManager

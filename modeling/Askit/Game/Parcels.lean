import Askit.Game.Inboxes

/-! What is under way in the connection manager comes from a broadcast, in every run. -/

namespace Askit.Game.ConnectionManager

open Interleaving Machine Coro

def Call.Delivers (roomCode : String) (call : Call) : Prop :=
  (∃ parcel, call = .broadcast roomCode parcel) ∨ ∃ task rounds, call = .subscriber task
    roomCode rounds

def Call.Carries (roomCode : String) (parcel : Parcel) (call : Call) : Prop :=
  call = .broadcast roomCode parcel ∨ ∃ task rounds, call = .subscriber task roomCode rounds

def Call.Leaves (websocket : Socket) (roomCode : String) : Call → Prop
  | .disconnect w room _ | .disconnectHost w room => w = websocket ∧ room = roomCode
  | _ => False

/-- Whatever is under way comes from a broadcast to the room that it is on the way to. -/
structure Sound (c : manager.Config) : Prop where
  housed : Housed c.world.state
  serials : ∀ (j : ℕ) room p, c.calls[j]? = some (.broadcast room p) →
    p.serial < Manager.broadcasts c.world.state
  distinct : ∀ (j j' : ℕ) room room' p p', c.calls[j]? = some (.broadcast room p) →
    c.calls[j']? = some (.broadcast room' p') → p.serial = p'.serial → j = j'
  placed : ∀ (j : ℕ) task room rounds, c.calls[j]? = some (.subscriber task room rounds) →
    ∃ t, (Manager.tasks c.world.state)[task]? = some t ∧ t.roomCode = room
  players : ∀ entry ∈ Manager.players c.world.state, ∃ room, .connect entry.2 room entry.1 ∈ c.calls
  inbox : ∀ t ∈ Manager.tasks c.world.state, ∀ p ∈ t.inbox, .broadcast t.roomCode p ∈ c.calls
  carried : ∀ j p, (phase (own j c.world.history)).parcel = some p →
    ∃ call room, c.calls[j]? = some call ∧ call.Carries room p ∧ .broadcast room p ∈ c.calls
  sent : ∀ (i : ℕ) websocket p r, ⟨i, .sendJson websocket p, r⟩ ∈ c.world.history →
    ∃ room, .broadcast room p ∈ c.calls
  member : ∀ websocket room, (∃ ev ∈ c.world.history, Joins websocket room ev) →
    (∀ call ∈ c.calls, ¬call.Leaves websocket room) → websocket ∈ Manager.rooms c.world.state room

namespace Sound

variable {c : manager.Config}

lemma empty : Sound (start Manager.empty) where
  housed := .empty
  serials j room p h := by cases h
  distinct j j' room room' p p' h := by cases h
  placed j task room rounds h := by cases h
  players entry h := by cases h
  inbox t h := by cases h
  carried j p h := by cases h
  sent i websocket p r h := by cases h
  member websocket room h := by
    obtain ⟨ev, h, -⟩ := h
    cases h

def Comes (p : Parcel) : Event Op Exn → Prop
  | ⟨_, .listen _, .ok q⟩ => q = p
  | ⟨_, .publish _ q, .error _⟩ => q = p
  | _ => False

lemma parcel_next {ph : Phase} {ev : Event Op Exn} {p : Parcel} (h : (ph.next ev).parcel = some p) :
    ph.parcel = some p ∨ Comes p ev := by
  obtain ⟨i, o, r⟩ := ev
  cases o with
  | listen task =>
    cases r with
    | ok q => exact .inr (show q = p by simpa [Phase.next, Phase.parcel] using h)
    | error e => exact .inl (by cases ph <;> exact h)
  | publish room q =>
    cases r with
    | ok a => exact .inl (by cases ph <;> exact h)
    | error e => exact .inr (show q = p by simpa [Phase.next, Phase.parcel] using h)
  | roomSockets room =>
    cases r with
    | ok q => exact .inl (by cases ph <;> exact h)
    | error e => cases ph <;> cases h
  | socketPlayer w =>
    cases r with
    | ok q =>
      cases ph with
      | sending parcel rest =>
        cases rest with
        | nil => exact .inl h
        | cons w' rest =>
          simp only [Phase.next] at h
          split at h <;> exact .inl h
      | _ => exact .inl h
    | error e =>
      cases ph with
      | sending parcel rest => cases rest <;> cases h
      | _ => cases h
  | sendJson w q =>
    cases ph with
    | sending parcel rest => cases rest <;> exact .inl h
    | _ => exact .inl h
  | _ => exact .inl (by cases ph <;> exact h)

lemma resume (h : Sound c) {i : ℕ} {call : Call} {β : Type} {o : Op β}
    {k : Except Exn β → Handler Unit} (pending : c.procs[i]? = some ⟨call, .await o k⟩)
    {r : Except Exn β} {m' : Manager} (hduty : Dutiful call (own i c.world.history) ⟨i, o, r⟩)
    (heffect : Effect i o r c.world.state m') :
    Sound ⟨⟨m', c.world.history ++ [⟨i, o, r⟩]⟩, c.procs.set i ⟨call, k r⟩⟩ := by
  have hcall : c.calls[i]? = some call := getElem?_calls pending
  have hmem : call ∈ c.calls := List.mem_of_getElem? hcall
  have hcalls : Config.calls ⟨⟨m', c.world.history ++ [⟨i, o, r⟩]⟩, c.procs.set i ⟨call, k r⟩⟩ =
      c.calls := calls_set pending
  have hphase : ∀ p, (phase (own i c.world.history)).parcel = some p →
      ∃ room, call.Carries room p ∧ .broadcast room p ∈ c.calls := by
    intro p hp
    obtain ⟨call', room, hc, hcarries, hb⟩ := h.carried i p hp
    rw [hcall] at hc
    cases hc
    exact ⟨room, hcarries, hb⟩
  constructor
  · exact heffect.housed h.housed
  · rw [hcalls]
    dsimp only
    rw [heffect.broadcasts]
    exact h.serials
  · rw [hcalls]
    exact h.distinct
  · rw [hcalls]
    intro j task room rounds hj
    obtain ⟨t, ht, hroom⟩ := h.placed j task room rounds hj
    obtain ⟨t', ht', hroom'⟩ := heffect.placed task t ht
    exact ⟨t', ht', hroom'.trans hroom⟩
  · rw [hcalls]
    intro entry hentry
    rcases heffect.players entry hentry with hentry | hseats
    · exact h.players entry hentry
    · cases o with
      | joinRoom w room p =>
        obtain ⟨rfl, rfl⟩ := hseats
        obtain rfl : call = .connect entry.2 room entry.1 := hduty
        exact ⟨room, hmem⟩
      | _ => exact hseats.elim
  · rw [hcalls]
    intro t' ht' p hp
    rcases heffect.inbox t' ht' with hnil | ⟨t, ht, hroom, hinbox⟩
    · rw [hnil] at hp
      cases hp
    · rw [hroom]
      rcases hinbox p hp with hp | hpublish
      · exact h.inbox t ht p hp
      · cases o with
        | publish room q =>
          obtain ⟨hroom, rfl⟩ := hpublish
          rw [← hroom, ← hduty.2]
          exact hmem
        | _ => exact hpublish.elim
  · rw [hcalls]
    intro j p hp
    dsimp only at hp
    by_cases hij : i = j
    · subst hij
      rw [own_append_self, phase_append] at hp
      refine ⟨call, ?_⟩
      suffices hfound : ∃ room, call.Carries room p ∧ .broadcast room p ∈ c.calls by
        obtain ⟨room, hcarries, hb⟩ := hfound
        exact ⟨room, hcall, hcarries, hb⟩
      rcases parcel_next hp with hp | hcomes
      · exact hphase p hp
      · cases o with
        | listen task =>
          cases r with
          | error e => exact hcomes.elim
          | ok q =>
            obtain rfl : q = p := hcomes
            obtain ⟨-, room, rounds, rfl⟩ := hduty
            obtain ⟨t, ht, hq⟩ := heffect.reads
            obtain ⟨t', ht', hroom⟩ := h.placed i task room rounds hcall
            rw [ht] at ht'
            cases ht'
            exact ⟨room, .inr ⟨task, rounds, rfl⟩, hroom ▸ h.inbox t (List.mem_of_getElem? ht) q hq⟩
        | publish room q =>
          cases r with
          | ok a => exact hcomes.elim
          | error e =>
            obtain rfl : q = p := hcomes
            obtain ⟨-, rfl⟩ := hduty
            exact ⟨room, .inl rfl, hmem⟩
        | _ => cases r <;> exact hcomes.elim
    · rw [own_append_of_ne hij] at hp
      exact h.carried j p hp
  · rw [hcalls]
    intro j w p r' hev
    rcases List.mem_append.mp hev with hev | hev
    · exact h.sent j w p r' hev
    · cases List.mem_singleton.mp hev
      obtain ⟨rest, hrest⟩ := hduty
      obtain ⟨room, -, hb⟩ := hphase p (by rw [hrest]; rfl)
      exact ⟨room, hb⟩
  · rw [hcalls]
    rintro w room ⟨ev, hev, hjoins⟩ hstays
    rcases List.mem_append.mp hev with hev | hev
    · apply heffect.member w room (h.member w room ⟨ev, hev, hjoins⟩ hstays)
      intro hremoves
      cases o with
      | leaveRoom w' room' =>
        obtain ⟨rfl, rfl⟩ := hremoves
        apply hstays call hmem
        obtain rfl | ⟨p, rfl⟩ := hduty
        · exact ⟨rfl, rfl⟩
        · exact ⟨rfl, rfl⟩
      | _ => exact hremoves
    · rw [List.mem_singleton.mp hev] at hjoins
      exact heffect.joins w room hjoins

lemma getElem?_concat_cases {α : Type} {l : List α} {a b : α} {j : ℕ}
    (h : (l ++ [a])[j]? = some b) :
    l[j]? = some b ∨ (j = l.length ∧ b = a) := by
  rcases Nat.lt_trichotomy j l.length with hlt | rfl | hgt
  · exact .inl (by rwa [List.getElem?_append_left hlt] at h)
  · rw [List.getElem?_concat_length] at h
    exact .inr ⟨rfl, (Option.some.inj h).symm⟩
  · rw [List.getElem?_eq_none (by simp; omega)] at h
    cases h

structure Enters (call : Call) (m m' : Manager) : Prop where
  rooms : m'.rooms = m.rooms
  players : m'.players = m.players
  inbox : ∀ t' ∈ m'.tasks, ∃ t ∈ m.tasks, t'.roomCode = t.roomCode ∧ t'.inbox = t.inbox
  placed : ∀ (task : ℕ) t, m.tasks[task]? = some t →
    ∃ t', m'.tasks[task]? = some t' ∧ t'.roomCode = t.roomCode
  broadcasts : m.broadcasts ≤ m'.broadcasts
  broadcast : ∀ room p, call = .broadcast room p →
    p.serial = m.broadcasts ∧ m'.broadcasts = m.broadcasts + 1
  subscriber : ∀ task room rounds, call = .subscriber task room rounds →
    ∃ t, m.tasks[task]? = some t ∧ t.roomCode = room

lemma enters_same {call : Call} {m : Manager} (hb : ∀ room p, call ≠ .broadcast room p)
    (hs : ∀ task room rounds, call ≠ .subscriber task room rounds) : Enters call m m where
  rooms := rfl
  players := rfl
  inbox t h := ⟨t, h, rfl, rfl⟩
  placed _ t h := ⟨t, h, rfl⟩
  broadcasts := Nat.le_refl _
  broadcast room p h := (hb room p h).elim
  subscriber task room rounds h := (hs task room rounds h).elim

lemma enters {call : Call} {m m' : Manager} (he : enter call m = some m') : Enters call m m' := by
  cases call with
  | broadcast room p =>
    simp only [enter] at he
    split at he
    case isFalse => cases he
    case isTrue hserial =>
      cases he
      refine ⟨rfl, rfl, fun t ht => ⟨t, ht, rfl, rfl⟩, fun _ t ht => ⟨t, ht, rfl⟩,
        Nat.le_succ _, ?_, ?_⟩
      · rintro room p ⟨⟩
        exact ⟨hserial, rfl⟩
      · rintro task room rounds ⟨⟩
  | subscriber task room rounds =>
    simp only [enter] at he
    split at he
    case isFalse => cases he
    case isTrue hany =>
      cases he
      refine ⟨rfl, rfl, fun t' ht' => ?_, fun j t ht => getElem?_modify_room ht fun _ => rfl,
        Nat.le_refl _, ?_, ?_⟩
      · obtain ⟨t, ht, rfl | rfl⟩ := mem_modify ht'
        · exact ⟨t', ht, rfl, rfl⟩
        · exact ⟨t, ht, rfl, rfl⟩
      · rintro room p ⟨⟩
      · rintro task' room' rounds' ⟨⟩
        cases ht : m.tasks[task]? with
        | none => simp [ht] at hany
        | some t =>
          simp only [ht, Option.any_some, Bool.and_eq_true, decide_eq_true_eq] at hany
          exact ⟨t, rfl, hany.1.1⟩
  | _ =>
    cases he
    exact enters_same (by rintro room p ⟨⟩) (by rintro task room rounds ⟨⟩)

lemma spawn (h : Sound c) {call : manager.Call} {m' : Manager}
    (he : enter call c.world.state = some m') :
    Sound ⟨{ c.world with state := m' }, c.procs ++ [⟨call, code call⟩]⟩ := by
  have hcalls : Config.calls (M := manager) ⟨{ c.world with state := m' },
    c.procs ++ [⟨call, code call⟩]⟩ =
      c.calls ++ [call] := List.map_append
  have hmem : ∀ call' ∈ c.calls, call' ∈ c.calls ++ [call] := fun _ h => List.mem_append_left _ h
  obtain ⟨hrooms, hplayers, hinbox, hplaced, hle, hbroadcast, hsubscriber⟩ := enters he
  constructor
  · exact h.housed.enter he
  · rw [hcalls]
    intro j room p hj
    rcases getElem?_concat_cases hj with hj | ⟨-, hp⟩
    · exact Nat.lt_of_lt_of_le (h.serials j room p hj) hle
    · have := hbroadcast room p hp.symm
      change p.serial < m'.broadcasts
      omega
  · rw [hcalls]
    intro j j' room room' p p' hj hj' hserial
    rcases getElem?_concat_cases hj with hj | ⟨rfl, hp⟩
    · rcases getElem?_concat_cases hj' with hj' | ⟨rfl, hp'⟩
      · exact h.distinct j j' room room' p p' hj hj' hserial
      · have := h.serials j room p hj
        have := (hbroadcast room' p' hp'.symm).1
        omega
    · rcases getElem?_concat_cases hj' with hj' | ⟨rfl, hp'⟩
      · have := h.serials j' room' p' hj'
        have := (hbroadcast room p hp.symm).1
        omega
      · rfl
  · rw [hcalls]
    intro j task room rounds hj
    have hold : ∃ t, (Manager.tasks c.world.state)[task]? = some t ∧ t.roomCode = room := by
      rcases getElem?_concat_cases hj with hj | ⟨-, hp⟩
      · exact h.placed j task room rounds hj
      · exact hsubscriber task room rounds hp.symm
    obtain ⟨t, ht, rfl⟩ := hold
    exact hplaced task t ht
  · rw [hcalls]
    intro entry hentry
    obtain ⟨room, hroom⟩ := h.players entry (hplayers ▸ hentry)
    exact ⟨room, hmem _ hroom⟩
  · rw [hcalls]
    intro t' ht' p hp
    obtain ⟨t, ht, hroom, heq⟩ := hinbox t' ht'
    rw [hroom]
    exact hmem _ (h.inbox t ht p (heq ▸ hp))
  · rw [hcalls]
    intro j p hp
    obtain ⟨call', room, hj, hcarries, hb⟩ := h.carried j p hp
    refine ⟨call', room, ?_, hcarries, hmem _ hb⟩
    rw [List.getElem?_append_left (List.getElem?_eq_some_iff.mp hj).1]
    exact hj
  · rw [hcalls]
    intro i w p r hev
    obtain ⟨room, hroom⟩ := h.sent i w p r hev
    exact ⟨room, hmem _ hroom⟩
  · rw [hcalls]
    intro w room hev hstays
    have hold := h.member w room hev fun call' hc => hstays call' (hmem _ hc)
    exact hrooms.symm ▸ hold

lemma breaks (h : Sound c) (task : ℕ) :
    Sound ⟨{ c.world with state := Env.act c.world.state (.breaks task) }, c.procs⟩ where
  housed := h.housed.modifyTask (fun _ => rfl) fun _ => rfl
  serials := h.serials
  distinct := h.distinct
  placed j task' room rounds hj := by
    obtain ⟨t, ht, rfl⟩ := h.placed j task' room rounds hj
    exact getElem?_modify_room ht fun _ => rfl
  players := h.players
  inbox t' ht' p hp := by
    obtain ⟨t, ht, rfl | rfl⟩ := mem_modify ht'
    · exact h.inbox t' ht p hp
    · cases hp
  carried := h.carried
  sent := h.sent
  member := h.member

end Sound

end Askit.Game.ConnectionManager

import Askit.Game.Milestones

/-! What the operations do to the registry's entries and to the players' flags. -/

namespace Askit.Game

open Interleaving Machine Coro Tables

section

variable [Runtime]

def Op.Touches (seat : Seat) : {β : Type} → Op β → Prop
  | _, .joinRoom _ roomCode playerId | _, .forget roomCode playerId =>
    Seat.of roomCode playerId = seat
  | _, _ => False

omit [Runtime] in
lemma seat_join_self (r : Registry) (websocket : Socket) (roomCode : String)
    (playerId : Option UUID) :
    (r.join websocket roomCode playerId).seat (Seat.of roomCode playerId) = some websocket := by
  cases playerId with
  | none => exact Function.update_self _ _ _
  | some p => simp [Registry.join, Registry.seat, Seat.of, Registry.playerSocket]

omit [Runtime] in
lemma seat_join_of_ne (r : Registry) (websocket : Socket) {roomCode : String}
    {playerId : Option UUID} {seat : Seat} (h : Seat.of roomCode playerId ≠ seat) :
    (r.join websocket roomCode playerId).seat seat = r.seat seat := by
  cases seat with
  | host room =>
    cases playerId with
    | none => exact Function.update_of_ne (fun h' => h (by simp [Seat.of, h'])) _ _
    | some p => rfl
  | player q =>
    cases playerId with
    | none => rfl
    | some p =>
      have hp : p ≠ q := fun h' => h (by simp [Seat.of, h'])
      have hq : (q == p) = false := by simpa using hp.symm
      change ((p, websocket) :: r.players.filter (·.1 ≠ p)).lookup q = r.players.lookup q
      rw [List.lookup_cons, hq]
      exact (lookup_remove _ p q).trans (if_neg hp.symm)

omit [Runtime] in
lemma seat_forget_of_ne (r : Registry) {roomCode : String} {playerId : Option UUID} {seat : Seat}
    (h : Seat.of roomCode playerId ≠ seat) :
    (r.forget roomCode playerId).seat seat = r.seat seat := by
  cases seat with
  | host room =>
    cases playerId with
    | none => exact Function.update_of_ne (fun h' => h (by simp [Seat.of, h'])) _ _
    | some p => rfl
  | player q =>
    cases playerId with
    | none => rfl
    | some p => exact (lookup_remove _ p q).trans (if_neg fun h' => h (by simp [Seat.of, h']))

lemma exec_seat {β : Type} {o : Op β} {seat : Seat} (ho : ¬o.Touches seat) (s : State) :
    (exec o s).2.registry.seat seat = s.registry.seat seat := by
  cases o with
  | joinRoom websocket roomCode playerId => exact seat_join_of_ne _ _ ho
  | forget roomCode playerId => exact seat_forget_of_ne _ ho
  | commit changes => cases h : s.db.commit changes <;> simp [exec, h]
  | listen roomCode =>
    simp only [exec]
    split <;> cases seat <;> rfl
  | leaveRoom websocket roomCode =>
    simp only [exec, Registry.leave]
    split <;> cases seat <;> rfl
  | _ => cases seat <;> rfl

namespace Db

variable {d e : Db} {changes : Changes} {playerId : UUID}

/-- The player's committed `is_connected`. -/
def Connected (d : Db) (playerId : UUID) : Prop :=
  ∃ row ∈ d.players.get? playerId, row.isConnected = true

instance (d : Db) (playerId : UUID) : Decidable (d.Connected playerId) :=
  inferInstanceAs (Decidable (∃ row ∈ d.players.get? playerId, row.isConnected = true))

omit [Runtime] in
lemma isConnected_commit (h : d.commit changes = some e) {row : GamePlayer}
    (hrow : d.players.get? playerId = some row) :
    ∃ row', e.players.get? playerId = some row' ∧ row'.isConnected =
      match changes.connected with
      | some (p, b) => if playerId = p then b else row.isConnected
      | none => row.isConnected := by
  have hflushed : ∃ row', (flushConnected (flushPlayer d.players changes.player)
      changes.connected).get? playerId = some row' ∧ row'.isConnected =
      match changes.connected with
      | some (p, b) => if playerId = p then b else row.isConnected
      | none => row.isConnected := by
    have hplayer : ∃ row', (flushPlayer d.players changes.player).get? playerId = some row' ∧
        row'.isConnected = row.isConnected := by
      cases changes.player with
      | none => exact ⟨row, hrow, rfl⟩
      | some p =>
        rw [flushPlayer, Table.get?_modify, hrow]
        refine ⟨_, rfl, ?_⟩
        split <;> rfl
    obtain ⟨row', hrow', heq⟩ := hplayer
    cases changes.connected with
    | none => exact ⟨row', hrow', heq⟩
    | some p =>
      rw [flushConnected, Table.get?_modify, hrow']
      refine ⟨_, rfl, ?_⟩
      dsimp only
      split
      · rfl
      · exact heq
  obtain ⟨row', hrow', heq⟩ := hflushed
  have hp := commit_players h
  cases hn : changes.newPlayer with
  | none =>
    rw [hn, insertPlayer, Option.some.injEq] at hp
    exact ⟨row', hp ▸ hrow', heq⟩
  | some p =>
    rw [hn, insertPlayer] at hp
    split at hp
    · have hfresh := Table.get?_eq_none.mpr (Table.fresh_of_insert hp)
      refine ⟨row', ?_, heq⟩
      rw [Table.get?_insert hp, if_neg]
      · exact hrow'
      · rintro rfl
        rw [hrow'] at hfresh
        cases hfresh
    · cases hp

omit [Runtime] in
lemma Connected.commit (hd : d.Connected playerId) (h : d.commit changes = some e)
    (hc : changes.connected ≠ some (playerId, false)) : e.Connected playerId := by
  obtain ⟨row, hrow, htrue⟩ := hd
  obtain ⟨row', hrow', heq⟩ := isConnected_commit h hrow
  refine ⟨row', hrow', heq.trans ?_⟩
  cases hb : changes.connected with
  | none => exact htrue
  | some p =>
    obtain ⟨p, b⟩ := p
    dsimp only
    split
    · subst p
      cases b with
      | true => rfl
      | false => exact (hc hb).elim
    · exact htrue

omit [Runtime] in
lemma connected_of_commit (h : d.commit changes = some e) (hd : (d.players.get? playerId).isSome)
    (hc : changes.connected = some (playerId, true)) : e.Connected playerId := by
  obtain ⟨row, hrow⟩ := Option.isSome_iff_exists.mp hd
  obtain ⟨row', hrow', heq⟩ := isConnected_commit h hrow
  refine ⟨row', hrow', ?_⟩
  rw [heq, hc]
  exact if_pos rfl

end Db

/-- No process but the `i`-th has milestones with `P`. -/
def nobodyElse (c : system.Config) (i : ℕ) (P : List Milestone → Bool) : Bool :=
  (List.range c.procs.length).all fun j => j = i || !P (milestones (own j c.world.history))

def Op.leavesLast (c : system.Config) (i : ℕ) : {β : Type} → Op β → Bool
  | _, .forget roomCode playerId => nobodyElse c i (present (Seat.of roomCode playerId))
  | _, .commit changes =>
    match changes.connected with
    | some (p, false) => nobodyElse c i fun l => present (.player p) l && .connected p true ∈ l
    | _ => true
  | _, _ => true

/-- An endpoint that removes the entry of its seat, or marks its player as gone, finds no other
endpoint there that has registered and not begun to leave. -/
def leavesLast : system.Transition → Bool
  | ⟨c, .run i⟩ =>
    match c.procs[i]? with
    | some ⟨_, .await o _⟩ => o.leavesLast c i
    | _ => true
  | _ => true

namespace Presence

variable {c : system.Config} {i : ℕ} {P : List Milestone → Bool}

lemma else_none (h : nobodyElse c i P = true) (hl : c.Labelled) (hP : P [] = false) {j : ℕ}
    (hj : j ≠ i) : P (milestones (own j c.world.history)) = false := by
  by_cases hlt : j < c.procs.length
  · have hall := List.all_eq_true.mp h j (List.mem_range.mpr hlt)
    simpa [hj] using hall
  · have hown : own j c.world.history = [] :=
      own_eq_nil fun ev hev hpid => hlt (hpid ▸ hl ev hev)
    rw [hown]
    exact hP

omit [Runtime] in
lemma milestones_concat (j : ℕ) (history : List (Event Op Exn)) {β : Type} (o : Op β)
    (r : Except Exn β) :
    milestones (own j (history ++ [⟨i, o, r⟩])) =
      milestones (own j history) ++ if j = i then (milestone ⟨i, o, r⟩).toList else [] := by
  by_cases h : j = i
  · rw [h, own_append_self, milestones_append, if_pos rfl]
  · rw [own_append_of_ne (Ne.symm h), if_neg h, List.append_nil]

def Quiet : Milestone → Prop
  | .joined .. | .forgot => False
  | _ => True

variable {seat : Seat} {websocket : Socket} {l m : List Milestone}

omit [Runtime] in
lemma present_of_append (hm : ∀ x ∈ m, Quiet x) (h : present seat (l ++ m) = true) :
    present seat l = true := by
  cases l with
  | nil =>
    cases m with
    | nil => exact h
    | cons x m =>
      cases x with
      | joined s w => exact (hm _ List.mem_cons_self).elim
      | _ => cases h
  | cons x rest =>
    cases x with
    | joined s w =>
      simp only [present, List.cons_append, Bool.and_eq_true, decide_eq_true_eq,
        List.mem_append, not_or] at h ⊢
      exact ⟨h.1, h.2.1⟩
    | _ => cases h

omit [Runtime] in
lemma holds_append (hm : ∀ x ∈ m, Quiet x) (h : holds seat websocket l = true) :
    holds seat websocket (l ++ m) = true := by
  cases l with
  | nil => cases h
  | cons x rest =>
    cases x with
    | joined s w =>
      simp only [holds, List.cons_append, Bool.and_eq_true, decide_eq_true_eq,
        List.mem_append, not_or] at h ⊢
      exact ⟨h.1, h.2, fun hf => hm _ hf⟩
    | _ => cases h

/-- Where somebody is present, the entry is the socket of somebody who still holds it. -/
def Seated (history : List (Event Op Exn)) (registry : Registry) : Prop :=
  ∀ seat i, present seat (milestones (own i history)) = true →
    ∃ k websocket, holds seat websocket (milestones (own k history)) = true ∧
      registry.seat seat = some websocket

variable {history : List (Event Op Exn)} {registry registry' : Registry} {d : Db}

omit [Runtime] in
lemma Seated.quiet (h : Seated history registry)
    (hr : ∀ seat, registry'.seat seat = registry.seat seat) {β : Type} {o : Op β}
    {r : Except Exn β} (ho : ∀ x ∈ milestone ⟨i, o, r⟩, Quiet x) :
    Seated (history ++ [⟨i, o, r⟩]) registry' := by
  have hm : ∀ j, ∀ x ∈ (if j = i then (milestone ⟨i, o, r⟩).toList else []), Quiet x := by
    intro j x hx
    split at hx
    · exact ho x (Option.mem_toList.mp hx)
    · cases hx
  intro seat j hj
  rw [milestones_concat] at hj
  obtain ⟨k, websocket, hk, hs⟩ := h seat j (present_of_append (hm j) hj)
  refine ⟨k, websocket, ?_, (hr seat).trans hs⟩
  rw [milestones_concat]
  exact holds_append (hm k) hk

omit [Runtime] in
lemma Seated.join (h : Seated history registry) {roomCode : String} {playerId : Option UUID}
    (hi : milestones (own i history) = []) :
    Seated (history ++ [⟨i, .joinRoom websocket roomCode playerId, .ok ()⟩])
      (registry.join websocket roomCode playerId) := by
  have hself :
    milestones (own i (history ++ [⟨i, .joinRoom websocket roomCode playerId, .ok ()⟩])) =
      [.joined (Seat.of roomCode playerId) websocket] := by
    rw [milestones_concat, hi, if_pos rfl]
    rfl
  have hother : ∀ j, j ≠ i →
      milestones (own j (history ++ [⟨i, .joinRoom websocket roomCode playerId, .ok ()⟩])) =
        milestones (own j history) := by
    intro j hj
    rw [milestones_concat, if_neg hj, List.append_nil]
  intro seat j hj
  by_cases hseat : Seat.of roomCode playerId = seat
  · subst hseat
    exact ⟨i, websocket, by simp [hself, holds], seat_join_self _ _ _ _⟩
  · by_cases hji : j = i
    · subst hji
      rw [hself] at hj
      simp [present, hseat] at hj
    · rw [hother j hji] at hj
      obtain ⟨k, w, hk, hs⟩ := h seat j hj
      have hki : k ≠ i := by
        rintro rfl
        rw [hi] at hk
        cases hk
      exact ⟨k, w, (hother k hki).symm ▸ hk, (seat_join_of_ne _ _ hseat).trans hs⟩

omit [Runtime] in
lemma Seated.forget (h : Seated history registry) {roomCode : String} {playerId : Option UUID}
    {rest : List Milestone}
    (hi : milestones (own i history) = .joined (Seat.of roomCode playerId) websocket :: rest)
    (hleft : .left ∈ rest)
    (hlast : ∀ j, j ≠ i → present (Seat.of roomCode playerId)
      (milestones (own j history)) = false) :
    Seated (history ++ [⟨i, .forget roomCode playerId, .ok ()⟩])
      (registry.forget roomCode playerId) := by
  have hself : milestones (own i (history ++ [⟨i, .forget roomCode playerId, .ok ()⟩])) =
      .joined (Seat.of roomCode playerId) websocket :: (rest ++ [.forgot]) := by
    rw [milestones_concat, hi, if_pos rfl]
    rfl
  have hother : ∀ j, j ≠ i →
      milestones (own j (history ++ [⟨i, .forget roomCode playerId, .ok ()⟩])) =
        milestones (own j history) := by
    intro j hj
    rw [milestones_concat, if_neg hj, List.append_nil]
  intro seat j hj
  by_cases hji : j = i
  · subst hji
    rw [hself] at hj
    simp [present, hleft] at hj
  · rw [hother j hji] at hj
    have hseat : Seat.of roomCode playerId ≠ seat := by
      rintro rfl
      rw [hlast j hji] at hj
      cases hj
    obtain ⟨k, w, hk, hs⟩ := h seat j hj
    have hki : k ≠ i := by
      rintro rfl
      rw [hi] at hk
      simp [holds, hseat] at hk
    exact ⟨k, w, (hother k hki).symm ▸ hk, (seat_forget_of_ne _ hseat).trans hs⟩

def Known (history : List (Event Op Exn)) (d : Db) : Prop :=
  ∀ (i : ℕ) (code : String) (room : Room), ⟨i, .getRoom code, .ok (some room)⟩ ∈ history →
    ∀ q ∈ room.players, (d.players.get? q.playerId).isSome

/-- Where an endpoint is present that has set its player's flag, the flag is set. -/
def Flagged (history : List (Event Op Exn)) (d : Db) : Prop :=
  ∀ p i, present (.player p) (milestones (own i history)) = true →
    .connected p true ∈ milestones (own i history) → d.Connected p

end Presence

end

end Askit.Game

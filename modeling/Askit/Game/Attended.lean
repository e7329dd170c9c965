import Askit.Game.Entries

/-! Where an endpoint is present, the entry leads to a socket that is served. -/

namespace Askit.Game

open Interleaving Machine Coro Tables

section

variable [Runtime]

namespace Presence

variable {c : system.Config} {i : ℕ} {P : List Milestone → Bool}
variable {seat : Seat} {websocket : Socket} {l m : List Milestone}
variable {history : List (Event Op Exn)} {registry registry' : Registry} {d : Db}

structure Attended (c : system.Config) : Prop where
  labelled : c.Labelled
  traced : c.Traced (Sequenced) fun _ => Ended
  known : Known c.world.history (State.db c.world.state)
  seated : Seated c.world.history (State.registry c.world.state)
  flagged : Flagged c.world.history (State.db c.world.state)

lemma attended_start (s : State) : Attended (start s) where
  labelled := @labelled_start _ _ _ system s
  traced := @traced_start _ _ _ system _ _ s
  known i code room h := by cases h
  seated seat i h := by cases h
  flagged p i h := by cases h

omit [Runtime] in
lemma mem_playersOf {d : Db} {roomCode : String} {room : Room} (h : d.room? roomCode = some room)
    {q : GamePlayer} (hq : q ∈ room.players) : (d.players.get? q.playerId).isSome := by
  rw [Db.players_room? h] at hq
  rw [Table.get?_of_mem (List.mem_of_mem_filter hq)]
  rfl

lemma Known.perform {s : State} (h : Known history s.db) {β : Type} (o : Op β) :
    Known (history ++ [⟨i, o, (exec o s).1⟩]) (exec o s).2.db := by
  intro j code room hmem q hq
  apply exec_players_isSome
  rcases List.mem_append.mp hmem with hmem | hmem
  · exact h j code room hmem q hq
  · generalize hr : (exec o s).1 = r at hmem
    cases List.mem_singleton.mp hmem
    have hroom : s.db.room? (Runtime.upper code) = some room := by simpa [exec] using hr
    exact mem_playersOf hroom hq

omit [Runtime] in
lemma Known.fail (h : Known history d) {β : Type} (o : Op β) (e : Exn) :
    Known (history ++ [⟨i, o, .error e⟩]) d := by
  intro j code room hmem
  rcases List.mem_append.mp hmem with hmem | hmem
  · exact h j code room hmem
  · cases List.mem_singleton.mp hmem

lemma exists_of_joined (ht : c.Traced Sequenced fun _ => Ended)
    (hj : .joined seat websocket ∈ milestones (own i c.world.history)) :
    ∃ before call roomCode playerId, before <+: c.world.history ∧ c.calls[i]? = some call ∧
      seat = Seat.of roomCode playerId ∧ call.seat (own i before) = some (seat, websocket) ∧
      ∀ p ∈ playerId, ∃ (j : ℕ) (code : String) (room : Room),
        ⟨j, .getRoom code, .ok (some room)⟩ ∈ before ∧ ∃ q ∈ room.players, q.playerId = p := by
  obtain ⟨ev, hev, hmark⟩ := List.mem_filterMap.mp hj
  obtain ⟨hmem, rfl⟩ := mem_own.mp hev
  obtain ⟨before, hbefore, call, hcall, hseq⟩ := ht.history.of_mem hmem
  obtain ⟨pid, o, r⟩ := ev
  cases o with
  | joinRoom w roomCode playerId =>
    cases r with
    | error e => cases hmark
    | ok a =>
      cases hmark
      refine ⟨before, call, roomCode, playerId, hbefore, hcall, rfl, hseq.2.1, fun p hp => ?_⟩
      obtain ⟨j, code, room, hroom, hq⟩ := hseq.2.2 p hp
      exact ⟨j, code, room, (mem_own.mp hroom).1, hq⟩
  | commit changes =>
    cases r with
    | error e => cases hmark
    | ok a => cases hc : changes.connected <;> simp [milestone, hc] at hmark
  | leaveRoom | disconnected => cases hmark
  | forget =>
    cases r with
    | error e => cases hmark
    | ok a => cases hmark
  | _ => cases hmark

lemma row_of_joined {d : Db} (hk : Known c.world.history d)
    (ht : c.Traced Sequenced fun _ => Ended) {p : UUID}
    (hj : .joined (.player p) websocket ∈ milestones (own i c.world.history)) :
    (d.players.get? p).isSome := by
  obtain ⟨before, call, roomCode, playerId, hbefore, -, hseat, -, hread⟩ := exists_of_joined ht hj
  have hp : playerId = some p := by
    cases playerId <;> simp_all [Seat.of]
  obtain ⟨j, code, room, hroom, q, hq, rfl⟩ := hread p hp
  exact hk j code room (hbefore.subset hroom) q hq

def Disconnects (p : UUID) : {β : Type} → Op β → Prop
  | _, .commit changes => changes.connected = some (p, false)
  | _, _ => False

lemma exec_connected {β : Type} {o : Op β} {s : State} {p : UUID} (h : s.db.Connected p)
    (ho : ¬Disconnects p o) : (exec o s).2.db.Connected p := by
  cases o with
  | commit changes =>
    cases hc : s.db.commit changes with
    | none => simpa [exec, hc] using h
    | some e => simpa [exec, hc] using h.commit hc ho
  | listen roomCode =>
    rw [exec_listen_db]
    exact h
  | _ => exact h

omit [Runtime] in
lemma quiet_error {β : Type} (o : Op β) (e : Exn) :
    ∀ x ∈ milestone ⟨i, o, .error e⟩, x = .left := by
  intro x hx
  cases o <;> cases hx <;> rfl

omit [Runtime] in
lemma quiet_ok {β : Type} {o : Op β} (hj : ∀ seat, ¬o.Touches seat) (r : Except Exn β) :
    ∀ x ∈ milestone ⟨i, o, r⟩, Quiet x := by
  intro x hx
  cases o with
  | joinRoom => exact (hj _ rfl).elim
  | forget => exact (hj _ rfl).elim
  | commit changes =>
    cases r with
    | error e => cases hx
    | ok a =>
      cases hc : changes.connected with
      | none => simp [milestone, hc] at hx
      | some p =>
        obtain rfl : _ = x := by simpa [milestone, hc] using hx
        trivial
  | leaveRoom | disconnected =>
    cases hx
    trivial
  | _ => cases hx

omit [Runtime] in
/-- A step that leaves no other milestone than `left` takes nothing away but presence. -/
lemma kept_of_left {β : Type} {o : Op β} {r : Except Exn β}
    (hm : ∀ x ∈ milestone ⟨i, o, r⟩, x = .left) {p : UUID} {j : ℕ}
    (hp : present seat (milestones (own j (history ++ [⟨i, o, r⟩]))) = true)
    (hc : .connected p true ∈ milestones (own j (history ++ [⟨i, o, r⟩]))) :
    present seat (milestones (own j history)) = true ∧
      .connected p true ∈ milestones (own j history) := by
  have hm : ∀ x ∈ (if j = i then (milestone ⟨i, o, r⟩).toList else []), x = .left := by
    intro x hx
    split at hx
    · exact hm x (Option.mem_toList.mp hx)
    · cases hx
  rw [milestones_concat] at hp hc
  constructor
  · exact present_of_append (fun x hx => hm x hx ▸ trivial) hp
  · rcases List.mem_append.mp hc with hc | hc
    · exact hc
    · cases hm _ hc

omit [Runtime] in
lemma Flagged.fail (h : Flagged history d) {β : Type} (o : Op β) (e : Exn) :
    Flagged (history ++ [⟨i, o, .error e⟩]) d := by
  intro p j hp hc
  obtain ⟨hp, hc⟩ := kept_of_left (quiet_error o e) hp hc
  exact h p j hp hc

lemma Flagged.perform {s : State} {β : Type} {o : Op β} (h : Flagged history s.db)
    (hlast : ∀ p, Disconnects p o → ∀ j, j ≠ i →
      ¬(present (.player p) (milestones (own j history)) = true ∧
      .connected p true ∈ milestones (own j history)))
    (hseq : Sequenced call (own i history) ⟨i, o, (exec o s).1⟩)
    (hrow : ∀ p websocket, .joined (.player p) websocket ∈ milestones (own i history) →
      (s.db.players.get? p).isSome) :
    Flagged (history ++ [⟨i, o, (exec o s).1⟩]) (exec o s).2.db := by
  intro p j hp hc
  by_cases hold : present (.player p) (milestones (own j history)) = true ∧
      .connected p true ∈ milestones (own j history)
  · apply exec_connected (h p j hold.1 hold.2)
    intro hd
    by_cases hj : j = i
    · subst hj
      cases o with
      | commit changes =>
        obtain ⟨websocket, rest, hm, hleft⟩ := hseq p false hd
        have hpresent := hold.1
        rw [hm] at hpresent
        simp [present, hleft rfl] at hpresent
      | _ => exact hd
    · exact hlast p hd j hj hold
  · have hj : j = i := by
      by_contra hj
      rw [milestones_concat, if_neg hj, List.append_nil] at hp hc
      exact hold ⟨hp, hc⟩
    subst hj
    cases o with
    | joinRoom w roomCode playerId =>
      rw [milestones_concat, hseq.1] at hc
      simp [milestone, exec] at hc
    | forget roomCode playerId =>
      obtain ⟨w, rest, hm, hleft⟩ := hseq
      rw [milestones_concat, hm] at hp
      simp [present, hleft] at hp
    | commit changes =>
      rw [milestones_concat, if_pos rfl] at hp hc
      cases hcommit : s.db.commit changes with
      | none =>
        rw [exec_commit_none hcommit] at hp hc
        simp only [milestone, Option.toList_none, List.append_nil] at hp hc
        exact (hold ⟨hp, hc⟩).elim
      | some e =>
        have hquiet := quiet_ok (i := j) (o := .commit changes) (fun _ h => h)
          (exec (.commit changes) s).1
        have hp' := present_of_append (fun x hx => hquiet x (Option.mem_toList.mp hx)) hp
        rw [exec_commit_some hcommit] at hc ⊢
        have hnew : changes.connected = some (p, true) := by
          rcases List.mem_append.mp hc with hc | hc
          · exact (hold ⟨hp', hc⟩).elim
          · cases hb : changes.connected with
            | none => simp [milestone, hb] at hc
            | some q =>
              obtain ⟨q, b⟩ := q
              obtain ⟨rfl, rfl⟩ : p = q ∧ true = b := by simpa [milestone, hb] using hc
              rfl
        obtain ⟨w, rest, hm, -⟩ := hseq p true hnew
        exact Db.connected_of_commit hcommit (hrow p w (by simp [hm])) hnew
    | leaveRoom =>
      exact (hold (kept_of_left (by rintro x ⟨⟩; rfl) hp hc)).elim
    | disconnected =>
      exact (hold (kept_of_left (by rintro x ⟨⟩; rfl) hp hc)).elim
    | _ => exact (hold (kept_of_left (fun x hx => by cases hx) hp hc)).elim

def Clears (seat : Seat) : {β : Type} → Op β → Prop
  | _, .forget roomCode playerId => Seat.of roomCode playerId = seat
  | _, _ => False

lemma Seated.perform {s : State} {β : Type} {o : Op β} (h : Seated history s.registry)
    (hlast : ∀ seat, Clears seat o → ∀ j, j ≠ i → present seat (milestones (own j history)) = false)
    (hseq : Sequenced call (own i history) ⟨i, o, (exec o s).1⟩) :
    Seated (history ++ [⟨i, o, (exec o s).1⟩]) (exec o s).2.registry := by
  cases o with
  | joinRoom w roomCode playerId => exact h.join hseq.1
  | forget roomCode playerId =>
    obtain ⟨w, rest, hm, hleft⟩ := hseq
    exact h.forget hm hleft (hlast _ rfl)
  | _ =>
    apply h.quiet
    · exact fun seat => exec_seat (fun h => by exact h) s
    · exact quiet_ok (fun seat h => by exact h) _

lemma leaves_last_seat {β : Type} {o : Op β} (h : o.leavesLast c i = true) (hl : c.Labelled)
    (hc : Clears seat o) {j : ℕ} (hj : j ≠ i) :
    present seat (milestones (own j c.world.history)) = false := by
  cases o with
  | forget roomCode playerId =>
    obtain rfl : Seat.of roomCode playerId = seat := hc
    exact else_none h hl rfl hj
  | _ => exact hc.elim

lemma leaves_last_flag {β : Type} {o : Op β} (h : o.leavesLast c i = true) (hl : c.Labelled)
    {p : UUID} (hd : Disconnects p o) {j : ℕ} (hj : j ≠ i) :
    ¬(present (.player p) (milestones (own j c.world.history)) = true ∧
      .connected p true ∈ milestones (own j c.world.history)) := by
  cases o with
  | commit changes =>
    have hd : changes.connected = some (p, false) := hd
    simp only [Op.leavesLast, hd] at h
    have hnone := else_none h hl rfl hj
    rintro ⟨hp, hc⟩
    simp [hp, hc] at hnone
  | _ => exact hd.elim

lemma Attended.step {t : system.Transition} (h : Attended t.before) (ht : leavesLast t = true) :
    Attended t.after := by
  have hlabelled := h.labelled.step t.act
  have htraced := h.traced.step h.labelled (fun i call => code_follows i call) t.act
  suffices hrest : Known t.after.world.history (State.db t.after.world.state) ∧
      Seated t.after.world.history (State.registry t.after.world.state) ∧
      Flagged t.after.world.history (State.db t.after.world.state) from
    ⟨hlabelled, htraced, hrest.1, hrest.2.1, hrest.2.2⟩
  clear hlabelled htraced
  obtain ⟨c, a⟩ := t
  have h : Attended c := h
  have hm := step_moves a c
  change Known (Machine.step a c).world.history (State.db (Machine.step a c).world.state) ∧
    Seated (Machine.step a c).world.history (State.registry (Machine.step a c).world.state) ∧
    Flagged (Machine.step a c).world.history (State.db (Machine.step a c).world.state)
  generalize Machine.step a c = d at hm
  cases hm with
  | idle => exact ⟨h.known, h.seated, h.flagged⟩
  | spawn call s admitted =>
    obtain ⟨hdb, -, hregistry⟩ := enter_eq_some admitted
    change Known _ (State.db s) ∧ Seated _ (State.registry s) ∧ Flagged _ (State.db s)
    rw [hdb, hregistry]
    exact ⟨h.known, h.seated, h.flagged⟩
  | env e =>
    cases e with
    | clock now => exact ⟨h.known, h.seated, h.flagged⟩
    | lose key => exact ⟨h.known, h.seated, h.flagged⟩
  | fault i e call o k pending =>
    refine ⟨h.known.fail o e, h.seated.quiet (fun _ => rfl) ?_, h.flagged.fail o e⟩
    exact fun x hx => quiet_error o e x hx ▸ trivial
  | run i call o k pending ready =>
    have hlast : o.leavesLast c i = true := by
      simpa only [leavesLast, pending] using ht
    have hseq : Sequenced call (own i c.world.history) ⟨i, o, (exec o c.world.state).1⟩ :=
      (h.traced.rest i _ pending (exec o c.world.state).1 fun a ha => ⟨c.world.state, ha⟩).1
    exact ⟨h.known.perform o,
      h.seated.perform (fun seat hc j hj => leaves_last_seat hlast h.labelled hc hj) hseq,
      h.flagged.perform (fun p hd j hj => leaves_last_flag hlast h.labelled hd hj) hseq
        fun p websocket hj => row_of_joined h.known h.traced hj⟩

end Presence

end

end Askit.Game

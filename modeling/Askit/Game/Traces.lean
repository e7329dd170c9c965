import Askit.Game.Departures

/-! What the entries of the registry and the flags of the players go back to. -/

namespace Askit.Game

open Interleaving Machine Coro Tables

section

variable [Runtime]

namespace Cleanup

variable {i : ℕ} {call : Call} {α β : Type} {l l' l'' : List (Event Op Exn)} {websocket : Socket}
variable {roomCode : String} {p : UUID}

section Config

variable {history : List (Event Op Exn)} {r : Registry} {d : Db} {s : State}

omit [Runtime] in
lemma passages_concat (j : ℕ) (history : List (Event Op Exn)) (o : Op β) (r : Except Exn β) :
    passages (own j (history ++ [⟨i, o, r⟩])) =
      passages (own j history) ++ if j = i then (passage ⟨i, o, r⟩).toList else [] := by
  by_cases h : j = i
  · rw [h, own_append_self, passages_append, if_pos rfl]
  · rw [own_append_of_ne (Ne.symm h), if_neg h, List.append_nil]

def Stays (history : List (Event Op Exn)) (first : Passage) (undoes : Passage → Prop) : Prop :=
  ∃ i, first ∈ passages (own i history) ∧ ∀ x ∈ passages (own i history), ¬undoes x

omit [Runtime] in
lemma Stays.append {first : Passage} {undoes : Passage → Prop} (h : Stays history first undoes)
    {o : Op β} {r : Except Exn β} (ho : ∀ x ∈ passage ⟨i, o, r⟩, ¬undoes x) :
    Stays (history ++ [⟨i, o, r⟩]) first undoes := by
  obtain ⟨j, hfirst, hnone⟩ := h
  refine ⟨j, ?_, ?_⟩
  · rw [passages_concat]
    exact List.mem_append_left _ hfirst
  · rw [passages_concat]
    intro x hx
    rcases List.mem_append.mp hx with hx | hx
    · exact hnone x hx
    · split at hx
      · exact ho x (Option.mem_toList.mp hx)
      · cases hx

omit [Runtime] in
lemma stays_of_new {first : Passage} {undoes : Passage → Prop} {o : Op β} {r : Except Exn β}
    (hnew : passages (own i history) = []) (hfirst : passage ⟨i, o, r⟩ = some first)
    (hu : ¬undoes first) :
    Stays (history ++ [⟨i, o, r⟩]) first undoes := by
  have hself : passages (own i (history ++ [⟨i, o, r⟩])) = [first] := by
    rw [passages_concat, hnew, if_pos rfl, hfirst]
    rfl
  refine ⟨i, by simp [hself], ?_⟩
  rw [hself]
  exact fun x hx => List.mem_singleton.mp hx ▸ hu

/-- The entries of the registry are those of endpoints that have come and not gone. -/
structure Registered (history : List (Event Op Exn)) (r : Registry) : Prop where
  nodup : ∀ roomCode, (r.rooms roomCode).Nodup
  rooms : ∀ websocket roomCode, websocket ∈ r.rooms roomCode →
    ∃ playerId, Stays history (.entered websocket roomCode playerId) (· = .left websocket roomCode)
  players : ∀ p websocket, (p, websocket) ∈ r.players →
    ∃ roomCode, Stays history (.entered websocket roomCode (some p)) fun x => ∃ room,
      x = .forgot room (some p)
  hosts : ∀ roomCode websocket, r.hosts roomCode = some websocket →
    Stays history (.entered websocket roomCode none) (· = .forgot roomCode none)

omit [Runtime] in
lemma Registered.quiet {r' : Registry} (h : Registered history r)
    (hr : r'.rooms = r.rooms ∧ r'.players = r.players ∧ r'.hosts = r.hosts) {o : Op β}
    {a : Except Exn β} (ho : ∀ x ∈ passage ⟨i, o, a⟩, ∃ p b, x = .flagged p b) :
      Registered (history ++ [⟨i, o, a⟩]) r' := by
  obtain ⟨hrooms, hplayers, hhosts⟩ := hr
  constructor
  · rw [hrooms]
    exact h.nodup
  · rw [hrooms]
    intro w room hw
    obtain ⟨playerId, hstays⟩ := h.rooms w room hw
    refine ⟨playerId, hstays.append fun x hx => ?_⟩
    obtain ⟨p, b, rfl⟩ := ho x hx
    exact fun h => (by cases h)
  · rw [hplayers]
    intro p w hw
    obtain ⟨room, hstays⟩ := h.players p w hw
    refine ⟨room, hstays.append fun x hx => ?_⟩
    obtain ⟨p, b, rfl⟩ := ho x hx
    rintro ⟨-, ⟨⟩⟩
  · rw [hhosts]
    intro room w hw
    refine (h.hosts room w hw).append fun x hx => ?_
    obtain ⟨p, b, rfl⟩ := ho x hx
    exact fun h => (by cases h)

omit [Runtime] in
lemma Registered.join (h : Registered history r) {w : Socket} {room : String}
    {playerId : Option UUID} (hnew : passages (own i history) = []) :
    Registered (history ++ [⟨i, .joinRoom w room playerId, .ok ()⟩]) (r.join w room playerId) := by
  have hold {first : Passage} {undoes : Passage → Prop} (h : Stays history first undoes)
      (hu : ¬undoes (.entered w room playerId)) :
      Stays (history ++ [⟨i, .joinRoom w room playerId, .ok ()⟩]) first undoes :=
    h.append fun x hx => by
      obtain rfl : _ = x := Option.some.inj hx
      exact hu
  constructor
  · intro code
    simp only [Registry.join, Function.update_apply]
    split
    · exact (h.nodup room).insert
    · exact h.nodup code
  · intro v code hv
    simp only [Registry.join, Function.update_apply] at hv
    split at hv
    · next heq =>
      subst heq
      rcases List.mem_insert_iff.mp hv with rfl | hv
      · exact ⟨playerId, stays_of_new hnew rfl fun h => (by cases h)⟩
      · obtain ⟨p, hstays⟩ := h.rooms v code hv
        exact ⟨p, hold hstays fun h => (by cases h)⟩
    · obtain ⟨p, hstays⟩ := h.rooms v code hv
      exact ⟨p, hold hstays fun h => (by cases h)⟩
  · intro p v hv
    have hkeep (hv : (p, v) ∈ r.players) := (h.players p v hv).imp fun code hstays =>
      hold hstays (by rintro ⟨-, ⟨⟩⟩)
    cases playerId with
    | none => exact hkeep hv
    | some q =>
      rcases List.mem_cons.mp hv with heq | hv
      · cases heq
        exact ⟨room, stays_of_new hnew rfl (by rintro ⟨-, ⟨⟩⟩)⟩
      · exact hkeep (List.mem_of_mem_filter hv)
  · intro code v hv
    have hkeep (hv : r.hosts code = some v) := hold (h.hosts code v hv) fun h => (by cases h)
    cases playerId with
    | some q => exact hkeep hv
    | none =>
      simp only [Registry.join, Function.update_apply] at hv
      split at hv
      · next heq =>
        subst heq
        cases hv
        exact stays_of_new hnew rfl fun h => (by cases h)
      · exact hkeep hv

omit [Runtime] in
lemma Registered.leave (h : Registered history r) {w : Socket} {room : String} {b : Bool} :
    Registered (history ++ [⟨i, .leaveRoom w room, .ok b⟩]) (r.leave w room).2 := by
  have hold {first : Passage} {undoes : Passage → Prop} (h : Stays history first undoes)
      (hu : ¬undoes (.left w room)) : Stays (history ++ [⟨i, .leaveRoom w room, .ok b⟩])
        first undoes :=
    h.append fun x hx => by
      obtain rfl : _ = x := Option.some.inj hx
      exact hu
  have hrooms (code : String) : (r.leave w room).2.rooms code =
      if code = room then (r.rooms room).erase w else r.rooms code := by
    simp only [Registry.leave]
    split <;> simp only [Function.update_apply]
  have hplayers : (r.leave w room).2.players = r.players := by
    simp only [Registry.leave]
    split <;> rfl
  have hhosts : (r.leave w room).2.hosts = r.hosts := by
    simp only [Registry.leave]
    split <;> rfl
  constructor
  · intro code
    rw [hrooms]
    split
    · exact (h.nodup room).erase w
    · exact h.nodup code
  · intro v code hv
    rw [hrooms] at hv
    split at hv
    · next heq =>
      subst heq
      obtain ⟨hne, hv⟩ := (h.nodup code).mem_erase_iff.mp hv
      obtain ⟨p, hstays⟩ := h.rooms v code hv
      exact ⟨p, hold hstays fun h => hne (by cases h; rfl)⟩
    · next hne =>
      obtain ⟨p, hstays⟩ := h.rooms v code hv
      exact ⟨p, hold hstays fun h => hne (by cases h; rfl)⟩
  · rw [hplayers]
    exact fun p v hv => (h.players p v hv).imp fun code hstays => hold hstays (by rintro ⟨-, ⟨⟩⟩)
  · rw [hhosts]
    exact fun code v hv => hold (h.hosts code v hv) fun h => (by cases h)

omit [Runtime] in
lemma Registered.forget (h : Registered history r) {room : String} {playerId : Option UUID} :
    Registered (history ++ [⟨i, .forget room playerId, .ok ()⟩]) (r.forget room playerId) := by
  have hold {first : Passage} {undoes : Passage → Prop} (h : Stays history first undoes)
      (hu : ¬undoes (.forgot room playerId)) :
      Stays (history ++ [⟨i, .forget room playerId, .ok ()⟩]) first undoes :=
    h.append fun x hx => by
      obtain rfl : _ = x := Option.some.inj hx
      exact hu
  have hrooms : (r.forget room playerId).rooms = r.rooms := by cases playerId <;> rfl
  constructor
  · rw [hrooms]
    exact h.nodup
  · rw [hrooms]
    exact fun v code hv => (h.rooms v code hv).imp fun p hstays => hold hstays fun h => (by cases h)
  · intro p v hv
    cases playerId with
    | none => exact (h.players p v hv).imp fun code hstays => hold hstays (by rintro ⟨-, ⟨⟩⟩)
    | some q =>
      obtain ⟨hv, hne⟩ := List.mem_filter.mp hv
      refine (h.players p v hv).imp fun code hstays => hold hstays ?_
      rintro ⟨-, ⟨⟩⟩
      simp at hne
  · intro code v hv
    cases playerId with
    | some q => exact hold (h.hosts code v hv) fun h => (by cases h)
    | none =>
      simp only [Registry.forget, Function.update_apply] at hv
      split at hv
      · cases hv
      · next hne => exact hold (h.hosts code v hv) fun h => hne (by cases h; rfl)

omit [Runtime] in
lemma lastFlag_append (p : UUID) (l : List Passage) (x : Option Passage) :
    lastFlag p (l ++ x.toList) = (x.bind (flagOf p)).or (lastFlag p l) := by
  cases x with
  | none => simp
  | some x => cases h : flagOf p x <;> simp [lastFlag, List.filterMap_append, h]

omit [Runtime] in
lemma lastFlag_concat (p : UUID) (j : ℕ) (history : List (Event Op Exn)) (o : Op β)
    (r : Except Exn β) :
    lastFlag p (passages (own j (history ++ [⟨i, o, r⟩]))) =
      if j = i then ((passage ⟨i, o, r⟩).bind (flagOf p)).or (lastFlag p (passages (own j history)))
      else lastFlag p (passages (own j history)) := by
  rw [passages_concat]
  split
  · exact lastFlag_append p _ _
  · rw [List.append_nil]

omit [Runtime] in
lemma exists_of_lastFlag {l : List Passage} (h : lastFlag p l ≠ none) : ∃ b, .flagged p b ∈ l := by
  have hne : l.filterMap (flagOf p) ≠ [] := fun hnil => h (by simp [lastFlag, hnil])
  obtain ⟨b, hb⟩ := List.exists_mem_of_ne_nil _ hne
  obtain ⟨x, hx, hflag⟩ := List.mem_filterMap.mp hb
  cases x with
  | flagged q c =>
    simp only [flagOf] at hflag
    split at hflag
    · next heq => exact ⟨c, heq ▸ hx⟩
    · cases hflag
  | _ => cases hflag

structure Flagged (history : List (Event Op Exn)) (d : Db) : Prop where
  stored : ∀ p b i, .flagged p b ∈ passages (own i history) → (d.players.get? p).isSome
  flags : ∀ p, d.Connected p → (∃ i, lastFlag p (passages (own i history)) = some true) ∨
    ∀ i, lastFlag p (passages (own i history)) = none

omit [Runtime] in
lemma flags_of_not_stored (h : Flagged history d) (hp : d.players.get? p = none) (j : ℕ) :
    lastFlag p (passages (own j history)) = none := by
  by_contra hne
  obtain ⟨b, hb⟩ := exists_of_lastFlag hne
  have hstored := h.stored p b j hb
  rw [hp] at hstored
  cases hstored

omit [Runtime] in
lemma Flagged.quiet {d' : Db} (h : Flagged history d) {o : Op β} {r : Except Exn β}
    (ho : ∀ x ∈ passage ⟨i, o, r⟩, ∀ p, flagOf p x = none)
    (hstored : ∀ p, (d.players.get? p).isSome → (d'.players.get? p).isSome)
    (hd : ∀ p, (d.players.get? p).isSome → d'.Connected p → d.Connected p) :
    Flagged (history ++ [⟨i, o, r⟩]) d' := by
  have hsame (p : UUID) (j : ℕ) : lastFlag p (passages (own j (history ++ [⟨i, o, r⟩]))) =
      lastFlag p (passages (own j history)) := by
    rw [lastFlag_concat]
    split
    · cases hx : passage ⟨i, o, r⟩ with
      | none => rfl
      | some x => simp [ho x hx p]
    · rfl
  constructor
  · intro p b j hb
    rw [passages_concat] at hb
    rcases List.mem_append.mp hb with hb | hb
    · exact hstored p (h.stored p b j hb)
    · split at hb
      · have hnone := ho _ (Option.mem_toList.mp hb) p
        simp [flagOf] at hnone
      · cases hb
  · intro p hp
    simp only [hsame]
    cases hrow : d.players.get? p with
    | none => exact .inr fun j => flags_of_not_stored h hrow j
    | some row => exact h.flags p (hd p (Option.isSome_of_eq_some hrow) hp)

omit [Runtime] in
lemma connected_before {e : Db} {changes : Changes} (he : d.commit changes = some e)
    (hc : ∀ b, changes.connected ≠ some (p, b)) (hrow : (d.players.get? p).isSome)
    (h : e.Connected p) :
    d.Connected p := by
  obtain ⟨row, hrow⟩ := Option.isSome_iff_exists.mp hrow
  obtain ⟨row', hrow', hflag⟩ := Db.isConnected_commit he hrow
  obtain ⟨row'', hrow'', htrue⟩ := h
  obtain rfl : row' = row'' := Option.some.inj (hrow'.symm.trans hrow'')
  refine ⟨row, hrow, ?_⟩
  rw [htrue] at hflag
  cases hconn : changes.connected with
  | none => exact (by simpa [hconn] using hflag.symm)
  | some q =>
    obtain ⟨q, b⟩ := q
    have hne : p ≠ q := fun heq => hc b (heq ▸ hconn)
    simpa [hconn, hne] using hflag.symm

omit [Runtime] in
lemma Flagged.commit {e : Db} {q : UUID} {b : Bool} (h : Flagged history d)
    (he : d.commit { connected := some (q, b) } = some e) (hq : (d.players.get? q).isSome) :
    Flagged (history ++ [⟨i, .commit { connected := some (q, b) }, .ok ()⟩]) e := by
  have hstored {p : UUID} (hp : (d.players.get? p).isSome) : (e.players.get? p).isSome :=
    commit_players_isSome he hp
  constructor
  · intro p c j hc
    rw [passages_concat] at hc
    rcases List.mem_append.mp hc with hc | hc
    · exact hstored (h.stored p c j hc)
    · split at hc
      · obtain ⟨rfl, -⟩ : p = q ∧ c = b := by simpa [passage] using hc
        exact hstored hq
      · cases hc
  · intro p hp
    have hlast (j : ℕ) : lastFlag p
      (passages (own j (history ++ [⟨i, .commit { connected := some (q, b) }, .ok ()⟩]))) =
        if j = i ∧ q = p then some b else lastFlag p (passages (own j history)) := by
      rw [lastFlag_concat]
      by_cases hj : j = i <;> by_cases hqp : q = p <;> simp [hj, hqp, passage, flagOf]
    by_cases hqp : q = p
    · subst hqp
      obtain ⟨row, hrow⟩ := Option.isSome_iff_exists.mp hq
      obtain ⟨row', hrow', hflag⟩ := Db.isConnected_commit he hrow
      obtain ⟨row'', hrow'', htrue⟩ := hp
      obtain rfl : row' = row'' := Option.some.inj (hrow'.symm.trans hrow'')
      left
      refine ⟨i, ?_⟩
      rw [hlast, if_pos ⟨rfl, rfl⟩]
      simpa [htrue] using hflag.symm
    · simp only [hlast, hqp, and_false, if_false]
      cases hrow : d.players.get? p with
      | none => exact .inr fun j => flags_of_not_stored h hrow j
      | some row =>
        apply h.flags p
        exact connected_before he (fun c hc => hqp (by cases hc; rfl))
          (Option.isSome_of_eq_some hrow) hp

/-- The step makes a call raise that `f` says is one. -/
def struckBy (f : (c : system.Config) → ℕ → {β : Type} → Op β → Bool) : system.Transition → Bool
  | ⟨c, .fault i _⟩ =>
    match c.procs[i]? with
    | some ⟨_, .await o _⟩ => f c i o
    | _ => false
  | _ => false

end Config

end Cleanup

end

end Askit.Game

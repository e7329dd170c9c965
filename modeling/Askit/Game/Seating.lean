import Askit.Game.Connections
import Askit.Game.Subscriptions

/-! What the connection manager is for: it knows which sockets are in a room and whose they are. The
manager inside the system, the one that tells its subscriber tasks apart and the one whose
dictionaries are taken key by key all keep this one book. -/

namespace Askit.Game

@[ext]
structure Seating where
  rooms : String → List Socket
  players : UUID → Option Socket
  hosts : String → Option Socket
  subscribed : String → Bool
  locked : Bool

inductive SeatChange
  | join (websocket : Socket) (roomCode : String) (playerId : Option UUID)
  | leave (websocket : Socket) (roomCode : String)
  | forget (roomCode : String) (playerId : Option UUID)
  | unlock
  deriving DecidableEq

namespace Seating

def empty : Seating := ⟨fun _ => [], fun _ => none, fun _ => none, fun _ => false, false⟩

def seat (s : Seating) (websocket : Option Socket) (roomCode : String) : Option UUID → Seating
  | some p => { s with players := Function.update s.players p websocket }
  | none => { s with hosts := Function.update s.hosts roomCode websocket }

def Empties (s : Seating) (websocket : Socket) (roomCode : String) : Prop :=
  s.rooms roomCode ≠ [] ∧ (s.rooms roomCode).erase websocket = []

instance (s : Seating) (websocket : Socket) (roomCode : String) :
    Decidable (s.Empties websocket roomCode) :=
  inferInstanceAs (Decidable (_ ∧ _))

def cancels (s : Seating) (websocket : Socket) (roomCode : String) : Bool :=
  decide (s.Empties websocket roomCode) && s.subscribed roomCode

def apply (s : Seating) : SeatChange → Seating
  | .join websocket roomCode playerId =>
    { s.seat (some websocket) roomCode playerId with
      rooms := Function.update s.rooms roomCode (insert websocket (s.rooms roomCode))
      subscribed := if s.rooms roomCode = [] then Function.update s.subscribed roomCode true
        else s.subscribed }
  | .leave websocket roomCode =>
    { s with
      rooms := Function.update s.rooms roomCode ((s.rooms roomCode).erase websocket)
      subscribed := if s.Empties websocket roomCode then Function.update s.subscribed roomCode false
        else s.subscribed
      locked := true }
  | .forget roomCode playerId => { s.seat none roomCode playerId with locked := false }
  | .unlock => { s with locked := false }

section Apply

variable (s : Seating) (websocket : Socket) (roomCode room : String) (playerId : Option UUID)

lemma rooms_join : (s.apply (.join websocket roomCode playerId)).rooms room =
    if room = roomCode then insert websocket (s.rooms roomCode) else s.rooms room :=
  Function.update_apply s.rooms roomCode _ room

lemma subscribed_join : (s.apply (.join websocket roomCode playerId)).subscribed room =
    if room = roomCode ∧ s.rooms roomCode = [] then true else s.subscribed room := by
  by_cases hrooms : s.rooms roomCode = []
  · simp [apply, hrooms, Function.update_apply]
  · simp [apply, hrooms]

lemma rooms_leave : (s.apply (.leave websocket roomCode)).rooms room =
    if room = roomCode then (s.rooms roomCode).erase websocket else s.rooms room :=
  Function.update_apply s.rooms roomCode _ room

lemma subscribed_leave : (s.apply (.leave websocket roomCode)).subscribed room =
    if room = roomCode ∧ s.Empties websocket roomCode then false else s.subscribed room := by
  by_cases hempties : s.Empties websocket roomCode
  · simp [apply, hempties, Function.update_apply]
  · simp [apply, hempties]

end Apply

end Seating

lemma isSome_update {β : Type} (f : String → Option β) (roomCode : String) (b : Option β) :
    (fun room => (Function.update f roomCode b room).isSome) =
      Function.update (fun room => (f room).isSome) roomCode b.isSome :=
  funext fun room => Function.apply_update (fun _ => Option.isSome) f roomCode b room

lemma lookup_reseat (players : List (UUID × Socket)) (p q : UUID) (websocket : Socket) :
    ((p, websocket) :: players.filter (·.1 ≠ p)).lookup q =
      Function.update (fun q => players.lookup q) p (some websocket) q := by
  by_cases hq : q = p
  · simp [hq]
  · rw [List.lookup_cons, beq_eq_false_iff_ne.mpr hq, Function.update_of_ne hq]
    exact (lookup_remove _ p q).trans (if_neg hq)

namespace Registry

def seating (r : Registry) : Seating :=
  ⟨r.rooms, r.playerSocket, r.hosts, fun roomCode => (r.subscriptions roomCode).isSome, r.locked⟩

variable (r : Registry) (websocket : Socket) (roomCode : String) (playerId : Option UUID)

lemma seating_join :
    (r.join websocket roomCode playerId).seating = r.seating.apply
      (.join websocket roomCode playerId) := by
  have hsubscribed : (fun room =>
    ((r.join websocket roomCode playerId).subscriptions room).isSome) =
      (r.seating.apply (.join websocket roomCode playerId)).subscribed := by
    by_cases hrooms : r.rooms roomCode = []
    · cases hsub : r.subscriptions roomCode with
      | none =>
        have hupdate := isSome_update r.subscriptions roomCode (some ⟨false, []⟩)
        rw [Option.isSome_some] at hupdate
        simpa [join, Seating.apply, seating, hrooms, hsub] using hupdate
      | some task => simp [join, Seating.apply, seating, hrooms, hsub]
    · simp [join, Seating.apply, seating, hrooms]
  cases playerId with
  | none => exact Seating.ext rfl rfl rfl hsubscribed rfl
  | some p =>
    refine Seating.ext rfl (funext fun q => ?_) rfl hsubscribed rfl
    exact lookup_reseat r.players p q websocket

lemma seating_leave :
    (r.leave websocket roomCode).2.seating = r.seating.apply (.leave websocket roomCode) := by
  by_cases h : r.seating.Empties websocket roomCode
  · rw [leave, if_pos (show r.rooms roomCode ≠ [] ∧ (r.rooms roomCode).erase websocket = [] from h)]
    exact Seating.ext rfl rfl rfl ((isSome_update _ _ _).trans (if_pos h).symm) rfl
  · rw [leave,
      if_neg (show ¬(r.rooms roomCode ≠ [] ∧ (r.rooms roomCode).erase websocket = []) from h)]
    exact Seating.ext rfl rfl rfl (if_neg h).symm rfl

lemma cancels_leave : (r.leave websocket roomCode).1 = r.seating.cancels websocket roomCode := by
  by_cases h : r.seating.Empties websocket roomCode
  · rw [leave, if_pos (show r.rooms roomCode ≠ [] ∧ (r.rooms roomCode).erase websocket = [] from h),
      Seating.cancels, decide_eq_true h, Bool.true_and]
    rfl
  · rw [leave, if_neg (show ¬(r.rooms roomCode ≠ [] ∧ (r.rooms roomCode).erase websocket =
      []) from h), Seating.cancels, decide_eq_false h, Bool.false_and]

lemma seating_forget :
    (r.forget roomCode playerId).seating = r.seating.apply (.forget roomCode playerId) := by
  cases playerId with
  | none => rfl
  | some p =>
    refine Seating.ext rfl (funext fun q => ?_) rfl rfl rfl
    exact (lookup_remove r.players p q).trans (Function.update_apply r.playerSocket p none q).symm

lemma seating_update (f : Subscription → Subscription) :
    (r.update roomCode f).seating = r.seating := by
  refine Seating.ext rfl rfl rfl (funext fun room => ?_) rfl
  change (Function.update r.subscriptions roomCode _ room).isSome = _
  by_cases h : room = roomCode <;> simp [seating, h]

end Registry

namespace ConnectionManager.Manager

def playerSocket (m : Manager) (playerId : UUID) : Option Socket := m.players.lookup playerId

def seating (m : Manager) : Seating :=
  ⟨m.rooms, m.playerSocket, m.hosts, fun roomCode => (m.subscriptions roomCode).isSome, m.locked⟩

variable (m : Manager) (websocket : Socket) (roomCode : String) (playerId : Option UUID)

lemma lookup_map_of_ne (players : List (UUID × Socket)) {p q : UUID} (h : q ≠ p) :
    (players.map fun entry => if entry.1 = p then (p, websocket) else entry).lookup q =
      players.lookup q := by
  induction players with
  | nil => rfl
  | cons entry players ih =>
    obtain ⟨r, socket⟩ := entry
    rw [List.map_cons]
    split
    · next hr =>
      rw [List.lookup_cons, List.lookup_cons, show r = p from hr, beq_eq_false_iff_ne.mpr h]
      exact ih
    · rw [List.lookup_cons, List.lookup_cons, ih]

lemma lookup_map_self {players : List (UUID × Socket)} {p : UUID} (h : p ∈ players.map Prod.fst) :
    (players.map fun entry => if entry.1 = p then (p, websocket) else entry).lookup p =
      some websocket := by
  induction players with
  | nil => cases h
  | cons entry players ih =>
    obtain ⟨r, socket⟩ := entry
    rw [List.map_cons]
    split
    · simp
    · next hr =>
      have hr' : (p == r) = false := beq_eq_false_iff_ne.mpr (Ne.symm hr)
      rw [List.lookup_cons, hr']
      exact ih ((List.mem_cons.mp h).resolve_left (Ne.symm hr))

lemma lookup_setPlayer (players : List (UUID × Socket)) (p q : UUID) :
    (setPlayer players p websocket).lookup q = if q = p then some websocket
      else players.lookup q := by
  by_cases hmem : p ∈ players.map Prod.fst
  · rw [setPlayer, if_pos hmem]
    split
    · next hq =>
      subst hq
      exact lookup_map_self websocket hmem
    · next hq => exact lookup_map_of_ne websocket players hq
  · rw [setPlayer, if_neg hmem, List.lookup_append]
    split
    · next hq =>
      subst hq
      have hnone : players.lookup q = none := List.lookup_eq_none_iff.mpr fun entry hentry =>
        bne_iff_ne.mpr fun h => hmem (List.mem_map.mpr ⟨entry, hentry, h.symm⟩)
      simp [hnone]
    · next hq => simp [List.lookup_cons, beq_eq_false_iff_ne.mpr hq]

lemma subscriptions_subscribeToRoom :
    (fun room => ((m.subscribeToRoom roomCode).subscriptions room).isSome) =
      Function.update (fun room => (m.subscriptions room).isSome) roomCode true := by
  cases hsub : m.subscriptions roomCode with
  | none =>
    rw [subscribeToRoom, if_pos hsub]
    exact isSome_update _ _ _
  | some task =>
    rw [subscribeToRoom, if_neg (by simp [hsub])]
    exact (Function.update_eq_self_iff.mpr (by simp [hsub])).symm

lemma seating_join :
    (m.join websocket roomCode playerId).seating = m.seating.apply
      (.join websocket roomCode playerId) := by
  have hsubscribed : (fun room =>
    ((m.join websocket roomCode playerId).subscriptions room).isSome) =
      (m.seating.apply (.join websocket roomCode playerId)).subscribed := by
    by_cases hrooms : m.rooms roomCode = []
    · simp only [join, Seating.apply, seating, hrooms, if_true]
      exact subscriptions_subscribeToRoom m roomCode
    · simp [join, Seating.apply, seating, hrooms]
  have hlocked : (m.join websocket roomCode playerId).locked = m.locked := by
    simp only [join, subscribeToRoom]
    split
    · split <;> rfl
    · rfl
  cases playerId with
  | none => exact Seating.ext rfl rfl rfl hsubscribed hlocked
  | some p =>
    refine Seating.ext rfl (funext fun q => ?_) rfl hsubscribed hlocked
    exact (lookup_setPlayer websocket m.players p q).trans
      (Function.update_apply m.playerSocket p _ q).symm

lemma leave_of_empties (h : m.seating.Empties websocket roomCode) :
    (m.leave websocket roomCode).1 = m.subscriptions roomCode ∧
      (m.leave websocket roomCode).2.seating = m.seating.apply (.leave websocket roomCode) := by
  rw [leave, if_pos (show m.rooms roomCode ≠ [] ∧ (m.rooms roomCode).erase websocket = [] from h)]
  refine ⟨rfl, ?_⟩
  have hsubscribed : (m.seating.apply (.leave websocket roomCode)).subscribed =
      Function.update m.seating.subscribed roomCode false := if_pos h
  cases hsub : m.subscriptions roomCode with
  | none =>
    simp only [unsubscribe, hsub]
    refine Seating.ext rfl rfl rfl (hsubscribed.trans ?_).symm rfl
    exact Function.update_eq_self_iff.mpr (by simp [seating, hsub])
  | some task =>
    simp only [unsubscribe, hsub]
    exact Seating.ext rfl rfl rfl ((isSome_update _ _ _).trans hsubscribed.symm) rfl

lemma leave_of_not_empties (h : ¬m.seating.Empties websocket roomCode) :
    (m.leave websocket roomCode).1 = none ∧
      (m.leave websocket roomCode).2.seating = m.seating.apply (.leave websocket roomCode) := by
  rw [leave,
    if_neg (show ¬(m.rooms roomCode ≠ [] ∧ (m.rooms roomCode).erase websocket = []) from h)]
  exact ⟨rfl, Seating.ext rfl rfl rfl (if_neg h).symm rfl⟩

lemma seating_leave :
    (m.leave websocket roomCode).2.seating = m.seating.apply (.leave websocket roomCode) := by
  by_cases h : m.seating.Empties websocket roomCode
  · exact (m.leave_of_empties websocket roomCode h).2
  · exact (m.leave_of_not_empties websocket roomCode h).2

lemma cancels_leave :
    (m.leave websocket roomCode).1.isSome = m.seating.cancels websocket roomCode := by
  by_cases h : m.seating.Empties websocket roomCode
  · rw [(m.leave_of_empties websocket roomCode h).1, Seating.cancels, decide_eq_true h,
      Bool.true_and]
    rfl
  · rw [(m.leave_of_not_empties websocket roomCode h).1, Seating.cancels, decide_eq_false h,
      Bool.false_and]
    rfl

lemma seating_forget :
    (m.forget roomCode playerId).seating = m.seating.apply (.forget roomCode playerId) := by
  cases playerId with
  | none => rfl
  | some p =>
    refine Seating.ext rfl (funext fun q => ?_) rfl rfl rfl
    exact (lookup_remove m.players p q).trans (Function.update_apply m.playerSocket p none q).symm

end ConnectionManager.Manager

namespace Connections.Dictionaries

def playerSocket (d : Dictionaries) (playerId : UUID) : Option Socket := d.players.lookup playerId

def seating (d : Dictionaries) : Seating :=
  ⟨fun roomCode => (d.rooms roomCode).getD [], d.playerSocket, d.hosts,
    fun roomCode => (d.subscriptions roomCode).isSome, d.locked⟩

structure Coherent (d : Dictionaries) : Prop where
  nonempty : ∀ roomCode, d.rooms roomCode ≠ some []
  keys : ∀ roomCode, (d.rooms roomCode).isSome = (d.subscriptions roomCode).isSome

variable {d : Dictionaries} (websocket : Socket) (roomCode : String) (playerId : Option UUID)

lemma Coherent.isSome_iff (h : d.Coherent) (roomCode : String) :
    (d.subscriptions roomCode).isSome = true ↔ d.seating.rooms roomCode ≠ [] := by
  rw [← h.keys roomCode]
  have hnonempty := h.nonempty roomCode
  cases hroom : d.rooms roomCode with
  | none => simp [seating, hroom]
  | some sockets =>
    rw [hroom] at hnonempty
    simpa [seating, hroom] using hnonempty

lemma Coherent.enterRoom (h : d.Coherent) : (d.enterRoom websocket roomCode playerId).Coherent where
  nonempty room := by
    rw [rooms_enterRoom]
    split
    · have hmem : websocket ∈ insert websocket ((d.rooms roomCode).getD []) := List.mem_insert_self
      exact fun heq => List.ne_nil_of_mem hmem (Option.some.inj heq)
    · exact h.nonempty room
  keys room := by
    rw [rooms_enterRoom, subscriptions_enterRoom _ _ _ _ _ (h.keys roomCode)]
    split
    · rfl
    · exact h.keys room

lemma Coherent.leaveRoom (h : d.Coherent) : (d.leaveRoom websocket roomCode).2.Coherent where
  nonempty room := by
    rw [rooms_leaveRoom]
    split
    · intro heq
      simpa using (Option.filter_eq_some_iff.mp heq).2
    · exact h.nonempty room
  keys room := by
    rw [subscriptions_leaveRoom _ _ _ _ (h.keys roomCode)]
    split
    · next hroom => rw [hroom]
    · next hroom =>
      rw [rooms_leaveRoom, if_neg hroom]
      exact h.keys room

lemma Coherent.forget (h : d.Coherent) : (d.forget roomCode playerId).Coherent := by
  obtain ⟨hrooms, hsubscriptions, -⟩ := forget_rest d roomCode playerId
  exact ⟨hrooms ▸ h.nonempty, hrooms ▸ hsubscriptions ▸ h.keys⟩

lemma seating_enterRoom (h : d.Coherent) :
    (d.enterRoom websocket roomCode playerId).seating = d.seating.apply
      (.join websocket roomCode playerId) := by
  have hrooms : (d.enterRoom websocket roomCode playerId).seating.rooms =
      (d.seating.apply (.join websocket roomCode playerId)).rooms := by
    funext room
    rw [Seating.rooms_join]
    refine (congrArg (Option.getD · [])
      (rooms_enterRoom d websocket roomCode room playerId)).trans ?_
    split <;> rfl
  have hsubscribed : (d.enterRoom websocket roomCode playerId).seating.subscribed =
      (d.seating.apply (.join websocket roomCode playerId)).subscribed := by
    funext room
    rw [Seating.subscribed_join]
    refine (subscriptions_enterRoom _ _ _ _ _ (h.keys roomCode)).trans ?_
    have hiff := h.isSome_iff roomCode
    by_cases hroom : room = roomCode
    · subst hroom
      by_cases hempty : d.seating.rooms room = []
      · simp [hempty]
      · simp only [hempty, and_false, if_false, if_true]
        exact (hiff.mpr hempty).symm
    · simp only [hroom, if_false, false_and]
      rfl
  have hlocked : (d.enterRoom websocket roomCode playerId).locked = d.locked := by
    simp only [enterRoom, locked_seat, addSocket]
    split
    · exact locked_subscribeToRoom _ _
    · rfl
  have hplayers := players_enterRoom d websocket roomCode playerId
  have hhosts := hosts_enterRoom d websocket roomCode playerId
  cases playerId with
  | none =>
    refine Seating.ext hrooms (funext fun q => ?_) hhosts hsubscribed hlocked
    exact congrArg (List.lookup q) hplayers
  | some p =>
    refine Seating.ext hrooms (funext fun q => ?_) hhosts hsubscribed hlocked
    refine (congrArg (List.lookup q) hplayers).trans ?_
    exact lookup_reseat d.players p q websocket

lemma seating_leaveRoom (h : d.Coherent) :
    (d.leaveRoom websocket roomCode).2.seating = d.seating.apply (.leave websocket roomCode) := by
  obtain ⟨hplayers, hhosts, hlocked⟩ := leaveRoom_rest d websocket roomCode
  have hrooms : (d.leaveRoom websocket roomCode).2.seating.rooms =
      (d.seating.apply (.leave websocket roomCode)).rooms := by
    funext room
    rw [Seating.rooms_leave]
    refine (congrArg (Option.getD · []) (rooms_leaveRoom d websocket roomCode room)).trans ?_
    split
    · cases hroom : d.rooms roomCode with
      | none => simp [seating, hroom]
      | some sockets => by_cases hrest : sockets.erase websocket = [] <;> simp [seating, hroom,
          hrest, Option.filter]
    · rfl
  have hsubscribed : (d.leaveRoom websocket roomCode).2.seating.subscribed =
      (d.seating.apply (.leave websocket roomCode)).subscribed := by
    funext room
    rw [Seating.subscribed_leave]
    refine (subscriptions_leaveRoom _ _ _ _ (h.keys roomCode)).trans ?_
    by_cases hroom : room = roomCode
    · subst hroom
      rw [rooms_leaveRoom, if_pos rfl, if_pos rfl]
      have hkeys := h.keys room
      have hnonempty := h.nonempty room
      cases hsockets : d.rooms room with
      | none =>
        rw [hsockets] at hkeys
        simp [seating, ← hkeys]
      | some sockets =>
        rw [hsockets] at hkeys hnonempty
        have hne : sockets ≠ [] := fun heq => hnonempty (congrArg some heq)
        by_cases hrest : sockets.erase websocket = [] <;>
          simp [Seating.Empties, seating, hsockets, hne, hrest, Option.filter, ← hkeys]
    · simp only [hroom, if_false, false_and]
      rfl
  exact Seating.ext hrooms (congrArg (fun players q => List.lookup q players) hplayers) hhosts
    hsubscribed hlocked

lemma cancels_leaveRoom (h : d.Coherent) :
    (d.leaveRoom websocket roomCode).1.isSome = d.seating.cancels websocket roomCode := by
  have hnonempty := h.nonempty roomCode
  unfold leaveRoom
  cases hsockets : d.rooms roomCode with
  | none => simp [Seating.cancels, Seating.Empties, seating, hsockets]
  | some sockets =>
    rw [hsockets] at hnonempty
    have hne : sockets ≠ [] := fun heq => hnonempty (congrArg some heq)
    by_cases hrest : sockets.erase websocket = [] <;>
      simp [Seating.cancels, Seating.Empties, seating, hsockets, hne, hrest]

lemma seating_forget :
    (d.forget roomCode playerId).seating = d.seating.apply (.forget roomCode playerId) := by
  cases playerId with
  | none => rfl
  | some p =>
    refine Seating.ext rfl (funext fun q => ?_) rfl rfl rfl
    exact (lookup_remove d.players p q).trans (Function.update_apply d.playerSocket p none q).symm

end Connections.Dictionaries

end Askit.Game

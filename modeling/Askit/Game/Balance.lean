import Askit.Game.Parcels

/-! The account of one broadcast and one socket: the message is still to be published, or is unread
in an inbox, or a process has it and owes it to the socket, or it has been sent. -/

namespace Askit.Game.ConnectionManager

open Interleaving Machine Coro

section Account

variable (websocket : Socket) (serial : ℕ)

/-- The calls of `send_json` on the socket with the message of the broadcast. -/
def sends (history : List (Event Op Exn)) : ℕ :=
  history.countP fun
    | ⟨_, .sendJson w p, _⟩ => w = websocket && p.serial = serial
    | _ => false

def owes : Phase → ℕ
  | .idle => 0
  | .taken p => if p.serial = serial then 1 else 0
  | .sending p rest => if p.serial = serial then rest.count websocket else 0

def unread (tasks : List Task) : ℕ :=
  (tasks.map fun t => t.inbox.countP fun p => p.serial = serial).sum

def unpublished (l : List (Event Op Exn)) : ℕ := if l = [] then 1 else 0

def account (k : ℕ) (c : manager.Config) : ℕ :=
  unpublished (own k c.world.history) + unread serial (Manager.tasks c.world.state) +
    total (fun l => owes websocket serial (phase l)) c.world.history c.procs.length +
    sends websocket serial c.world.history

end Account

section Unread

variable {serial : ℕ} {tasks : List Task} {task : ℕ} {parcel : Parcel} {roomCode : String}

lemma countP_le_one {α : Type} {l : List α} {p : α → Bool}
    (h : ∀ (i j : ℕ) a b, l[i]? = some a → l[j]? = some b → p a = true → p b = true → i = j) :
    l.countP p ≤ 1 := by
  induction l with
  | nil => simp
  | cons a l ih =>
    rw [List.countP_cons]
    have hrest : l.countP p ≤ 1 :=
      ih fun i j a b hi hj ha hb => Nat.succ_injective (h (i + 1) (j + 1) a b hi hj ha hb)
    split
    case isTrue ha =>
      have hnone : l.countP p = 0 := by
        rw [List.countP_eq_zero]
        intro b hb hpb
        obtain ⟨j, hj⟩ := List.mem_iff_getElem?.mp hb
        cases h 0 (j + 1) a b rfl hj ha hpb
      omega
    case isFalse => omega

lemma unread_modify {f : Task → Task} (hf : ∀ t, (f t).inbox = t.inbox) :
    unread serial (tasks.modify task f) = unread serial tasks := by
  unfold unread
  congr 1
  apply List.ext_getElem?
  intro j
  rw [List.getElem?_map, List.getElem?_map, List.getElem?_modify]
  cases tasks[j]? with
  | none => rfl
  | some t =>
    by_cases heq : task = j <;> simp [heq, hf]

lemma unread_concat (room : String) :
    unread serial (tasks ++ [⟨room, false, false, false, false, []⟩]) = unread serial tasks := by
  simp [unread]

lemma unread_tail {t : Task} {rest : List Parcel} (ht : tasks[task]? = some t)
    (hinbox : t.inbox = parcel :: rest) :
    unread serial tasks = unread serial
      (tasks.modify task fun t => { t with inbox := t.inbox.tail }) +
      if parcel.serial = serial then 1 else 0 := by
  induction tasks generalizing task with
  | nil => cases ht
  | cons a tasks ih =>
    cases task with
    | zero =>
      obtain rfl : a = t := by simpa using ht
      simp only [unread, List.modify_zero_cons, List.map_cons, List.sum_cons, hinbox,
        List.tail_cons, List.countP_cons, decide_eq_true_eq]
      omega
    | succ task =>
      have hrest := ih ht
      simp only [unread, List.modify_succ_cons, List.map_cons, List.sum_cons] at hrest ⊢
      omega

lemma unread_publish (m : Manager) (roomCode : String) (parcel : Parcel) :
    unread serial (m.publish roomCode parcel).tasks = unread serial m.tasks +
      if parcel.serial = serial then m.tasks.countP fun t => t.hears roomCode else 0 := by
  unfold unread Manager.publish
  induction m.tasks with
  | nil => simp
  | cons t tasks ih =>
    have hone : (if t.hears roomCode then { t with inbox := t.inbox ++ [parcel] }
      else t).inbox.countP
        (fun p => p.serial = serial) = t.inbox.countP (fun p => p.serial = serial) +
          if parcel.serial = serial then if t.hears roomCode then 1 else 0 else 0 := by
      by_cases hserial : parcel.serial = serial <;> by_cases hhears : t.hears roomCode <;>
        simp [hserial, hhears]
    simp only [List.map_cons, List.sum_cons, List.countP_cons] at ih ⊢
    rw [ih, hone]
    split <;> omega

end Unread

/-- A publish finds a subscriber of the room that listens. -/
def Op.heard (m : Manager) : {β : Type} → Op β → Bool
  | _, .publish roomCode _ => m.tasks.any fun t => t.hears roomCode
  | _, _ => true

/-- The `k`-th process publishes only when it is heard, and no subscriber loses its message before
it has read it. -/
def heard (k serial : ℕ) : manager.Transition → Bool
  | ⟨c, .run i⟩ => i ≠ k ||
    match c.procs[i]? with
    | some ⟨_, .await o _⟩ => o.heard c.world.state
    | _ => true
  | ⟨c, .env (.breaks task)⟩ =>
    (Manager.tasks c.world.state)[task]?.all fun t => t.inbox.all fun p => p.serial ≠ serial
  | _ => true

/-- What can raise. The failures of a subscriber are those of its connection. -/
def Op.fallible : {β : Type} → Op β → Bool
  | _, .accept _ | _, .awaitTask _ | _, .publish .. | _, .sendJson .. => true
  | _, _ => false

def raisesAwaited : manager.Transition → Bool
  | ⟨c, .fault i _⟩ =>
    match c.procs[i]? with
    | some ⟨_, .await o _⟩ => o.fallible
    | _ => true
  | _ => true

/-- The broadcast `k` to a room that the socket is in. -/
structure Underway (k : ℕ) (roomCode : String) (parcel : Parcel) (websocket : Socket)
    (c : manager.Config) : Prop where
  labelled : c.Labelled
  traced : c.Traced Dutiful Ended
  sound : Sound c
  origin : c.calls[k]? = some (.broadcast roomCode parcel)
  member : websocket ∈ Manager.rooms c.world.state roomCode
  live : ∀ t ∈ Manager.tasks c.world.state, ∀ p ∈ t.inbox, p.serial = parcel.serial →
    t.cancelled = false

namespace Underway

variable {k : ℕ} {roomCode : String} {parcel : Parcel} {websocket : Socket} {c : manager.Config}

lemma is_origin (h : Underway k roomCode parcel websocket c) {j : ℕ} {room : String} {p : Parcel}
    (hj : c.calls[j]? = some (.broadcast room p)) (hserial : p.serial = parcel.serial) :
    j = k ∧ room = roomCode ∧ p = parcel := by
  obtain rfl := h.sound.distinct j k room roomCode p parcel hj h.origin hserial
  have horigin := h.origin
  rw [hj] at horigin
  cases horigin
  exact ⟨rfl, rfl, rfl⟩

lemma own_serial (h : Underway k roomCode parcel websocket c) {room : String} {p : Parcel}
    (hk : c.calls[k]? = some (.broadcast room p)) : p.serial = parcel.serial := by
  have horigin := h.origin
  rw [hk] at horigin
  cases horigin
  rfl

lemma is_parcel (h : Underway k roomCode parcel websocket c) {room : String} {p : Parcel}
    (hp : .broadcast room p ∈ c.calls) (hserial : p.serial = parcel.serial) :
    room = roomCode ∧ p = parcel := by
  obtain ⟨j, hj⟩ := List.mem_iff_getElem?.mp hp
  exact (h.is_origin hj hserial).2

/-- The terms of the account that a step of the `i`-th process bears on. -/
def share (k : ℕ) (parcel : Parcel) (websocket : Socket) (i : ℕ) (l : List (Event Op Exn))
    (m : Manager) : ℕ :=
  (if i = k then unpublished l else 0) + unread parcel.serial m.tasks +
    owes websocket parcel.serial (phase l)

def Balanced (k : ℕ) (parcel : Parcel) (websocket : Socket) (i : ℕ)
    (l : List (Event Op Exn)) (ev : Event Op Exn) (m m' : Manager) : Prop :=
  share k parcel websocket i (l ++ [ev]) m' + sends websocket parcel.serial [ev] =
    share k parcel websocket i l m

variable (k parcel websocket) in
lemma account_resume {i : ℕ} {call : Call} {β : Type} {o : Op β} {q : Except Exn β → Handler Unit}
    (pending : c.procs[i]? = some ⟨call, .await o q⟩) (r : Except Exn β) (m' : Manager) :
    account websocket parcel.serial k
        ⟨⟨m', c.world.history ++ [⟨i, o, r⟩]⟩, c.procs.set i ⟨call, q r⟩⟩ +
        share k parcel websocket i (own i c.world.history) c.world.state =
      account websocket parcel.serial k c +
        (share k parcel websocket i (own i c.world.history ++ [⟨i, o, r⟩]) m' +
          sends websocket parcel.serial [⟨i, o, r⟩]) := by
  have hlt : i < c.procs.length := (List.getElem?_eq_some_iff.mp pending).1
  have htotal := total_append (fun l => owes websocket parcel.serial (phase l))
    c.world.history hlt o r
  have hsends : sends websocket parcel.serial (c.world.history ++ [⟨i, o, r⟩]) =
      sends websocket parcel.serial c.world.history + sends websocket parcel.serial [⟨i, o, r⟩] :=
    List.countP_append
  have hopened : unpublished (own k (c.world.history ++ [⟨i, o, r⟩])) +
      (if i = k then unpublished (own i c.world.history) else 0) =
        unpublished (own k c.world.history) +
          if i = k then unpublished (own i c.world.history ++ [⟨i, o, r⟩]) else 0 := by
    by_cases hik : i = k
    · subst hik
      rw [own_append_self, if_pos rfl, if_pos rfl, Nat.add_comm]
    · rw [own_append_of_ne hik, if_neg hik, if_neg hik]
  unfold account share
  rw [List.length_set, hsends]
  dsimp only at *
  omega

lemma balanced_aside (h : Underway k roomCode parcel websocket c) {i : ℕ} {call : Call} {β : Type}
    {o : Op β} {r : Except Exn β} {m' : Manager} (hcall : c.calls[i]? = some call)
    (hother : ∀ room p, call ≠ .broadcast room p) (ho : o.Aside)
    (hu : unread parcel.serial m'.tasks = unread parcel.serial (Manager.tasks c.world.state)) :
    Balanced k parcel websocket i (own i c.world.history) ⟨i, o, r⟩ c.world.state m' := by
  have hik : i ≠ k := by
    rintro rfl
    have horigin := h.origin
    rw [hcall] at horigin
    cases horigin
    exact hother _ _ rfl
  have hphase := phase_aside (l := own i c.world.history) (i := i) ho r
  have hsends : sends websocket parcel.serial [⟨i, o, r⟩] = 0 := by
    cases o <;> first | rfl | exact ho.elim
  unfold Balanced share
  rw [if_neg hik, if_neg hik, hu, hphase, hsends]
  omega

lemma unpublished_of_phase {l : List (Event Op Exn)} (h : phase l ≠ .idle) (ev : Event Op Exn)
    (i : ℕ) :
    (if i = k then unpublished (l ++ [ev]) else 0) = if i = k then unpublished l else 0 := by
  have hl : l ≠ [] := by
    rintro rfl
    exact h rfl
  simp [unpublished, hl]

lemma balanced_sendJson {i : ℕ} {w : Socket} {p : Parcel} {r : Except Exn Unit} {m : Manager}
    {l : List (Event Op Exn)} {rest : List Socket} (hl : phase l = .sending p (w :: rest)) :
    Balanced k parcel websocket i l ⟨i, .sendJson w p, r⟩ m m := by
  have hne : phase l ≠ .idle := by
    rw [hl]
    rintro ⟨⟩
  unfold Balanced share
  rw [unpublished_of_phase hne, phase_append, hl]
  have hnext : (Phase.sending p (w :: rest)).next ⟨i, .sendJson w p, r⟩ = .sending p rest := by
    cases r <;> rfl
  rw [hnext]
  by_cases hserial : p.serial = parcel.serial
  · by_cases hw : w = websocket
    · subst hw
      simp [owes, sends, hserial]
      omega
    · simp [owes, sends, hserial, hw]
  · simp [owes, sends, hserial]

lemma balanced_roomSockets (h : Underway k roomCode parcel websocket c) {i : ℕ} {call : Call}
    {room : String} {p : Parcel} (hcall : c.calls[i]? = some call)
    (hl : phase (own i c.world.history) = .taken p) (hdelivers : call.Delivers room) :
    Balanced k parcel websocket i (own i c.world.history)
      ⟨i, .roomSockets room, .ok (Manager.rooms c.world.state room)⟩ c.world.state
        c.world.state := by
  have hne : phase (own i c.world.history) ≠ .idle := by
    rw [hl]
    rintro ⟨⟩
  unfold Balanced share
  rw [unpublished_of_phase hne, phase_append, hl]
  change _ + _ + owes websocket parcel.serial (.sending p _) + 0 = _
  by_cases hserial : p.serial = parcel.serial
  · obtain ⟨call', room', hcall', hcarries, hb⟩ := h.sound.carried i p (by rw [hl]; rfl)
    rw [hcall] at hcall'
    cases hcall'
    obtain rfl : room' = room := by
      rcases hdelivers with ⟨q, rfl⟩ | ⟨task, rounds, rfl⟩ <;>
        rcases hcarries with hq | ⟨task', rounds', hq⟩ <;> cases hq <;> rfl
    obtain ⟨rfl, -⟩ := h.is_parcel hb hserial
    have hcount : List.count websocket (Manager.rooms c.world.state room') = 1 :=
      List.count_eq_one_of_mem (h.sound.housed.nodup room') h.member
    simp [owes, hserial, hcount]
  · simp [owes, hserial]

lemma balanced_socketPlayer (h : Underway k roomCode parcel websocket c) {i : ℕ} {w : Socket}
    {p : Parcel} {rest : List Socket} (hl : phase (own i c.world.history) = .sending p (w :: rest))
    (hforeign : ∀ q ∈ parcel.excludePlayerId, ∀ room, .connect websocket room q ∉ c.calls) :
    Balanced k parcel websocket i (own i c.world.history)
      ⟨i, .socketPlayer w, (exec (.socketPlayer w) c.world.state).1⟩ c.world.state
        c.world.state := by
  have hne : phase (own i c.world.history) ≠ .idle := by
    rw [hl]
    rintro ⟨⟩
  unfold Balanced share
  rw [unpublished_of_phase hne, phase_append, hl]
  generalize hplayer : (exec (.socketPlayer w) c.world.state).1 = r
  obtain rfl : .ok ((Manager.players c.world.state).find? (fun entry => entry.2 = w) |>.map
      Prod.fst) = r :=
    hplayer
  by_cases hexcludes : p.excludes
      (((Manager.players c.world.state).find? fun entry => entry.2 = w).map Prod.fst)
  · have hnext : (Phase.sending p (w :: rest)).next ⟨i, .socketPlayer w, .ok
        (((Manager.players c.world.state).find? fun entry => entry.2 = w).map Prod.fst)⟩ =
          .sending p rest := if_pos hexcludes
    rw [hnext]
    by_cases hserial : p.serial = parcel.serial
    · obtain ⟨call, room, -, -, hb⟩ := h.sound.carried i p (by rw [hl]; rfl)
      obtain ⟨-, rfl⟩ := h.is_parcel hb hserial
      have hw : w ≠ websocket := by
        rintro rfl
        -- the socket would be the excluded player's
        obtain ⟨q, hq, -, hfound⟩ := hexcludes
        obtain ⟨entry, hfind, rfl⟩ := Option.map_eq_some_iff.mp hfound
        obtain ⟨room, hconnect⟩ := h.sound.players entry (List.mem_of_find?_eq_some hfind)
        have hsocket : entry.2 = w := by simpa using List.find?_some hfind
        rw [hsocket] at hconnect
        exact hforeign _ hq room hconnect
      simp [owes, hw, sends]
    · simp [owes, hserial, sends]
  · have hnext : (Phase.sending p (w :: rest)).next ⟨i, .socketPlayer w, .ok
        (((Manager.players c.world.state).find? fun entry => entry.2 = w).map Prod.fst)⟩ =
          .sending p (w :: rest) := if_neg hexcludes
    rw [hnext]
    rfl

lemma owes_of_rests {ph : Phase} (h : ph.Rests) (serial : ℕ) : owes websocket serial ph = 0 := by
  cases ph with
  | idle => rfl
  | taken p => exact h.elim
  | sending p rest =>
    cases rest with
    | nil => simp [owes]
    | cons w rest => exact h.elim

lemma balanced_listen (h : Underway k roomCode parcel websocket c) {i : ℕ} {call : Call} {task : ℕ}
    (hcall : c.calls[i]? = some call) (hother : ∀ room p, call ≠ .broadcast room p)
    (hl : (phase (own i c.world.history)).Rests) :
    Balanced k parcel websocket i (own i c.world.history)
      ⟨i, .listen task, (exec (.listen task) c.world.state).1⟩ c.world.state
      (exec (.listen task) c.world.state).2 := by
  have hik : i ≠ k := by
    rintro rfl
    have horigin := h.origin
    rw [hcall] at horigin
    cases horigin
    exact hother _ _ rfl
  unfold Balanced share
  rw [if_neg hik, if_neg hik, phase_append, owes_of_rests hl]
  simp only [exec]
  split
  case h_1 roomCode' started listening cancelled p rest ht =>
    rw [unread_tail ht rfl]
    change _ + _ + owes websocket parcel.serial (.taken p) + 0 = _
    simp only [owes, Manager.modifyTask]
    omega
  case h_2 =>
    have hnext : (phase (own i c.world.history)).next ⟨i, .listen task, .error .failure⟩ =
        phase (own i c.world.history) := by
      cases phase (own i c.world.history) <;> rfl
    rw [hnext, owes_of_rests hl]
    rfl

lemma hears_iff {t : Task} {room : String} :
    t.hears room = true ↔ t.roomCode = room ∧ t.listening = true ∧ t.cancelled = false := by
  simp [Task.hears, and_assoc]

lemma countP_hears (h : Underway k roomCode parcel websocket c)
    (hheard : (Op.publish roomCode parcel).heard c.world.state = true) :
    (Manager.tasks c.world.state).countP (fun t => t.hears roomCode) = 1 := by
  apply Nat.le_antisymm
  · apply countP_le_one
    intro i j a b hi hj ha hb
    obtain ⟨haroom, -, hacancelled⟩ := hears_iff.mp ha
    obtain ⟨hbroom, -, hbcancelled⟩ := hears_iff.mp hb
    have hi := (h.sound.housed.current roomCode i).mpr ⟨a, hi, haroom, hacancelled⟩
    have hj := (h.sound.housed.current roomCode j).mpr ⟨b, hj, hbroom, hbcancelled⟩
    rw [hi] at hj
    exact Option.some.inj hj
  · obtain ⟨t, ht, hhears⟩ := List.any_eq_true.mp hheard
    exact List.countP_pos_iff.mpr ⟨t, ht, hhears⟩

lemma balanced_publish (h : Underway k roomCode parcel websocket c) {i : ℕ} {room : String}
    {p : Parcel} (hcall : c.calls[i]? = some (.broadcast room p)) (hl : own i c.world.history = [])
    (hheard : i = k → (Op.publish room p).heard c.world.state = true) :
    Balanced k parcel websocket i (own i c.world.history) ⟨i, .publish room p, .ok ()⟩ c.world.state
      (Manager.publish c.world.state room p) := by
  unfold Balanced share
  rw [hl, unread_publish c.world.state room p, phase_append]
  change _ + _ + 0 + 0 = _ + _ + 0
  by_cases hserial : p.serial = parcel.serial
  · obtain ⟨rfl, rfl, rfl⟩ := h.is_origin hcall hserial
    rw [if_pos rfl, if_pos rfl, if_pos rfl, h.countP_hears (hheard rfl)]
    simp [unpublished]
    omega
  · have hik : i ≠ k := by
      rintro rfl
      have horigin := h.origin
      rw [hcall] at horigin
      cases horigin
      exact hserial rfl
    rw [if_neg hik, if_neg hik, if_neg hserial]
    omega

lemma balanced_publish_fails (h : Underway k roomCode parcel websocket c) {i : ℕ} {room : String}
    {p : Parcel} (hcall : c.calls[i]? = some (.broadcast room p)) (hl : own i c.world.history = [])
    (e : Exn) :
    Balanced k parcel websocket i (own i c.world.history)
      ⟨i, .publish room p, .error e⟩ c.world.state
      c.world.state := by
  unfold Balanced share
  rw [hl, phase_append]
  change _ + _ + owes websocket parcel.serial (.taken p) + 0 = _ + _ + 0
  by_cases hserial : p.serial = parcel.serial
  · obtain ⟨rfl, -, -⟩ := h.is_origin hcall hserial
    simp [owes, hserial, unpublished]
    omega
  · have hik : i ≠ k := by
      rintro rfl
      have horigin := h.origin
      rw [hcall] at horigin
      cases horigin
      exact hserial rfl
    simp [owes, hserial, hik]

lemma unread_exec {m : Manager} {serial : ℕ} {β : Type} {o : Op β} (ho : o.Aside) :
    unread serial (exec o m).2.tasks = unread serial m.tasks := by
  cases o with
  | joinRoom w room playerId =>
    change unread serial (if m.rooms room = [] then m.subscribeToRoom room else m).tasks = _
    unfold Manager.subscribeToRoom
    split
    · split
      · exact unread_concat room
      · rfl
    · rfl
  | leaveRoom w room =>
    simp only [exec, Manager.leave]
    split
    · unfold Manager.unsubscribe
      dsimp only
      split
      · exact unread_modify fun _ => rfl
      · rfl
    · rfl
  | forget room playerId => cases playerId <;> rfl
  | subscribe task =>
    simp only [exec]
    split
    · split
      · rfl
      · exact unread_modify fun _ => rfl
    · rfl
  | publish | roomSockets | socketPlayer | sendJson | listen => exact ho.elim
  | _ => rfl

lemma balanced_run (h : Underway k roomCode parcel websocket c) {i : ℕ} {call : Call} {β : Type}
    {o : Op β} (hcall : c.calls[i]? = some call)
    (hduty : Dutiful call (own i c.world.history) ⟨i, o, (exec o c.world.state).1⟩)
    (hheard : i = k → o.heard c.world.state = true)
    (hforeign : ∀ q ∈ parcel.excludePlayerId, ∀ room, .connect websocket room q ∉ c.calls) :
    Balanced k parcel websocket i (own i c.world.history) ⟨i, o, (exec o c.world.state).1⟩
      c.world.state (exec o c.world.state).2 := by
  cases o with
  | publish room p =>
    obtain ⟨hl, rfl⟩ := hduty
    exact h.balanced_publish hcall hl hheard
  | roomSockets room =>
    obtain ⟨⟨p, hl⟩, hdelivers⟩ := hduty
    exact h.balanced_roomSockets hcall hl hdelivers
  | socketPlayer w =>
    obtain ⟨p, rest, hl⟩ := hduty
    exact h.balanced_socketPlayer hl hforeign
  | sendJson w p =>
    obtain ⟨rest, hl⟩ := hduty
    exact balanced_sendJson hl
  | listen task =>
    obtain ⟨hl, room, rounds, rfl⟩ := hduty
    exact h.balanced_listen hcall (by rintro room p ⟨⟩) hl
  | joinRoom w room playerId =>
    have hother : ∀ room p, call ≠ .broadcast room p := by
      rintro room' p rfl
      cases playerId <;> cases hduty
    exact h.balanced_aside hcall hother trivial (unread_exec (by trivial))
  | leaveRoom w room =>
    have hother : ∀ room p, call ≠ .broadcast room p := by
      rintro room' p rfl
      rcases hduty with hduty | ⟨q, hduty⟩ <;> cases hduty
    exact h.balanced_aside hcall hother trivial (unread_exec (by trivial))
  | subscribe task => exact h.balanced_aside hcall hduty.2 trivial (unread_exec (by trivial))
  | _ => exact h.balanced_aside hcall hduty trivial (unread_exec (by trivial))

lemma balanced_fault (h : Underway k roomCode parcel websocket c) {i : ℕ} {call : Call} {β : Type}
    {o : Op β} {e : Exn} (hcall : c.calls[i]? = some call)
    (hduty : Dutiful call (own i c.world.history) ⟨i, o, .error e⟩) (ho : o.fallible = true) :
    Balanced k parcel websocket i (own i c.world.history) ⟨i, o, .error e⟩ c.world.state
      c.world.state := by
  cases o with
  | publish room p =>
    obtain ⟨hl, rfl⟩ := hduty
    exact h.balanced_publish_fails hcall hl e
  | sendJson w p =>
    obtain ⟨rest, hl⟩ := hduty
    exact balanced_sendJson hl
  | accept | awaitTask => exact h.balanced_aside hcall hduty trivial rfl
  | _ => cases ho

end Underway

end Askit.Game.ConnectionManager

import Askit.Game.Cluster
import Mathlib.Algebra.BigOperators.Fin

/-! What the processes of a cluster hold, next to the one process that holds it all. -/

namespace Askit.Game

open Interleaving Machine Coro

namespace Placement

section Registered

variable {n : ℕ} {history : List (Event (Placed n) Exn)}

lemma registered_append (on : Fin n → Bool) (i : ℕ) {β : Type} (p : Fin n) (o : Op β)
    (r : Except Exn β) : registered on (history ++ [⟨i, ⟨p, o⟩, r⟩]) =
      if on p then (registered on history).after o else registered on history := by
  rw [registered, List.foldl_concat]
  rfl

lemma registered_same {β : Type} {o : Op β} (ho : ∀ d : Registry, d.after o = d)
    (on : Fin n → Bool) (i : ℕ) (p : Fin n) (r : Except Exn β) :
    registered on (history ++ [⟨i, ⟨p, o⟩, r⟩]) = registered on history := by
  rw [registered_append, ho]
  exact ite_self _

lemma registered_append_self (i : ℕ) {β : Type} (p : Fin n) (o : Op β) (r : Except Exn β) :
    registered (· = p) (history ++ [⟨i, ⟨p, o⟩, r⟩]) = (registered (· = p) history).after o := by
  simp [registered_append]

lemma registered_append_of_ne (i : ℕ) {β : Type} {p q : Fin n} (h : q ≠ p) (o : Op β)
    (r : Except Exn β) :
    registered (· = q) (history ++ [⟨i, ⟨p, o⟩, r⟩]) = registered (· = q) history := by
  simp [registered_append, h.symm]

end Registered

section Registry

variable (r : Registry) (websocket : Socket) (roomCode : String) (playerId : Option UUID)

lemma mem_join {w : Socket} {room : String} : w ∈ (r.join websocket roomCode playerId).rooms room ↔
    w ∈ r.rooms room ∨ (w = websocket ∧ room = roomCode) := by
  by_cases h : room = roomCode
  · subst h
    dsimp only [Registry.join]
    rw [Function.update_self, or_comm]
    simp only [and_true]
    exact List.mem_insert_iff
  · simp [Registry.join, h]

lemma nodup_join (hr : ∀ room, (r.rooms room).Nodup) (room : String) :
    ((r.join websocket roomCode playerId).rooms room).Nodup := by
  by_cases h : room = roomCode
  · subst h
    dsimp only [Registry.join]
    rw [Function.update_self]
    exact (hr room).insert
  · simpa [Registry.join, h] using hr room

lemma rooms_leave : (r.leave websocket roomCode).2.rooms =
    Function.update r.rooms roomCode ((r.rooms roomCode).erase websocket) := by
  unfold Registry.leave
  dsimp only
  split <;> rfl

lemma mem_leave (hr : ∀ room, (r.rooms room).Nodup) {w : Socket} {room : String} :
    w ∈ (r.leave websocket roomCode).2.rooms room ↔
      w ∈ r.rooms room ∧ ¬(w = websocket ∧ room = roomCode) := by
  rw [rooms_leave]
  by_cases h : room = roomCode
  · subst h
    simp [(hr room).mem_erase_iff, and_comm]
  · simp [h]

lemma nodup_leave (hr : ∀ room, (r.rooms room).Nodup) (room : String) :
    ((r.leave websocket roomCode).2.rooms room).Nodup := by
  rw [rooms_leave]
  by_cases h : room = roomCode
  · subst h
    simpa using (hr room).erase websocket
  · simpa [h] using hr room

lemma rooms_forget : (r.forget roomCode playerId).rooms = r.rooms := by
  cases playerId <;> rfl

lemma locked_forget : (r.forget roomCode playerId).locked = false := by
  cases playerId <;> rfl

end Registry

structure Sited {n : ℕ} (place : Socket → Fin n) (history : List (Event (Placed n) Exn)) :
    Prop where
  placed : ∀ p room websocket, websocket ∈ (registered (· = p) history).rooms room ↔
    p = place websocket ∧ websocket ∈ (registered (fun _ => true) history).rooms room
  nodup : ∀ p room, ((registered (· = p) history).rooms room).Nodup
  nodup_all : ∀ room, ((registered (fun _ => true) history).rooms room).Nodup

structure Unlocked {n : ℕ} (history : List (Event (Placed n) Exn)) : Prop where
  own : ∀ p, (registered (· = p) history).locked = false
  all : (registered (fun _ => true) history).locked = false

section Sited

variable {n : ℕ} {place : Socket → Fin n} {history : List (Event (Placed n) Exn)}
    {websocket : Socket}
variable {i : ℕ} {roomCode : String} {playerId : Option UUID}

lemma Sited.of_rooms {h' : List (Event (Placed n) Exn)} (h : Sited place history)
    (heq : ∀ on : Fin n → Bool, (registered on h').rooms = (registered on history).rooms) :
    Sited place h' := by
  constructor
  · intro p room websocket
    rw [heq, heq]
    exact h.placed p room websocket
  · intro p room
    rw [heq]
    exact h.nodup p room
  · intro room
    rw [heq]
    exact h.nodup_all room

lemma Sited.join (h : Sited place history) (r : Except Exn Unit) : Sited place
    (history ++ [⟨i, ⟨place websocket, .joinRoom websocket roomCode playerId⟩, r⟩]) := by
  constructor
  · intro p room w
    rw [registered_append, registered_append]
    simp only [if_true, decide_eq_true_eq]
    have hall : w ∈ (Registry.after (registered (fun _ => true) history)
        (.joinRoom websocket roomCode playerId)).rooms room ↔ _ :=
      mem_join (registered (fun _ => true) history) websocket roomCode playerId
    rw [hall]
    split
    · next hp =>
      subst hp
      have hown : w ∈ (Registry.after (registered (· = place websocket) history)
          (.joinRoom websocket roomCode playerId)).rooms room ↔ _ :=
        mem_join (registered (· = place websocket) history) websocket roomCode playerId
      rw [hown, h.placed]
      constructor
      · rintro (⟨hw, hin⟩ | ⟨rfl, rfl⟩)
        · exact ⟨hw, .inl hin⟩
        · exact ⟨rfl, .inr ⟨rfl, rfl⟩⟩
      · rintro ⟨hw, hin | hnew⟩
        · exact .inl ⟨hw, hin⟩
        · exact .inr hnew
    · next hp =>
      rw [h.placed]
      constructor
      · exact fun ⟨hw, hin⟩ => ⟨hw, .inl hin⟩
      · rintro ⟨hw, hin | ⟨rfl, -⟩⟩
        · exact ⟨hw, hin⟩
        · exact absurd hw.symm hp
  · intro p room
    rw [registered_append]
    split
    · exact nodup_join _ _ _ _ (h.nodup p) room
    · exact h.nodup p room
  · intro room
    rw [registered_append]
    exact nodup_join _ _ _ _ h.nodup_all room

lemma Sited.leave (h : Sited place history) (r : Except Exn Bool) :
    Sited place (history ++ [⟨i, ⟨place websocket, .leaveRoom websocket roomCode⟩, r⟩]) := by
  constructor
  · intro p room w
    rw [registered_append, registered_append]
    simp only [if_true, decide_eq_true_eq]
    have hall : w ∈ (Registry.after (registered (fun _ => true) history)
        (.leaveRoom websocket roomCode)).rooms room ↔ _ :=
          mem_leave _ websocket roomCode h.nodup_all
    rw [hall]
    split
    · next hp =>
      subst hp
      have hown : w ∈ (Registry.after (registered (· = place websocket) history)
          (.leaveRoom websocket roomCode)).rooms room ↔ _ :=
        mem_leave _ websocket roomCode (h.nodup (place websocket))
      rw [hown, h.placed, and_assoc]
    · next hp =>
      rw [h.placed]
      constructor
      · rintro ⟨rfl, hin⟩
        exact ⟨rfl, hin, fun hw => hp (congrArg place hw.1).symm⟩
      · exact fun ⟨hw, hin, _⟩ => ⟨hw, hin⟩
  · intro p room
    rw [registered_append]
    split
    · exact nodup_leave _ _ _ (h.nodup p) room
    · exact h.nodup p room
  · intro room
    rw [registered_append]
    exact nodup_leave _ _ _ h.nodup_all room

lemma Unlocked.of_locked {h' : List (Event (Placed n) Exn)} (h : Unlocked history)
    (heq : ∀ on : Fin n → Bool, (registered on h').locked = (registered on history).locked) :
    Unlocked h' :=
  ⟨fun p => (heq _).trans (h.own p), (heq _).trans h.all⟩

end Sited

section Cluster

variable {n : ℕ}

@[simp] lemma put_view (s : Cluster n) (p : Fin n) : s.put p (s.view p) = s := by
  simp [Cluster.put, Cluster.view]

@[simp] lemma view_put (s : Cluster n) (p : Fin n) (t : State) : (s.put p t).view p = t := by
  simp [Cluster.put, Cluster.view]

@[simp] lemma framesTo_put (s : Cluster n) (p : Fin n) (t : State) (websocket : Socket) :
    (s.put p t).framesTo websocket = s.framesTo websocket := rfl

end Cluster

/-- The one process has the state of the many, and the dictionaries of all their events. -/
structure Agree {n : ℕ} (history : List (Event (Placed n) Exn)) (s : Cluster n) (t : Cluster 1) :
    Prop where
  db : t.db = s.db
  redis : t.redis = s.redis
  now : t.now = s.now
  draws : t.draws = s.draws
  timers : t.timers = s.timers
  own : ∀ p, s.registries p = registered (· = p) history
  all : t.registries 0 = registered (fun _ => true) history
  received : ∀ websocket, t.framesTo websocket = s.framesTo websocket

section Steps

variable {n : ℕ} {history : List (Event (Placed n) Exn)}
variable {s : Cluster n} {t : Cluster 1} {i : ℕ} {p : Fin n}

lemma Agree.view (h : Agree history s t) (p : Fin n) :
    t.view 0 = { s.view p with registry := registered (fun _ => true) history } := by
  rw [Cluster.view, h.db, h.redis, h.now, h.draws, h.timers, h.all]
  rfl

lemma Agree.placed (h : Agree history s t) {u : State} (hu : u.registry = s.registries p) :
    Agree history (s.put p u)
      (t.put 0 { u with registry := registered (fun _ => true) history }) := by
  refine ⟨rfl, rfl, rfl, rfl, rfl, fun q => ?_, ?_, h.received⟩
  · rw [← h.own q]
    dsimp only [Cluster.put]
    rw [hu, Function.update_eq_self]
  · dsimp only [Cluster.put]
    rw [Function.update_self]

lemma Agree.append {β : Type} {o : Op β} (h : Agree history s t)
    (ho : ∀ d : Registry, d.after o = d) (r : Except Exn β) :
    Agree (history ++ [⟨i, ⟨p, o⟩, r⟩]) s t := by
  have hsame (on : Fin n → Bool) :
      registered on (history ++ [⟨i, ⟨p, o⟩, r⟩]) = registered on history :=
        registered_same ho on i p r
  exact ⟨h.db, h.redis, h.now, h.draws, h.timers, fun q => (h.own q).trans (hsame _).symm,
    h.all.trans (hsame _).symm, h.received⟩

lemma Agree.register {β : Type} {o : Op β} (h : Agree history s t) (r : Except Exn β) :
    Agree (history ++ [⟨i, ⟨p, o⟩, r⟩])
      (s.put p { s.view p with registry := (s.registries p).after o })
      (t.put 0 { t.view 0 with registry := (t.registries 0).after o }) := by
  refine ⟨h.db, h.redis, h.now, h.draws, h.timers, fun q => ?_, ?_, h.received⟩
  · dsimp only [Cluster.put]
    by_cases hq : q = p
    · subst hq
      rw [Function.update_self, registered_append_self, h.own]
    · rw [Function.update_of_ne hq, registered_append_of_ne _ hq, h.own]
  · dsimp only [Cluster.put]
    rw [Function.update_self, registered_append, h.all]
    rfl

end Steps

section Delivery

def addressed (d : Registry) (envelope : Envelope) (sockets : List Socket) : List Socket :=
  sockets.filter fun websocket => ¬(envelope.excludePlayerId.isSome ∧
    d.socketPlayer websocket = envelope.excludePlayerId)

def Cluster.receive {n : ℕ} (s : Cluster n) (sockets : List Socket) (message : Frame) : Cluster n :=
  { s with received := s.received ++ sockets.map fun websocket => (websocket, message) }

variable [Runtime] {n : ℕ} (roomCode : String) (envelope : Envelope)

lemma sendUnlessExcluded_alone (q : Fin n) (websocket : Socket) (s : Cluster n) :
    (do
      let playerId ← await (.socketPlayer websocket)
      if envelope.excludePlayerId.isSome ∧ playerId = envelope.excludePlayerId then pure ()
      else sendQuietly websocket envelope.message : Handler Unit).alone (execAt q) s =
    (.ok (), Cluster.receive s (addressed (s.registries q) envelope [websocket])
      envelope.message) := by
  have hplayer : execAt q (.socketPlayer websocket) s =
      (.ok ((s.registries q).socketPlayer websocket), s) := by
    refine Prod.ext rfl ?_
    exact put_view s q
  rw [alone_perform_bind hplayer, alone_ite]
  split
  · next h => simp [Cluster.receive, addressed, h]
  · next h =>
    have : addressed (s.registries q) envelope [websocket] = [websocket] := by
      simp only [addressed, List.filter_cons, h]
      simp
    rw [this]
    rfl

lemma sendToLocalRoom_alone (q : Fin n) (s : Cluster n) :
    (sendToLocalRoom roomCode envelope.message envelope.excludePlayerId).alone (execAt q) s =
      (.ok (), Cluster.receive s (addressed (s.registries q) envelope
        ((s.registries q).rooms roomCode))
        envelope.message) := by
  have hrooms : execAt q (.roomSockets roomCode) s =
      (.ok ((s.registries q).rooms roomCode), s) := by
    refine Prod.ext rfl ?_
    exact put_view s q
  rw [sendToLocalRoom, alone_perform_bind hrooms]
  clear hrooms
  generalize (s.registries q).rooms roomCode = sockets
  induction sockets generalizing s with
  | nil => simp [List.forM, Cluster.receive, addressed]
  | cons websocket sockets ih =>
    have hhead := sendUnlessExcluded_alone envelope q websocket s
    refine (alone_bind_ok hhead).trans ((ih _).trans ?_)
    have haddressed : addressed (s.registries q) envelope (websocket :: sockets) =
        addressed (s.registries q) envelope [websocket] ++ addressed (s.registries q)
          envelope sockets := by
      rw [addressed, addressed, addressed, ← List.filter_append]
      rfl
    rw [haddressed]
    simp [Cluster.receive]

omit [Runtime] in
lemma framesTo_receive (s : Cluster n) (sockets : List Socket) (message : Frame)
    (websocket : Socket) :
    (Cluster.receive s sockets message).framesTo websocket =
      s.framesTo websocket ++ List.replicate (sockets.count websocket) message := by
  have hfiltered : ((sockets.map fun w => (w, message)).filter fun r =>
    r.1 = websocket).map Prod.snd =
      List.replicate (sockets.count websocket) message := by
    induction sockets with
    | nil => rfl
    | cons w sockets ih =>
      rw [List.map_cons, List.filter_cons]
      by_cases h : w = websocket
      · subst h
        simpa [List.count_cons_self, List.replicate_succ] using ih
      · simpa [List.count_cons_of_ne h, h] using ih
  rw [Cluster.framesTo, Cluster.receive, List.filter_append, List.map_append, hfiltered]
  rfl

/-- How many times the socket is sent a message that is published to the room. -/
def copies (s : Cluster n) (websocket : Socket) (q : Fin n) : ℕ :=
  (addressed (s.registries q) envelope ((s.registries q).rooms roomCode)).count websocket

lemma publishTo_eq (s : Cluster n) :
    ∃ received, publishTo roomCode envelope s = { s with received := received } ∧
    ∀ websocket, (publishTo roomCode envelope s).framesTo websocket = s.framesTo websocket ++
      List.replicate ((List.finRange n).map (copies roomCode envelope s websocket)).sum
        envelope.message := by
  unfold publishTo
  generalize List.finRange n = processes
  induction processes generalizing s with
  | nil => exact ⟨s.received, rfl, fun websocket => by simp⟩
  | cons q processes ih =>
    rw [List.foldl_cons, sendToLocalRoom_alone]
    obtain ⟨received, heq, hframes⟩ := ih (Cluster.receive s
      (addressed (s.registries q) envelope ((s.registries q).rooms roomCode)) envelope.message)
    refine ⟨received, heq, fun websocket => ?_⟩
    rw [hframes, framesTo_receive, List.append_assoc, List.replicate_append_replicate,
      List.map_cons, List.sum_cons]
    rfl

end Delivery

section Steps

variable [Runtime] {n : ℕ} {place : Socket → Fin n} {history : List (Event (Placed n) Exn)}
variable {s : Cluster n} {t : Cluster 1} {i : ℕ} {p : Fin n}

omit [Runtime] in
lemma count_addressed (d : Registry) (envelope : Envelope) (sockets : List Socket)
    (websocket : Socket) :
    (addressed d envelope sockets).count websocket =
      if envelope.excludePlayerId.isSome ∧ d.socketPlayer websocket =
        envelope.excludePlayerId then 0
      else sockets.count websocket := by
  split
  · next h =>
    rw [List.count_eq_zero]
    intro hmem
    exact of_decide_eq_true (List.mem_filter.mp hmem).2 h
  · next h => exact List.count_filter (decide_eq_true h)

omit [Runtime] in
lemma copies_eq (h : Agree history s t) (hs : Sited place history) (roomCode : String)
    (envelope : Envelope)
    (hall : FindsAll place history ⟨i, ⟨p, .publish roomCode envelope⟩, .ok ()⟩)
    (websocket : Socket) :
    ((List.finRange 1).map (copies roomCode envelope t websocket)).sum =
      ((List.finRange n).map (copies roomCode envelope s websocket)).sum := by
  rw [← Fin.sum_univ_def, ← Fin.sum_univ_def, Fin.sum_univ_one,
    Fintype.sum_eq_single (place websocket) fun q hq => ?_]
  · rw [copies, copies, count_addressed, count_addressed, h.all, h.own]
    by_cases hmem : websocket ∈ (registered (fun _ => true) history).rooms roomCode
    · have hown : websocket ∈ (registered (· = place websocket) history).rooms roomCode :=
        (hs.placed _ _ _).mpr ⟨rfl, hmem⟩
      rw [List.count_eq_one_of_mem (hs.nodup_all _) hmem, List.count_eq_one_of_mem
        (hs.nodup _ _) hown]
      cases hplayer : envelope.excludePlayerId with
      | none => rfl
      | some playerId =>
        have hiff := hall playerId hplayer websocket hmem
        simp [hiff]
    · have hown : websocket ∉ (registered (· = place websocket) history).rooms roomCode :=
        fun hin => hmem ((hs.placed _ _ _).mp hin).2
      rw [List.count_eq_zero.mpr hmem, List.count_eq_zero.mpr hown, ite_self, ite_self]
  · rw [copies, List.count_eq_zero]
    intro hmem
    have hin := (List.mem_filter.mp hmem).1
    rw [h.own] at hin
    exact hq ((hs.placed _ _ _).mp hin).1

lemma Agree.publish (h : Agree history s t) (hs : Sited place history) {roomCode : String}
    {envelope : Envelope} (r : Except Exn Unit)
    (hall : FindsAll place history ⟨i, ⟨p, .publish roomCode envelope⟩, .ok ()⟩) :
    Agree (history ++ [⟨i, ⟨p, .publish roomCode envelope⟩, r⟩]) (publishTo roomCode envelope s)
      (publishTo roomCode envelope t) := by
  have hframes (websocket : Socket) : (publishTo roomCode envelope t).framesTo websocket =
      (publishTo roomCode envelope s).framesTo websocket := by
    obtain ⟨_, _, hs'⟩ := publishTo_eq roomCode envelope s
    obtain ⟨_, _, ht'⟩ := publishTo_eq roomCode envelope t
    rw [hs', ht', h.received, copies_eq h hs roomCode envelope hall]
  obtain ⟨received, hs', -⟩ := publishTo_eq roomCode envelope s
  obtain ⟨received', ht', -⟩ := publishTo_eq roomCode envelope t
  rw [hs', ht'] at hframes ⊢
  have hreceived : Agree history { s with received := received } { t with received := received' } :=
    ⟨h.db, h.redis, h.now, h.draws, h.timers, h.own, h.all, hframes⟩
  exact hreceived.append (fun _ => rfl) r

def Blind : {β : Type} → Op β → Prop
  | _, .publish .. | _, .sendJson .. | _, .joinRoom .. | _, .leaveRoom .. | _, .awaitCancelled _
  | _, .forget .. | _, .releaseLock | _, .playerSocket _ | _, .hostSocket _ | _, .roomSockets _
  | _, .socketPlayer _ | _, .subscribe _ | _, .listen _ => False
  | _, _ => True

/-- The operations besides those with which endpoints and subscribers come and go. -/
def Shared : {β : Type} → Op β → Prop
  | _, .joinRoom .. | _, .leaveRoom .. | _, .awaitCancelled _ | _, .forget .. | _, .releaseLock
  | _, .subscribe _ | _, .listen _ => False
  | _, _ => True

lemma exec_blind {β : Type} {o : Op β} (ho : Blind o) (u : State) (d : Registry) :
    exec o { u with registry := d } = ((exec o u).1, { (exec o u).2 with registry := d }) := by
  cases o with
  | commit changes =>
    unfold exec
    dsimp only
    split <;> rfl
  | _ => first | rfl | exact ho.elim

omit [Runtime] in
lemma after_shared {β : Type} {o : Op β} (ho : Shared o) (d : Registry) : d.after o = d := by
  cases o <;> first | rfl | exact ho.elim

lemma execPlaced_blind {m : ℕ} {β : Type} {o : Op β} (ho : Blind o) (q : Fin m) (u : Cluster m) :
    execPlaced ⟨q, o⟩ u = ((exec o (u.view q)).1, u.put q (exec o (u.view q)).2) := by
  cases o <;> first | rfl | exact ho.elim

lemma Agree.blind {β : Type} {o : Op β} (h : Agree history s t) (ho : Blind o) (hshared : Shared o)
    (r : Except Exn β) : (execPlaced ⟨0, o⟩ t).1 = (execPlaced ⟨p, o⟩ s).1 ∧
      Agree (history ++ [⟨i, ⟨p, o⟩, r⟩]) (execPlaced ⟨p, o⟩ s).2 (execPlaced ⟨0, o⟩ t).2 := by
  have hregistry : (exec o (s.view p)).2.registry = s.registries p :=
    congrArg (fun x => x.2.registry) (exec_blind ho (s.view p) (s.registries p))
  rw [execPlaced_blind ho, execPlaced_blind ho, h.view p, exec_blind ho]
  exact ⟨rfl, (h.placed hregistry).append (after_shared hshared) r⟩

omit [Runtime] in
lemma Agree.reads {β : Type} {o : Op β} (h : Agree history s t) (hshared : Shared o)
    (r : Except Exn β) :
    Agree (history ++ [⟨i, ⟨p, o⟩, r⟩]) (s.put p (s.view p)) (t.put 0 (t.view 0)) := by
  rw [h.view p]
  exact (h.placed rfl).append (after_shared hshared) r

omit [Runtime] in
lemma Agree.send (h : Agree history s t) (websocket : Socket) (message : Frame)
    (r : Except Exn Unit) :
    Agree (history ++ [⟨i, ⟨p, .sendJson websocket message⟩, r⟩])
      (Cluster.receive s [websocket] message)
      (Cluster.receive t [websocket] message) := by
  refine Agree.append ?_ (fun _ => rfl) r
  refine ⟨h.db, h.redis, h.now, h.draws, h.timers, h.own, h.all, fun w => ?_⟩
  rw [framesTo_receive, framesTo_receive, h.received]

lemma Agree.shared {β : Type} {o : Op β} (h : Agree history s t) (hs : Sited place history)
    (ho : Shared o) (r : Except Exn β) (hall : FindsAll place history ⟨i, ⟨p, o⟩, r⟩) :
    (execPlaced ⟨0, o⟩ t).1 = (execPlaced ⟨p, o⟩ s).1 ∧
      Agree (history ++ [⟨i, ⟨p, o⟩, r⟩]) (execPlaced ⟨p, o⟩ s).2 (execPlaced ⟨0, o⟩ t).2 := by
  cases o with
  | publish roomCode envelope => exact ⟨rfl, h.publish hs r hall⟩
  | playerSocket playerId =>
    refine ⟨?_, h.reads ho r⟩
    have hown : (t.registries 0).playerSocket playerId =
        (s.registries p).playerSocket playerId := by
      rw [h.all, h.own]
      exact hall.symm
    exact congrArg Except.ok hown
  | hostSocket roomCode =>
    refine ⟨?_, h.reads ho r⟩
    have hown : (t.registries 0).hosts roomCode = (s.registries p).hosts roomCode := by
      rw [h.all, h.own]
      exact hall.symm
    exact congrArg Except.ok hown
  | sendJson websocket message => exact ⟨rfl, h.send websocket message r⟩
  | roomSockets | socketPlayer => exact hall.elim
  | joinRoom | leaveRoom | awaitCancelled | forget | releaseLock | subscribe | listen =>
    exact ho.elim
  | _ => exact h.blind (by trivial) ho r

end Steps

end Placement

end Askit.Game

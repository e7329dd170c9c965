import Askit.Game.Subscriptions
import Askit.Interleaving.Ledger
import Mathlib.Algebra.Ring.Nat

/-! A process of the connection manager, phase by phase: what it does with a message it has come
by. -/

namespace Askit.Game.ConnectionManager

open Interleaving Machine Coro

/-- Where a process stands in the delivery of a message: it has come by the message, or goes through
the sockets of its room. -/
inductive Phase
  | idle
  | taken (parcel : Parcel)
  | sending (parcel : Parcel) (rest : List Socket)

def Phase.next : Phase → Event Op Exn → Phase
  | _, ⟨_, .listen _, .ok parcel⟩ => .taken parcel
  | _, ⟨_, .publish _ parcel, .error _⟩ => .taken parcel
  | .taken parcel, ⟨_, .roomSockets _, .ok connections⟩ => .sending parcel connections
  | .sending parcel (websocket :: rest), ⟨_, .socketPlayer _, .ok playerId⟩ =>
    if parcel.excludes playerId then .sending parcel rest else .sending parcel (websocket :: rest)
  | .sending parcel (_ :: rest), ⟨_, .sendJson _ _, _⟩ => .sending parcel rest
  | _, ⟨_, .roomSockets _, .error _⟩ | _, ⟨_, .socketPlayer _, .error _⟩ => .idle
  | phase, _ => phase

def phase (l : List (Event Op Exn)) : Phase := l.foldl Phase.next .idle

def Phase.Rests : Phase → Prop
  | .idle | .sending _ [] => True
  | _ => False

def Phase.parcel : Phase → Option Parcel
  | .idle => none
  | .taken parcel | .sending parcel _ => some parcel

lemma phase_append (l : List (Event Op Exn)) (ev : Event Op Exn) :
    phase (l ++ [ev]) = (phase l).next ev := by
  simp [phase]

def Dutiful (call : Call) (l : List (Event Op Exn)) : Event Op Exn → Prop
  | ⟨_, .roomSockets roomCode, _⟩ => (∃ parcel, phase l = .taken parcel) ∧
      ((∃ parcel, call = .broadcast roomCode parcel) ∨ ∃ task rounds, call = .subscriber task
        roomCode rounds)
  | ⟨_, .socketPlayer websocket, _⟩ => ∃ parcel rest, phase l = .sending parcel (websocket :: rest)
  | ⟨_, .sendJson websocket parcel, _⟩ => ∃ rest, phase l = .sending parcel (websocket :: rest)
  | ⟨_, .listen task, _⟩ => (phase l).Rests ∧ ∃ roomCode rounds, call = .subscriber task
      roomCode rounds
  | ⟨_, .publish roomCode parcel, _⟩ => l = [] ∧ call = .broadcast roomCode parcel
  | ⟨_, .joinRoom websocket roomCode playerId, _⟩ =>
    call = (playerId.elim (.connectHost websocket roomCode) fun p => .connect websocket roomCode p)
  | ⟨_, .leaveRoom websocket roomCode, _⟩ => call = .disconnectHost websocket roomCode ∨
      ∃ p, call = .disconnect websocket roomCode p
  | ⟨_, .subscribe _, _⟩ => l = [] ∧ ∀ roomCode parcel, call ≠ .broadcast roomCode parcel
  | _ => ∀ roomCode parcel, call ≠ .broadcast roomCode parcel

def Ended (call : Call) (r : Except Exn Unit) (l : List (Event Op Exn)) : Prop :=
  (phase l).Rests ∧ match call with
    | .connect websocket roomCode p => r = .ok () →
      ∃ ev ∈ l, ∃ i, ev = ⟨i, .joinRoom websocket roomCode (some p), .ok ()⟩
    | .connectHost websocket roomCode => r = .ok () →
      ∃ ev ∈ l, ∃ i, ev = ⟨i, .joinRoom websocket roomCode none, .ok ()⟩
    | .broadcast _ _ => l ≠ []
    | _ => True

section Follows

variable {i : ℕ} {call : Call} {l : List (Event Op Exn)} {roomCode : String} {parcel : Parcel}

abbrev Follows {α : Type} (i : ℕ) (call : Call) (Q : Except Exn α → List (Event Op Exn) → Prop)
    (x : Handler α) (l : List (Event Op Exn)) : Prop :=
  x.Follows manager.Answers i (Dutiful call) Q l

abbrev Settles (i : ℕ) (call : Call) (x : Handler Unit) (l : List (Event Op Exn)) : Prop :=
  Follows i call (fun _ l' => (phase l').Rests ∧ l <+: l') x l

lemma sendUnlessExcluded_follows {websocket : Socket} {rest : List Socket}
    (hl : phase l = .sending parcel (websocket :: rest)) :
    Follows i call (fun r l' => l <+: l' ∧ (r = .ok () → phase l' = .sending parcel rest) ∧
      ∀ e, r = .error e → (phase l').Rests) (sendUnlessExcluded parcel websocket) l := by
  apply Coro.Follows.perform_bind (fun _ _ => ⟨parcel, rest, hl⟩)
  · intro playerId _
    have hnext := phase_append l ⟨i, .socketPlayer websocket, .ok playerId⟩
    rw [hl] at hnext
    apply Coro.Follows.ite
    · intro hexcluded
      have hnext : phase (l ++ [⟨i, .socketPlayer websocket, .ok playerId⟩]) =
          .sending parcel rest :=
        hnext.trans (if_pos hexcluded)
      exact ⟨List.prefix_append _ _, fun _ => hnext, by rintro e ⟨⟩⟩
    · intro hexcluded
      have hnext : phase (l ++ [⟨i, .socketPlayer websocket, .ok playerId⟩]) =
          .sending parcel (websocket :: rest) := hnext.trans (if_neg hexcluded)
      have hprefix := List.prefix_append l [⟨i, .socketPlayer websocket, .ok playerId⟩]
      generalize l ++ [⟨i, .socketPlayer websocket, .ok playerId⟩] = l' at hnext hprefix
      have hsent : ∀ r : Except Exn Unit,
          phase (l' ++ [⟨i, .sendJson websocket parcel, r⟩]) = .sending parcel rest := by
        intro r
        rw [phase_append, hnext]
        cases r <;> rfl
      apply Coro.Follows.tryCatch (S := fun _ l'' => l <+: l'' ∧ phase l'' = .sending parcel rest)
      · apply Coro.Follows.perform
        exact fun r _ => ⟨⟨rest, hnext⟩, hprefix.trans (List.prefix_append _ _), hsent r⟩
      · exact fun _ _ h => ⟨h.1, fun _ => h.2, by rintro e ⟨⟩⟩
      · exact fun _ _ h => ⟨h.1, fun _ => h.2, by rintro e ⟨⟩⟩
  · intro e
    refine ⟨List.prefix_append _ _, fun h => (by cases h), fun _ _ => ?_⟩
    rw [phase_append, hl]
    trivial

lemma sendAll_follows {connections : List Socket} (hl : phase l = .sending parcel connections) :
    Settles i call (connections.forM (sendUnlessExcluded parcel)) l := by
  induction connections generalizing l with
  | nil =>
    have hrests : (phase l).Rests := by
      rw [hl]
      trivial
    exact ⟨hrests, List.prefix_refl _⟩
  | cons websocket rest ih =>
    change Settles i call (sendUnlessExcluded parcel websocket >>= fun _ =>
      rest.forM (sendUnlessExcluded parcel)) l
    apply Coro.Follows.bind (sendUnlessExcluded_follows hl)
    · intro _ l' h
      exact (ih (h.2.1 rfl)).mono fun _ _ h' => ⟨h'.1, h.1.trans h'.2⟩
    · exact fun e l' h => ⟨h.2.2 e rfl, h.1⟩

lemma sendToLocalRoom_follows (hl : phase l = .taken parcel)
    (hcall : (∃ p, call = .broadcast roomCode p) ∨ ∃ task rounds, call = .subscriber task
      roomCode rounds) :
    Settles i call (sendToLocalRoom roomCode parcel) l := by
  apply Coro.Follows.perform_bind (fun _ _ => ⟨⟨parcel, hl⟩, hcall⟩)
  · intro connections _
    have hnext : phase (l ++ [⟨i, .roomSockets roomCode, .ok connections⟩]) =
        .sending parcel connections := by
      rw [phase_append, hl]
      rfl
    exact (sendAll_follows hnext).mono fun _ _ h => ⟨h.1, (List.prefix_append _ _).trans h.2⟩
  · intro e
    refine ⟨?_, List.prefix_append _ _⟩
    rw [phase_append, hl]
    trivial

lemma deliverNext_follows {task rounds : ℕ} (hl : (phase l).Rests)
    (hcall : call = .subscriber task roomCode rounds) :
    Settles i call (deliverNext task roomCode) l := by
  apply Coro.Follows.perform_bind (fun _ _ => ⟨hl, roomCode, rounds, hcall⟩)
  · intro parcel _
    have hnext : phase (l ++ [⟨i, .listen task, .ok parcel⟩]) = .taken parcel := by
      rw [phase_append]
      cases phase l <;> rfl
    exact (sendToLocalRoom_follows hnext (.inr ⟨task, rounds, hcall⟩)).mono fun _ _ h =>
      ⟨h.1, (List.prefix_append _ _).trans h.2⟩
  · intro e
    refine ⟨?_, List.prefix_append _ _⟩
    rw [phase_append]
    cases hp : phase l with
    | taken parcel =>
      rw [hp] at hl
      exact hl.elim
    | idle => trivial
    | sending parcel rest =>
      cases rest with
      | nil => trivial
      | cons w rest =>
        rw [hp] at hl
        exact hl.elim

def Op.Aside : {β : Type} → Op β → Prop
  | _, .publish .. | _, .roomSockets _ | _, .socketPlayer _ | _, .sendJson .. | _,
  .listen _ => False
  | _, _ => True

lemma phase_aside {β : Type} {o : Op β} (ho : o.Aside) (r : Except Exn β) :
    phase (l ++ [⟨i, o, r⟩]) = phase l := by
  rw [phase_append]
  cases o <;> first | exact ho.elim | (cases phase l <;> rfl)

lemma subscriber_follows (task rounds : ℕ) :
    Follows i (.subscriber task roomCode rounds) (Ended (.subscriber task roomCode rounds))
      (subscriber task roomCode rounds) [] := by
  apply Coro.Follows.tryCatch (S := fun _ l => (phase l).Rests)
  · have hloop : ∀ n l, (phase l).Rests → Follows i (.subscriber task roomCode rounds)
        (fun _ l => (phase l).Rests) ((List.replicate n ()).forM fun _ =>
          deliverNext task roomCode) l := by
      intro n
      induction n with
      | zero => exact fun l hl => hl
      | succ n ih =>
        intro l hl
        change Follows i _ _ (deliverNext task roomCode >>= fun _ =>
          (List.replicate n ()).forM fun _ => deliverNext task roomCode) l
        apply Coro.Follows.bind (deliverNext_follows hl rfl)
        · exact fun _ l' h => ih l' h.1
        · exact fun e l' h => h.1
    apply Coro.Follows.perform_bind (fun _ _ => ⟨rfl, by rintro room p ⟨⟩⟩)
    · exact fun _ _ => hloop rounds _ trivial
    · exact fun e => trivial
  · exact fun _ l h => ⟨h, trivial⟩
  · exact fun _ l h => ⟨h, trivial⟩

lemma broadcastToRoom_follows :
    Follows i (.broadcast roomCode parcel) (Ended (.broadcast roomCode parcel))
      (broadcastToRoom roomCode parcel) [] := by
  apply Coro.Follows.tryCatch
    (S := fun r l => l ≠ [] ∧ (r = .ok () → (phase l).Rests) ∧ ∀ e, r = .error e →
      phase l = .taken parcel)
  · apply Coro.Follows.perform
    intro r _
    refine ⟨⟨rfl, rfl⟩, List.cons_ne_nil _ _, ?_, ?_⟩
    · rintro rfl
      trivial
    · rintro e rfl
      rfl
  · exact fun _ l h => ⟨h.2.1 rfl, h.1⟩
  · intro e l h
    apply (sendToLocalRoom_follows (h.2.2 e rfl) (.inl ⟨parcel, rfl⟩)).mono
    rintro r l' ⟨hrests, hprefix⟩
    exact ⟨hrests, fun hl' => h.1 (List.prefix_nil.mp (hl' ▸ hprefix))⟩

lemma joinFrom_follows {websocket : Socket} {playerId : Option UUID}
    (hcall : call = playerId.elim (.connectHost websocket roomCode) fun p =>
      .connect websocket roomCode p) :
    Follows i call (fun r l => (phase l).Rests ∧ (r = .ok () →
        ∃ ev ∈ l, ∃ i, ev = ⟨i, .joinRoom websocket roomCode playerId, .ok ()⟩))
      (do
        await (.accept websocket)
        await (.joinRoom websocket roomCode playerId)) [] := by
  have hother : ∀ room p, call ≠ .broadcast room p := by
    rintro room p rfl
    cases playerId <;> cases hcall
  apply Coro.Follows.perform_bind (fun _ _ => hother)
  · intro _ _
    apply Coro.Follows.perform
    intro r _
    refine ⟨hcall, ?_, ?_⟩
    · rw [phase_aside (by trivial)]
      trivial
    · rintro rfl
      exact ⟨_, List.mem_append_right _ (List.mem_singleton_self _), i, rfl⟩
  · exact fun e => ⟨trivial, fun h => by cases h⟩

/-- The operations of a way out. -/
def Op.Leaves (call : Call) : {β : Type} → Op β → Prop
  | _, .leaveRoom websocket roomCode => call = .disconnectHost websocket roomCode ∨
      ∃ p, call = .disconnect websocket roomCode p
  | _, .awaitTask _ | _, .releaseLock | _, .forget .. => True
  | _, _ => False

lemma disconnectFrom_follows {websocket : Socket} {playerId : Option UUID}
    (hcall : call = .disconnectHost websocket roomCode ∨ ∃ p, call = .disconnect
      websocket roomCode p) :
    Follows i call (fun _ l => (phase l).Rests)
      (disconnectFrom websocket roomCode playerId) [] := by
  have hleaves : (disconnectFrom websocket roomCode playerId).All manager.Answers
      (Op.Leaves call) := by
    apply All.perform_bind hcall
    intro task _
    apply All.bind
    · cases task with
      | none => trivial
      | some task =>
        apply All.tryCatch ((all_perform _).mpr (by trivial))
        exact fun e => All.perform_bind (by trivial) fun _ _ => trivial
    · exact fun _ => (all_perform _).mpr (by trivial)
  have hother : ∀ room p, call ≠ .broadcast room p := by
    rintro room p rfl
    rcases hcall with h | ⟨p, h⟩ <;> cases h
  apply Coro.Follows.of_all hleaves _ (by trivial)
  intro β o r l ho _ hl
  cases o with
  | leaveRoom w room => exact ⟨ho, by rwa [phase_aside (by trivial)]⟩
  | awaitTask | releaseLock | forget => exact ⟨hother, by rwa [phase_aside (by trivial)]⟩
  | _ => exact ho.elim

lemma code_follows (i : ℕ) (call : Call) : Follows i call (Ended call) (code call) [] := by
  cases call with
  | connect websocket roomCode playerId => exact joinFrom_follows rfl
  | connectHost websocket roomCode => exact joinFrom_follows rfl
  | disconnect websocket roomCode playerId =>
    exact (disconnectFrom_follows (.inr ⟨playerId, rfl⟩)).mono fun _ _ h => ⟨h, trivial⟩
  | disconnectHost websocket roomCode =>
    exact (disconnectFrom_follows (.inl rfl)).mono fun _ _ h => ⟨h, trivial⟩
  | broadcast roomCode parcel => exact broadcastToRoom_follows
  | subscriber task roomCode rounds => exact subscriber_follows task rounds

end Follows

end Askit.Game.ConnectionManager

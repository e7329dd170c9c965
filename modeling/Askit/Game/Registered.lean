import Askit.Game.Connections
import Askit.Interleaving.Trace

/-! What the dictionaries of the connection manager hold, told from the history. -/

namespace Askit.Game.Connections

open Interleaving Machine Coro

abbrev Place := Socket × String × Option UUID

def entering : Event Op Exn → Option Place
  | ⟨_, .enterRoom websocket roomCode playerId, .ok _⟩ => some (websocket, roomCode, playerId)
  | _ => none

def leaving : Event Op Exn → Option Place
  | ⟨_, .leaveRoom websocket roomCode playerId, .ok _⟩ => some (websocket, roomCode, playerId)
  | _ => none

def forgets : Event Op Exn → Bool
  | ⟨_, .forget .., .ok _⟩ => true
  | _ => false

def taskRaises : Event Op Exn → Bool
  | ⟨_, .awaitTask _, .error _⟩ => true
  | _ => false

def raised : Event Op Exn → Option Exn
  | ⟨_, _, .error e⟩ => some e
  | _ => none

def Entered (history : List (Event Op Exn)) (place : Place) : Prop :=
  ∃ ev ∈ history, entering ev = some place

def Left (history : List (Event Op Exn)) (websocket : Socket) (roomCode : String) : Prop :=
  ∃ ev ∈ history, ∃ playerId, leaving ev = some (websocket, roomCode, playerId)

def Inside (history : List (Event Op Exn)) (websocket : Socket) (roomCode : String) : Prop :=
  (∃ playerId, Entered history (websocket, roomCode, playerId)) ∧ ¬Left history websocket roomCode

def Returned (c : connections.Config) (call : Call) : Prop := ∃ p ∈ c.procs, p.call = call ∧
    p.rest = .done (.ok ())

def Present (c : connections.Config) (websocket : Socket) (roomCode : String) : Prop :=
  (∃ playerId, Returned c (.connect websocket roomCode playerId)) ∧
    ∀ playerId, ¬Returned c (.disconnect websocket roomCode playerId)

def InRoom (d : Dictionaries) (websocket : Socket) (roomCode : String) : Prop :=
  ∃ sockets ∈ d.rooms roomCode, websocket ∈ sockets

structure Consistent (c : connections.Config) : Prop where
  members : ∀ websocket roomCode,
    InRoom c.world.state websocket roomCode ↔ Present c websocket roomCode
  nonempty : ∀ roomCode, Dictionaries.rooms c.world.state roomCode ≠ some []
  keys : ∀ roomCode, (Dictionaries.rooms c.world.state roomCode).isSome =
    (Dictionaries.subscriptions c.world.state roomCode).isSome
  players : ∀ playerId websocket, (playerId, websocket) ∈ Dictionaries.players c.world.state →
    ∃ roomCode, Returned c (.connect websocket roomCode (some playerId)) ∧ InRoom c.world.state
      websocket roomCode
  hosts : ∀ roomCode websocket, Dictionaries.hosts c.world.state roomCode = some websocket →
    Returned c (.connect websocket roomCode none) ∧ InRoom c.world.state websocket roomCode

/-- No socket whose disconnect has returned is the target of a direct send. -/
def NeverGone (c : connections.Config) : Prop :=
  ∀ websocket roomCode playerId, Returned c (.disconnect websocket roomCode playerId) →
    (∀ q, (q, websocket) ∉ Dictionaries.players c.world.state) ∧
      ∀ room, Dictionaries.hosts c.world.state room ≠ some websocket

/-- A call raises only what one of its awaits has raised. -/
def RaisesOwn (c : connections.Config) : Prop :=
  ∀ (i : ℕ) p e, c.procs[i]? = some p → p.rest = .done (.error e) → ∃ ev ∈ own i c.world.history,
    raised ev = some e

section Follows

def Dutiful (call : Call) (l : List (Event Op Exn)) : Event Op Exn → Prop
  | ⟨_, .accept websocket, _⟩ =>
    (∃ roomCode playerId, call = .connect websocket roomCode playerId) ∧ l = []
  | ⟨_, .enterRoom websocket roomCode playerId, _⟩ =>
    call = .connect websocket roomCode playerId ∧ ∀ ev ∈ l, entering ev = none
  | ⟨_, .leaveRoom websocket roomCode playerId, _⟩ =>
    call = .disconnect websocket roomCode playerId ∧ l = []
  | ⟨_, .awaitTask _, _⟩ =>
    (∃ websocket roomCode playerId, call = .disconnect websocket roomCode playerId) ∧ ∀ ev ∈ l,
      forgets ev = false
  | ⟨_, .forget roomCode playerId, _⟩ =>
    ∃ websocket, call = .disconnect websocket roomCode playerId ∧
      (∃ ev ∈ l, leaving ev = some (websocket, roomCode, playerId)) ∧ ∀ ev ∈ l, forgets ev = false
  | ⟨_, .releaseLock, _⟩ => ∃ ev ∈ l, taskRaises ev = true
  | ⟨_, .subscribe _, _⟩ | ⟨_, .listen _, _⟩ | ⟨_, .roomSockets _, _⟩ | ⟨_, .socketPlayer _,
      _⟩ | ⟨_, .sendJson .., _⟩ =>
    ∃ task roomCode messages, call = .subscriber task roomCode messages

def Ended (call : Call) (r : Except Exn Unit) (l : List (Event Op Exn)) : Prop :=
  (match call with
  | .connect websocket roomCode playerId => r = .ok () ↔ Entered l (websocket, roomCode, playerId)
  | .disconnect websocket roomCode playerId => (r = .ok () ↔ ∃ ev ∈ l, forgets ev = true) ∧
    (r = .ok () → ∃ ev ∈ l, leaving ev = some (websocket, roomCode, playerId))
  | .subscriber .. => r = .ok ()) ∧
  ∀ e, r = .error e → ∃ ev ∈ l, raised ev = some e

variable {i : ℕ} {call : Call} {l : List (Event Op Exn)} {websocket : Socket} {roomCode : String}
variable {playerId : Option UUID}

abbrev Follows {α : Type} (i : ℕ) (call : Call) (Q : Except Exn α → List (Event Op Exn) → Prop)
    (x : Handler α) (l : List (Event Op Exn)) : Prop :=
  x.Follows connections.Answers i (Dutiful call) Q l

lemma connectTo_follows (hcall : call = .connect websocket roomCode playerId) :
    Follows i call (Ended call) (connectTo websocket roomCode playerId) [] := by
  subst hcall
  apply Coro.Follows.perform_bind (fun _ _ => ⟨⟨_, _, rfl⟩, rfl⟩)
  · intro _ _
    apply Coro.Follows.perform
    intro r _
    refine ⟨⟨rfl, ?_⟩, ?_⟩
    · intro ev hev
      rw [List.nil_append, List.mem_singleton] at hev
      rw [hev]
      rfl
    · cases r with
      | ok _ => exact ⟨iff_of_true rfl ⟨_, List.mem_append_right _ (List.mem_singleton_self _),
          rfl⟩, by simp⟩
      | error e => simp [Ended, Entered, entering, raised]
  · intro e
    simp [Ended, Entered, entering, raised]

lemma awaitCancelled_follows (task : Option ℕ) (place : Place)
    (hcall : ∃ w r p, call = .disconnect w r p) (hl : ∃ ev ∈ l, leaving ev = some place)
    (hforget : ∀ ev ∈ l, forgets ev = false) :
    Follows i call (fun r l' => (∃ ev ∈ l', leaving ev = some place) ∧
      (∀ ev ∈ l', forgets ev = false) ∧
      ∀ e, r = .error e → ∃ ev ∈ l', raised ev = some e) (awaitCancelled task) l := by
  obtain ⟨ev, hev, hleaving⟩ := hl
  cases task with
  | none => exact ⟨⟨ev, hev, hleaving⟩, hforget, by rintro e ⟨⟩⟩
  | some task =>
    have hkept {β : Type} (o : Op β) (r : Except Exn β) (l : List (Event Op Exn))
      (hf : ∀ ev ∈ l, forgets ev = false)
        (ho : forgets ⟨i, o, r⟩ = false) : ∀ ev ∈ l ++ [⟨i, o, r⟩], forgets ev = false := by
      intro ev hev
      rcases List.mem_append.mp hev with hev | hev
      · exact hf ev hev
      · rw [List.mem_singleton.mp hev]
        exact ho
    apply Coro.Follows.tryCatch (S := fun r l' => l' = l ++ [⟨i, .awaitTask task, r⟩])
    · exact Coro.Follows.perform fun r _ => ⟨⟨hcall, hforget⟩, rfl⟩
    · rintro a _ rfl
      exact ⟨⟨ev, List.mem_append_left _ hev, hleaving⟩, hkept _ _ l hforget rfl, by rintro e ⟨⟩⟩
    · rintro e _ rfl
      have hnone := hkept (.awaitTask task) (.error e) l hforget rfl
      apply Coro.Follows.perform_bind
        (fun _ _ => ⟨_, List.mem_append_right _ (List.mem_singleton_self _), rfl⟩)
      · intro _ _
        refine ⟨⟨ev, by simp [hev], hleaving⟩, hkept _ _ _ hnone rfl, ?_⟩
        rintro _ ⟨⟩
        exact ⟨⟨i, .awaitTask task, .error e⟩, by simp, rfl⟩
      · intro e'
        refine ⟨⟨ev, by simp [hev], hleaving⟩, hkept _ _ _ hnone rfl, ?_⟩
        rintro _ ⟨⟩
        exact ⟨_, List.mem_append_right _ (List.mem_singleton_self _), rfl⟩

lemma disconnectFrom_follows (hcall : call = .disconnect websocket roomCode playerId) :
    Follows i call (Ended call) (disconnectFrom websocket roomCode playerId) [] := by
  subst hcall
  apply Coro.Follows.perform_bind (fun _ _ => ⟨rfl, rfl⟩)
  · intro task _
    apply Coro.Follows.bind (awaitCancelled_follows task (websocket, roomCode, playerId)
      ⟨_, _, _, rfl⟩ ?_ ?_)
    · rintro _ l ⟨⟨ev, hev, hleave⟩, hforget, -⟩
      apply Coro.Follows.perform
      intro r _
      refine ⟨⟨websocket, rfl, ⟨ev, hev, hleave⟩, hforget⟩, ?_⟩
      cases r with
      | ok _ =>
        exact ⟨⟨iff_of_true rfl ⟨_, List.mem_append_right _ (List.mem_singleton_self _), rfl⟩,
          fun _ => ⟨ev, List.mem_append_left _ hev, hleave⟩⟩, by simp⟩
      | error e =>
        have hnone : ¬∃ ev ∈ l ++ [⟨i, .forget roomCode playerId, .error e⟩],
            forgets ev = true := by
          simpa [forgets, or_imp, forall_and] using hforget
        exact ⟨⟨iff_of_false (by simp) hnone, by simp⟩, by simp [raised]⟩
    · rintro e l ⟨-, hforget, hraised⟩
      exact ⟨⟨iff_of_false (by simp) (by simpa using hforget), by simp⟩, hraised⟩
    · exact ⟨_, List.mem_append_right _ (List.mem_singleton_self _), rfl⟩
    · intro ev hev
      rw [List.nil_append, List.mem_singleton] at hev
      rw [hev]
      rfl
  · intro e
    simp [Ended, forgets, raised]

def Op.Aside : {β : Type} → Op β → Prop
  | _, .subscribe _ | _, .listen _ | _, .roomSockets _ | _, .socketPlayer _ | _,
  .sendJson .. => True
  | _, _ => False

lemma sendToLocalRoom_aside (roomCode : String) (envelope : Envelope) :
    (sendToLocalRoom roomCode envelope).All connections.Answers Op.Aside := by
  have hsend : ∀ w, (sendUnlessExcluded envelope w).All connections.Answers Op.Aside := by
    intro w
    apply All.perform_bind (by trivial)
    intro playerId _
    apply All.ite
    · exact fun _ => all_pure ()
    · exact fun _ => All.tryCatch ((all_perform _).mpr (by trivial)) fun _ => all_pure ()
  exact All.perform_bind (by trivial) fun connections _ => All.forM fun w _ => hsend w

lemma subscriber_follows {task : ℕ} {messages : List Envelope}
    (hcall : call = .subscriber task roomCode messages) :
    Follows i call (Ended call) (subscriber roomCode messages) [] := by
  subst hcall
  apply Coro.Follows.tryCatch (S := fun _ _ => True)
  · apply Coro.Follows.of_all (S := Op.Aside) (A := fun _ => True) _ _ trivial
    · apply All.perform_bind (by trivial)
      intro _ _
      apply All.forM
      intro envelope _
      exact All.perform_bind (by trivial) fun _ _ => sendToLocalRoom_aside roomCode envelope
    · intro β o r l ho _ _
      refine ⟨?_, trivial⟩
      cases o <;> first | exact ⟨_, _, _, rfl⟩ | cases ho
  · exact fun _ _ _ => ⟨rfl, by rintro e ⟨⟩⟩
  · exact fun _ _ _ => ⟨rfl, by rintro e ⟨⟩⟩

lemma code_follows (i : ℕ) (call : Call) : Follows i call (Ended call) (code call) [] := by
  cases call with
  | connect w r p => cases p <;> exact connectTo_follows rfl
  | disconnect w r p => cases p <;> exact disconnectFrom_follows rfl
  | subscriber task r messages => exact subscriber_follows rfl

end Follows

def Holds (history : List (Event Op Exn)) (i : ℕ) : Prop :=
  (∃ ev ∈ own i history, (leaving ev).isSome) ∧ ∀ ev ∈ own i history, forgets ev = false

/-- A socket that has a seat has taken it, and gives it up in the second half of the critical
section that takes it out of its room. -/
def Seated (calls : List Call) (history : List (Event Op Exn)) (websocket : Socket)
    (roomCode : String) (playerId : Option UUID) : Prop :=
  Entered history (websocket, roomCode, playerId) ∧
    (Left history websocket roomCode →
      ∃ i : ℕ, Holds history i ∧ calls[i]? = some (.disconnect websocket roomCode playerId))

structure Registered (calls : List Call) (history : List (Event Op Exn)) (d : Dictionaries) :
    Prop where
  matched : ∀ (i : ℕ) websocket roomCode playerId,
    calls[i]? = some (.disconnect websocket roomCode playerId) →
    Entered history (websocket, roomCode, playerId)
  locked : ∀ i, Holds history i → d.locked = true
  alone : ∀ i j, Holds history i → Holds history j → i = j
  nodup : ∀ roomCode, ∀ sockets ∈ d.rooms roomCode, sockets.Nodup
  members : ∀ websocket roomCode, InRoom d websocket roomCode ↔ Inside history websocket roomCode
  nonempty : ∀ roomCode, d.rooms roomCode ≠ some []
  keys : ∀ roomCode, (d.rooms roomCode).isSome = (d.subscriptions roomCode).isSome
  players : ∀ playerId websocket, (playerId, websocket) ∈ d.players →
    ∃ roomCode, Seated calls history websocket roomCode (some playerId)
  hosts : ∀ roomCode websocket, d.hosts roomCode = some websocket →
    Seated calls history websocket roomCode none

section Appended

variable {history : List (Event Op Exn)} {ev : Event Op Exn}

lemma entered_append {place : Place} :
    Entered (history ++ [ev]) place ↔ Entered history place ∨ entering ev = some place := by
  simp [Entered, or_and_right, exists_or]

lemma left_append {websocket : Socket} {roomCode : String} :
    Left (history ++ [ev]) websocket roomCode ↔ Left history websocket roomCode ∨
      ∃ playerId, leaving ev = some (websocket, roomCode, playerId) := by
  simp [Left, or_and_right, exists_or]

lemma holds_append_of_ne {i : ℕ} (h : ev.pid ≠ i) :
    Holds (history ++ [ev]) i ↔ Holds history i := by
  unfold Holds
  rw [show own i (history ++ [ev]) = own i history from own_append_of_ne h ev.op ev.outcome]

lemma holds_append_self : Holds (history ++ [ev]) ev.pid ↔
    ((∃ e ∈ own ev.pid history, (leaving e).isSome) ∨ (leaving ev).isSome) ∧
      (∀ e ∈ own ev.pid history, forgets e = false) ∧ forgets ev = false := by
  unfold Holds
  rw [show own ev.pid (history ++ [ev]) = own ev.pid history ++ [ev] from
    own_append_self ev.op ev.outcome]
  simp [or_and_right, exists_or, or_imp, forall_and]

lemma holds_append_of_aside {i : ℕ} (hl : leaving ev = none) (hf : forgets ev = false) :
    Holds (history ++ [ev]) i ↔ Holds history i := by
  by_cases h : ev.pid = i
  · subst h
    rw [holds_append_self]
    simp [Holds, hl, hf]
  · exact holds_append_of_ne h

end Appended

namespace Registered

variable {calls : List Call} {history : List (Event Op Exn)} {d : Dictionaries}
variable {i : ℕ} {websocket : Socket} {roomCode : String} {playerId : Option UUID}

lemma empty : Registered [] [] Dictionaries.empty where
  matched i w r p h := by cases h
  locked i h := by
    obtain ⟨ev, h, -⟩ := h.1
    cases h
  alone i j h := by
    obtain ⟨ev, h, -⟩ := h.1
    cases h
  nodup r sockets h := by cases h
  members w r := by
    constructor
    · rintro ⟨sockets, h, -⟩
      cases h
    · rintro ⟨⟨p, ev, h, -⟩, -⟩
      cases h
  nonempty r h := by cases h
  keys r := rfl
  players p w h := by cases h
  hosts r w h := by cases h

lemma aside (h : Registered calls history d) {ev : Event Op Exn} (he : entering ev = none)
    (hl : leaving ev = none) (hf : forgets ev = false) : Registered calls (history ++ [ev]) d := by
  have hentered : ∀ place, Entered (history ++ [ev]) place ↔ Entered history place := by
    simp [entered_append, he]
  have hleft : ∀ w r, Left (history ++ [ev]) w r ↔ Left history w r := by
    simp [left_append, hl]
  have hholds : ∀ i, Holds (history ++ [ev]) i ↔ Holds history i :=
    fun _ => holds_append_of_aside hl hf
  obtain ⟨hmatched, hlocked, halone, hnodup, hmembers, hnonempty, hkeys, hplayers, hhosts⟩ := h
  refine ⟨?_, ?_, ?_, hnodup, ?_, hnonempty, hkeys, ?_, ?_⟩
  · simpa only [hentered] using hmatched
  · simpa only [hholds] using hlocked
  · simpa only [hholds] using halone
  · simpa only [Inside, hentered, hleft] using hmembers
  · simpa only [Seated, hentered, hleft, hholds] using hplayers
  · simpa only [Seated, hentered, hleft, hholds] using hhosts

lemma Seated.spawn (h : Seated calls history websocket roomCode playerId) (call : Call) :
    Seated (calls ++ [call]) history websocket roomCode playerId := by
  refine ⟨h.1, fun hleft => ?_⟩
  obtain ⟨i, hi, hcall⟩ := h.2 hleft
  refine ⟨i, hi, ?_⟩
  rw [List.getElem?_append_left (List.getElem?_eq_some_iff.mp hcall).1]
  exact hcall

lemma spawn (h : Registered calls history d) (call : Call)
    (hcall : ∀ w r p, call = .disconnect w r p → Entered history (w, r, p)) :
    Registered (calls ++ [call]) history d := by
  refine ⟨?_, h.locked, h.alone, h.nodup, h.members, h.nonempty, h.keys, ?_, ?_⟩
  · intro i w r p hi
    rcases Nat.lt_trichotomy i calls.length with hlt | rfl | hgt
    · rw [List.getElem?_append_left hlt] at hi
      exact h.matched i w r p hi
    · rw [List.getElem?_concat_length, Option.some.injEq] at hi
      exact hcall w r p hi
    · rw [List.getElem?_eq_none (by simp; omega)] at hi
      cases hi
  · intro p w hp
    obtain ⟨r, hr⟩ := h.players p w hp
    exact ⟨r, Seated.spawn hr call⟩
  · exact fun r w hr => Seated.spawn (h.hosts r w hr) call

lemma Seated.inside (h : Registered calls history d) (hfree : d.locked = false)
    (hs : Seated calls history websocket roomCode playerId) :
    Inside history websocket roomCode := by
  refine ⟨⟨playerId, hs.1⟩, fun hleft => ?_⟩
  obtain ⟨i, hi, -⟩ := hs.2 hleft
  rw [h.locked i hi] at hfree
  cases hfree

lemma enter (h : Registered calls history d) (hfree : d.locked = false)
    (hstays : ¬Left history websocket roomCode) :
    Registered calls (history ++ [⟨i, .enterRoom websocket roomCode playerId, .ok ()⟩])
      (d.enterRoom websocket roomCode playerId) := by
  have hentered : ∀ place, Entered (history ++
      [⟨i, .enterRoom websocket roomCode playerId, .ok ()⟩]) place ↔
        Entered history place ∨ (websocket, roomCode, playerId) = place := by
    simp [entered_append, entering]
  have hleft : ∀ w r, Left (history ++ [⟨i, .enterRoom websocket roomCode playerId, .ok ()⟩]) w r ↔
      Left history w r := by
    simp [left_append, leaving]
  have hholds : ∀ j, Holds (history ++ [⟨i, .enterRoom websocket roomCode playerId, .ok ()⟩]) j ↔
      Holds history j := fun _ => holds_append_of_aside rfl rfl
  have hnobody : ∀ j, ¬Holds history j := by
    intro j hj
    rw [h.locked j hj] at hfree
    cases hfree
  have hseated : ∀ w r p, Seated calls history w r p → Seated calls (history ++
      [⟨i, .enterRoom websocket roomCode playerId, .ok ()⟩]) w r p := by
    rintro w r p ⟨he, hl⟩
    refine ⟨(hentered _).mpr (.inl he), fun hleaves => ?_⟩
    obtain ⟨j, hj, -⟩ := hl ((hleft w r).mp hleaves)
    exact (hnobody j hj).elim
  have hself : Seated calls (history ++ [⟨i, .enterRoom websocket roomCode playerId, .ok ()⟩])
      websocket roomCode playerId :=
    ⟨(hentered _).mpr (.inr rfl), fun hleaves => (hstays ((hleft _ _).mp hleaves)).elim⟩
  refine ⟨?_, ?_, ?_, ?_, ?_, ?_, ?_, ?_, ?_⟩
  · exact fun j w r p hj => (hentered _).mpr (.inl (h.matched j w r p hj))
  · exact fun j hj => (hnobody j ((hholds j).mp hj)).elim
  · exact fun j k hj => (hnobody j ((hholds j).mp hj)).elim
  · intro room sockets hroom
    rw [Option.mem_def, rooms_enterRoom] at hroom
    split_ifs at hroom with heq
    · cases hroom
      cases hr : d.rooms roomCode with
      | none => exact List.nodup_nil.insert
      | some sockets => exact (h.nodup roomCode sockets hr).insert
    · exact h.nodup room sockets hroom
  · intro w room
    have hbefore := h.members w room
    unfold InRoom Inside at hbefore ⊢
    simp only [hentered, hleft, rooms_enterRoom]
    by_cases hroom : room = roomCode
    · subst hroom
      by_cases hw : w = websocket
      · subst hw
        exact iff_of_true ⟨_, if_pos rfl, List.mem_insert_self⟩ ⟨⟨playerId, .inr rfl⟩, hstays⟩
      · have hmem : ∀ sockets : List Socket, w ∈ insert websocket sockets ↔ w ∈ sockets :=
          fun sockets => List.mem_insert_iff.trans (or_iff_right hw)
        cases hr : d.rooms room with
        | none => simpa [hr, hmem, Ne.symm hw] using hbefore
        | some sockets => simpa [hr, hmem, Ne.symm hw] using hbefore
    · simpa [hroom, Ne.symm hroom] using hbefore
  · intro room hroom
    rw [rooms_enterRoom] at hroom
    split_ifs at hroom with heq
    · rw [Option.some.injEq] at hroom
      have hmem : websocket ∈ insert websocket ((d.rooms roomCode).getD []) := List.mem_insert_self
      rw [hroom] at hmem
      cases hmem
    · exact h.nonempty room hroom
  · intro room
    rw [rooms_enterRoom, subscriptions_enterRoom _ _ _ _ _ (h.keys roomCode)]
    split_ifs with heq
    · rfl
    · exact h.keys room
  · intro p w hp
    rw [players_enterRoom] at hp
    cases playerId with
    | none =>
      obtain ⟨r, hr⟩ := h.players p w hp
      exact ⟨r, hseated w r _ hr⟩
    | some q =>
      rcases List.mem_cons.mp hp with heq | hp
      · cases heq
        exact ⟨roomCode, hself⟩
      · obtain ⟨r, hr⟩ := h.players p w (List.mem_filter.mp hp).1
        exact ⟨r, hseated w r _ hr⟩
  · intro room w hw
    rw [hosts_enterRoom] at hw
    cases playerId with
    | some q => exact hseated w room _ (h.hosts room w hw)
    | none =>
      by_cases hroom : room = roomCode
      · subst hroom
        simp only [Function.update_self, Option.some.injEq] at hw
        exact hw ▸ hself
      · simp only [Function.update_of_ne hroom] at hw
        exact hseated w room _ (h.hosts room w hw)

lemma leave (h : Registered calls history d) (hfree : d.locked = false) {task : Option ℕ}
    (hcall : calls[i]? = some (.disconnect websocket roomCode playerId)) (hnew : own i history = [])
    (honly : ∀ r p, Entered history (websocket, r, p) → r = roomCode ∧ p = playerId) :
    Registered calls (history ++ [⟨i, .leaveRoom websocket roomCode playerId, .ok task⟩])
      (d.leaveRoom websocket roomCode).2 := by
  obtain ⟨hplayers, hhosts, hlocked⟩ := leaveRoom_rest d websocket roomCode
  have hentered : ∀ place, Entered (history ++
      [⟨i, .leaveRoom websocket roomCode playerId, .ok task⟩]) place ↔ Entered history place := by
    simp [entered_append, entering]
  have hleft : ∀ w r, Left (history ++ [⟨i, .leaveRoom websocket roomCode playerId, .ok task⟩])
    w r ↔
      Left history w r ∨ (websocket = w ∧ roomCode = r) := by
    simp [left_append, leaving]
  have hself : Holds (history ++ [⟨i, .leaveRoom websocket roomCode playerId, .ok task⟩]) i := by
    refine holds_append_self.mpr ⟨.inr rfl, ?_, rfl⟩
    rw [hnew]
    exact fun e he => by cases he
  have honce : ∀ j, Holds (history ++ [⟨i, .leaveRoom websocket roomCode playerId, .ok task⟩]) j →
      j = i := by
    intro j hj
    by_contra hne
    have hold := h.locked j ((holds_append_of_ne (Ne.symm hne)).mp hj)
    rw [hold] at hfree
    cases hfree
  have hseated : ∀ w r p, Seated calls history w r p →
      Seated calls (history ++ [⟨i, .leaveRoom websocket roomCode playerId, .ok task⟩]) w r p := by
    intro w r p hs
    refine ⟨(hentered _).mpr hs.1, fun hl => ?_⟩
    rcases (hleft w r).mp hl with hl | ⟨rfl, rfl⟩
    · exact ((Seated.inside h hfree hs).2 hl).elim
    · obtain ⟨-, rfl⟩ := honly _ _ hs.1
      exact ⟨i, hself, hcall⟩
  refine ⟨?_, ?_, ?_, ?_, ?_, ?_, ?_, ?_, ?_⟩
  · exact fun j w r p hj => (hentered _).mpr (h.matched j w r p hj)
  · exact fun _ _ => hlocked
  · exact fun j k hj hk => (honce j hj).trans (honce k hk).symm
  · intro room sockets hroom
    rw [Option.mem_def, rooms_leaveRoom] at hroom
    split_ifs at hroom with heq
    · obtain ⟨hroom, -⟩ := Option.filter_eq_some_iff.mp hroom
      obtain ⟨before, hbefore, rfl⟩ := Option.map_eq_some_iff.mp hroom
      exact (h.nodup roomCode before hbefore).erase _
    · exact h.nodup room sockets hroom
  · intro w room
    have hbefore := h.members w room
    unfold InRoom Inside at hbefore ⊢
    simp only [hentered, hleft, rooms_leaveRoom]
    by_cases hroom : room = roomCode
    · subst hroom
      by_cases hw : w = websocket
      · subst hw
        apply iff_of_false
        · rintro ⟨sockets, hsockets, hmem⟩
          rw [if_pos rfl] at hsockets
          obtain ⟨before, hr, rfl⟩ :=
            Option.map_eq_some_iff.mp (Option.filter_eq_some_iff.mp hsockets).1
          exact ((h.nodup room before hr).mem_erase_iff.mp hmem).1 rfl
        · exact fun hinside => hinside.2 (.inr ⟨rfl, rfl⟩)
      · have hmem : ∀ sockets : List Socket, w ∈ sockets.erase websocket ↔ w ∈ sockets :=
          fun sockets => List.mem_erase_of_ne hw
        have hkeep : (∃ sockets ∈ ((d.rooms room).map fun sockets => sockets.erase websocket).filter
            (· ≠ []), w ∈ sockets) ↔ ∃ sockets ∈ d.rooms room, w ∈ sockets := by
          constructor
          · rintro ⟨sockets, hsockets, hw'⟩
            obtain ⟨before, hr, rfl⟩ :=
              Option.map_eq_some_iff.mp (Option.filter_eq_some_iff.mp hsockets).1
            exact ⟨before, hr, (hmem before).mp hw'⟩
          · rintro ⟨before, hr, hw'⟩
            have hne := List.ne_nil_of_mem ((hmem before).mpr hw')
            exact ⟨_, Option.filter_eq_some_iff.mpr ⟨by rw [hr, Option.map_some], by
              simpa using hne⟩, (hmem before).mpr hw'⟩
        simp only [if_true]
        rw [hkeep]
        simpa [Ne.symm hw] using hbefore
    · simpa [hroom, Ne.symm hroom] using hbefore
  · intro room hroom
    rw [rooms_leaveRoom] at hroom
    split_ifs at hroom with heq
    · have hne := (Option.filter_eq_some_iff.mp hroom).2
      simp at hne
    · exact h.nonempty room hroom
  · intro room
    rw [subscriptions_leaveRoom _ _ _ _ (h.keys roomCode)]
    split_ifs with heq
    · rw [heq]
    · rw [rooms_leaveRoom, if_neg heq]
      exact h.keys room
  · intro p w hp
    rw [hplayers] at hp
    obtain ⟨r, hr⟩ := h.players p w hp
    exact ⟨r, hseated w r _ hr⟩
  · intro room w hw
    rw [hhosts] at hw
    exact hseated w room _ (h.hosts room w hw)

lemma forget (h : Registered calls history d)
    (hcall : calls[i]? = some (.disconnect websocket roomCode playerId))
    (hholds : Holds history i) :
    Registered calls (history ++ [⟨i, .forget roomCode playerId, .ok ()⟩])
      (d.forget roomCode playerId) := by
  have hentered : ∀ place, Entered (history ++ [⟨i, .forget roomCode playerId, .ok ()⟩]) place ↔
      Entered history place := by
    simp [entered_append, entering]
  have hleft : ∀ w r, Left (history ++ [⟨i, .forget roomCode playerId, .ok ()⟩]) w r ↔
      Left history w r := by
    simp [left_append, leaving]
  have hnobody : ∀ j, ¬Holds (history ++ [⟨i, .forget roomCode playerId, .ok ()⟩]) j := by
    intro j hj
    by_cases hji : i = j
    · subst hji
      have hf := (holds_append_self.mp hj).2.2
      cases hf
    · exact hji (h.alone i j hholds ((holds_append_of_ne hji).mp hj))
  -- whoever has a seat that is not given up here has not left
  have hseated : ∀ w r p, Seated calls history w r p → (r, p) ≠ (roomCode, playerId) →
      Seated calls (history ++ [⟨i, .forget roomCode playerId, .ok ()⟩]) w r p := by
    intro w r p hs hne
    refine ⟨(hentered _).mpr hs.1, fun hl => ?_⟩
    obtain ⟨j, hj, hdisconnect⟩ := hs.2 ((hleft w r).mp hl)
    obtain rfl := h.alone i j hholds hj
    rw [hcall] at hdisconnect
    cases hdisconnect
    exact (hne rfl).elim
  obtain ⟨hrooms, hsubscriptions, hfree⟩ := forget_rest d roomCode playerId
  refine ⟨?_, fun j hj => (hnobody j hj).elim, fun j k hj => (hnobody j hj).elim, ?_, ?_,
    ?_, ?_, ?_, ?_⟩
  · exact fun j w r p hj => (hentered _).mpr (h.matched j w r p hj)
  · rw [hrooms]
    exact h.nodup
  · intro w r
    have hbefore := h.members w r
    unfold InRoom Inside at hbefore ⊢
    simpa only [hrooms, hentered, hleft] using hbefore
  · rw [hrooms]
    exact h.nonempty
  · rw [hrooms, hsubscriptions]
    exact h.keys
  · intro p w hp
    cases playerId with
    | none =>
      obtain ⟨r, hr⟩ := h.players p w hp
      exact ⟨r, hseated w r _ hr (by simp)⟩
    | some q =>
      obtain ⟨hp, hne⟩ := List.mem_filter.mp hp
      obtain ⟨r, hr⟩ := h.players p w hp
      exact ⟨r, hseated w r _ hr (by simpa using fun _ => of_decide_eq_true hne)⟩
  · intro r w hr
    cases playerId with
    | some q => exact hseated w r _ (h.hosts r w hr) (by simp)
    | none =>
      by_cases hroom : r = roomCode
      · subst hroom
        simp [Dictionaries.forget] at hr
      · simp only [Dictionaries.forget, Function.update_of_ne hroom] at hr
        exact hseated w r _ (h.hosts r w hr) (by simpa using hroom)

end Registered

end Askit.Game.Connections

import Askit.Game.Traces

/-! What an endpoint leaves behind when its coroutine ends, however it ends. -/

namespace Askit.Game

open Interleaving Machine Coro Tables

section

variable [Runtime]

/-- The calls of a clean-up succeed. -/
def cleanUpSucceeds (t : system.Transition) :
    Bool := !Cleanup.struckBy (fun _ _ _ o => o.cleansUp) t

/-- No call raises, from the registration of an endpoint's socket to its receive loop, whose
exception is not expected there. -/
def slipFree (t : system.Transition) : Bool :=
  !Cleanup.struckBy (fun c i _ o => decide (Slips (own i c.world.history) o)) t

/-- The registry of a process that has been started. -/
def Registry.empty : Registry := ⟨fun _ => [], [], fun _ => none, fun _ => none, false⟩

/-- Each endpoint is given a socket of its own. -/
def newSocket : system.Transition → Bool
  | ⟨c, .spawn call⟩ => call.socket.all fun websocket => (Config.calls c).all fun call' =>
    call'.socket ≠ some websocket
  | _ => true

def Entered (c : system.Config) (i : ℕ) (websocket : Socket) (roomCode : String)
    (playerId : Option UUID) : Prop :=
  .entered websocket roomCode playerId ∈ passages (own i c.world.history)

def ended (c : system.Config) (i : ℕ) : Bool :=
  match c.procs[i]? with
  | some ⟨_, .done _⟩ => true
  | _ => false

/-- Nothing is left of an endpoint that has registered its socket and has ended. -/
structure WithoutTrace (c : system.Config) (i : ℕ) (websocket : Socket) (playerId : Option UUID) :
    Prop where
  rooms : ∀ roomCode, websocket ∉ (State.registry c.world.state).rooms roomCode
  players : ∀ p, (p, websocket) ∉ (State.registry c.world.state).players
  hosts : ∀ roomCode, (State.registry c.world.state).hosts roomCode ≠ some websocket
  flag : ∀ p ∈ playerId, (∀ j ≠ i, ∀ w roomCode, Entered c j w roomCode (some p) →
    ended c j = true) →
    ¬(State.db c.world.state).Connected p

def CleanedUp (c : system.Config) : Prop := ∀ i websocket roomCode playerId,
  Entered c i websocket roomCode playerId → ended c i = true → WithoutTrace c i websocket playerId

namespace Cleanup

variable {c : system.Config} {i : ℕ}

structure Kept (c : system.Config) : Prop where
  labelled : c.Labelled
  traced : c.Traced Dutiful fun _ => Departed
  known : Presence.Known c.world.history (State.db c.world.state)
  sockets : ∀ (i j : ℕ) call call' w, c.calls[i]? = some call → c.calls[j]? = some call' →
    Call.socket call = some w → Call.socket call' = some w → i = j
  expected : ∀ i, ¬Escapes (own i c.world.history)
  registered : Registered c.world.history (State.registry c.world.state)
  flagged : Flagged c.world.history (State.db c.world.state)

lemma kept_start {s : State} (hs : s.registry = .empty) :
    Kept (start s) where
  labelled := @labelled_start _ _ _ system s
  traced := @traced_start _ _ _ system _ _ s
  known i code room h := by cases h
  sockets i j call call' w h := by cases h
  expected i := by
    rintro ⟨before, j, β, o, e, h, -⟩
    have hnil : before ++ [⟨j, o, .error e⟩] <+: [] := h
    simp at hnil
  registered := by
    change Registered [] s.registry
    rw [hs]
    exact ⟨fun _ => List.nodup_nil, fun w room h => (by cases h), fun p w h => (by cases h),
      fun room w h => (by cases h)⟩
  flagged := ⟨fun p b i h => (by cases h), fun p _ => .inr fun i => rfl⟩

section Perform

variable {history : List (Event Op Exn)} {s : State} {call : Call} {β : Type}

lemma Registered.perform {o : Op β} (h : Registered history s.registry)
    (hseq : Dutiful call (own i history) ⟨i, o, (exec o s).1⟩) :
    Registered (history ++ [⟨i, o, (exec o s).1⟩]) (exec o s).2.registry := by
  cases o with
  | joinRoom w room playerId => exact h.join hseq.2
  | leaveRoom w room => exact h.leave
  | forget room playerId => exact h.forget
  | commit changes =>
    apply h.quiet
    · cases he : s.db.commit changes with
      | none =>
        rw [exec_commit_none he]
        exact ⟨rfl, rfl, rfl⟩
      | some e =>
        rw [exec_commit_some he]
        exact ⟨rfl, rfl, rfl⟩
    · intro x hx
      cases he : s.db.commit changes with
      | none =>
        rw [exec_commit_none he] at hx
        cases hx
      | some e =>
        rw [exec_commit_some he] at hx
        obtain ⟨p, -, rfl⟩ := Option.map_eq_some_iff.mp hx
        exact ⟨p.1, p.2, rfl⟩
  | listen room =>
    apply h.quiet
    · simp only [exec]
      split <;> exact ⟨rfl, rfl, rfl⟩
    · exact fun x hx => (by cases hx)
  | _ =>
    apply h.quiet
    · exact ⟨rfl, rfl, rfl⟩
    · exact fun x hx => (by cases hx)

omit [Runtime] in
lemma Flagged.same (h : Flagged history d) {o : Op β} {r : Except Exn β}
    (ho : ∀ x ∈ passage ⟨i, o, r⟩, ∀ p, flagOf p x = none) : Flagged (history ++ [⟨i, o, r⟩]) d :=
  h.quiet ho (fun _ h => h) fun _ _ h => h

omit [Runtime] in
lemma Read.stored {p : UUID} {d : Db} (h : Read p (own i history)) (hk : Presence.Known history d) :
    (d.players.get? p).isSome := by
  obtain ⟨j, code, room, hmem, q, hq, rfl⟩ := h
  exact hk j code room (mem_own.mp hmem).1 q hq

lemma Flagged.perform {o : Op β} (h : Flagged history s.db) (hk : Presence.Known history s.db)
    (hseq : Dutiful call (own i history) ⟨i, o, (exec o s).1⟩) :
    Flagged (history ++ [⟨i, o, (exec o s).1⟩]) (exec o s).2.db := by
  cases o with
  | commit changes =>
    cases he : s.db.commit changes with
    | none =>
      rw [exec_commit_none he]
      exact h.same fun x hx => (by cases hx)
    | some e =>
      rw [exec_commit_some he]
      rcases hseq with ⟨-, hnone⟩ | ⟨q, b, rfl, hread, -⟩
      · apply h.quiet
        · intro x hx
          simp [passage, hnone] at hx
        · exact fun p hp => commit_players_isSome he hp
        · exact fun p hrow hp => connected_before he (by simp [hnone]) hrow hp
      · exact h.commit he (Read.stored hread hk)
  | listen room =>
    rw [exec_listen_db]
    exact h.same fun x hx => (by cases hx)
  | joinRoom | leaveRoom | forget =>
    apply h.same
    rintro x ⟨⟩ p
    rfl
  | _ => exact h.same fun x hx => (by cases hx)

lemma not_escapes_perform {o : Op β} (hready : ready o s = true) (h : ¬Escapes (own i history))
    (hseq : Dutiful call (own i history) ⟨i, o, (exec o s).1⟩) :
    ¬Escapes (own i history ++ [⟨i, o, (exec o s).1⟩]) := by
  rw [escapes_append]
  rintro (hescapes | ⟨e, he, hslips⟩)
  · exact h hescapes
  cases o with
  | commit changes =>
    rcases hseq with ⟨hnil, hnone⟩ | ⟨q, b, rfl, -, -⟩
    · rcases hslips with hslips | hslips
      · exact hslips.1 hnil
      · simp [Op.cleansUp, hnone] at hslips
    · have hsome : ∃ d, s.db.commit { connected := some (q, b) } = some d := ⟨_, rfl⟩
      obtain ⟨d, hd⟩ := hsome
      rw [exec_commit_some hd] at he
      cases he
  | listen room =>
    simp only [ready, Bool.not_eq_true', List.isEmpty_eq_false_iff] at hready
    simp only [exec] at he
    split at he
    · cases he
    · contradiction
  | _ => cases he

end Perform

lemma Kept.fault {e : Exn} {call : Call} {β : Type} {o : Op β} {k : Except Exn β → Handler Unit}
    (h : Kept c) (pending : c.procs[i]? = some ⟨call, .await o k⟩) (hclean : o.cleansUp = false)
    (hslip : ¬Slips (own i c.world.history) o) :
    (∀ j, ¬Escapes (own j (c.world.history ++ [⟨i, o, .error e⟩]))) ∧
      Registered (c.world.history ++ [⟨i, o, .error e⟩]) (State.registry c.world.state) ∧
      Flagged (c.world.history ++ [⟨i, o, .error e⟩]) (State.db c.world.state) := by
  have hnone : passage ⟨i, o, .error e⟩ = none := by cases o <;> rfl
  refine ⟨fun j => ?_, h.registered.quiet ⟨rfl, rfl, rfl⟩ ?_, h.flagged.same ?_⟩
  · by_cases hj : j = i
    · subst hj
      rw [own_append_self, escapes_append]
      rintro (hescapes | ⟨-, -, hs | hs⟩)
      · exact h.expected j hescapes
      · exact hslip hs
      · rw [hclean] at hs
        cases hs
    · rw [own_append_of_ne (Ne.symm hj)]
      exact h.expected j
  · exact fun x hx => (by rw [hnone] at hx; cases hx)
  · exact fun x hx => (by rw [hnone] at hx; cases hx)

omit [Runtime] in
lemma calls_append_iff {calls : List Call} {call : Call} {j : ℕ} {call' : Call}
    (h : (calls ++ [call])[j]? = some call') : calls[j]? = some call' ∨ j = calls.length ∧
    call' = call := by
  rcases Nat.lt_trichotomy j calls.length with hlt | rfl | hgt
  · rw [List.getElem?_append_left hlt] at h
    exact .inl h
  · rw [List.getElem?_concat_length] at h
    exact .inr ⟨rfl, (Option.some.inj h).symm⟩
  · rw [List.getElem?_eq_none (by simp; omega)] at h
    cases h

lemma Kept.step {t : system.Transition} (h : Kept t.before) (hnew : newSocket t = true)
    (hclean : cleanUpSucceeds t = true) (hslip : slipFree t = true) : Kept t.after := by
  have hlabelled := h.labelled.step t.act
  have htraced := h.traced.step h.labelled (fun i call => code_follows i call) t.act
  obtain ⟨c, a⟩ := t
  have h : Kept c := h
  have hm := step_moves a c
  change Kept (Machine.step a c)
  change Config.Labelled (Machine.step a c) at hlabelled
  change Config.Traced _ _ (Machine.step a c) at htraced
  generalize Machine.step a c = d at hm hlabelled htraced
  cases hm with
  | idle => exact h
  | spawn call s admitted =>
    obtain ⟨hdb, -, hregistry⟩ := enter_eq_some admitted
    refine ⟨hlabelled, htraced, ?_, ?_, h.expected, ?_, ?_⟩
    · change Presence.Known _ (State.db s)
      rw [hdb]
      exact h.known
    · intro j j' call₁ call₂ w h₁ h₂ hw₁ hw₂
      change (List.map Proc.call (c.procs ++ [⟨call, _⟩]))[_]? = _ at h₁ h₂
      rw [List.map_append] at h₁ h₂
      change (c.calls ++ [call])[_]? = _ at h₁ h₂
      have hfresh (k : ℕ) (call' : Call) (hk : (Config.calls c)[k]? = some call')
          (hw : call.socket = some w) (hw' : call'.socket = some w) : False := by
        simp only [newSocket, hw, Option.all_some, List.all_eq_true] at hnew
        have hne := hnew call' (List.mem_of_getElem? hk)
        simp [hw'] at hne
      rcases calls_append_iff h₁ with hj | ⟨hj, heq⟩
      · rcases calls_append_iff h₂ with hj' | ⟨-, heq'⟩
        · exact h.sockets j j' call₁ call₂ w hj hj' hw₁ hw₂
        · exact (hfresh j call₁ hj (heq' ▸ hw₂) hw₁).elim
      · rcases calls_append_iff h₂ with hj' | ⟨hj', -⟩
        · exact (hfresh j' call₂ hj' (heq ▸ hw₁) hw₂).elim
        · exact hj.trans hj'.symm
    · change Registered _ (State.registry s)
      rw [hregistry]
      exact h.registered
    · change Flagged _ (State.db s)
      rw [hdb]
      exact h.flagged
  | env e =>
    refine ⟨hlabelled, htraced, ?_, h.sockets, h.expected, ?_, ?_⟩ <;> cases e
    · exact h.known
    · exact h.known
    · exact h.registered
    · exact h.registered
    · exact h.flagged
    · exact h.flagged
  | fault i e call o k pending =>
    have hclean : o.cleansUp = false := by simpa [cleanUpSucceeds, struckBy, pending] using hclean
    have hslip : ¬Slips (own i c.world.history) o := by
      simpa [slipFree, struckBy, pending] using hslip
    obtain ⟨hexpected, hregistered, hflagged⟩ := h.fault pending hclean hslip
    refine ⟨hlabelled, htraced, h.known.fail o e, ?_, hexpected, hregistered, hflagged⟩
    have hcalls : Config.calls ⟨c.world.fail i o e, c.procs.set i ⟨call, k (.error e)⟩⟩ = c.calls :=
      calls_set pending
    rw [hcalls]
    exact h.sockets
  | run i call o k pending ready =>
    have hseq : Dutiful call (own i c.world.history) ⟨i, o, (exec o c.world.state).1⟩ :=
      (h.traced.rest i _ pending (exec o c.world.state).1 fun a ha => ⟨c.world.state, ha⟩).1
    refine ⟨hlabelled, htraced, h.known.perform o, ?_, fun j => ?_, h.registered.perform hseq,
      h.flagged.perform h.known hseq⟩
    · have hcalls : Config.calls ⟨(c.world.perform i o).2,
        c.procs.set i ⟨call, k (c.world.perform i o).1⟩⟩ =
          c.calls := calls_set pending
      rw [hcalls]
      exact h.sockets
    · change ¬Escapes (own j (c.world.history ++ [⟨i, o, (exec o c.world.state).1⟩]))
      by_cases hj : j = i
      · subst hj
        rw [own_append_self]
        exact not_escapes_perform ready (h.expected j) hseq
      · rw [own_append_of_ne (Ne.symm hj)]
        exact h.expected j

omit [Runtime] in
lemma entering_event {l : List (Event Op Exn)} {w : Socket} {room : String} {playerId : Option UUID}
    (h : .entered w room playerId ∈ passages l) : ∃ i, ∃ a : Except Exn Unit,
    ⟨i, .joinRoom w room playerId, a⟩ ∈ l := by
  obtain ⟨ev, hev, hpassage⟩ := List.mem_filterMap.mp h
  obtain ⟨i, o, r⟩ := ev
  cases o with
  | joinRoom =>
    cases r with
    | error e => cases hpassage
    | ok a =>
      cases hpassage
      exact ⟨i, _, hev⟩
  | commit changes =>
    cases r with
    | error e => cases hpassage
    | ok a => cases hc : changes.connected <;> simp [passage, hc] at hpassage
  | leaveRoom | forget => cases r <;> cases hpassage
  | _ => cases hpassage

lemma Kept.socket_of_entered (h : Kept c) {w : Socket} {room : String} {playerId : Option UUID}
    (he : Entered c i w room playerId) : ∃ call, c.calls[i]? = some call ∧
    Call.socket call = some w := by
  obtain ⟨j, a, hev⟩ := entering_event he
  obtain ⟨hmem, hpid⟩ := mem_own.mp hev
  obtain ⟨before, -, call, hcall, hseq⟩ := h.traced.history.of_mem hmem
  cases hpid
  exact ⟨call, hcall, hseq.1⟩

lemma Kept.eq_of_entered (h : Kept c) {j : ℕ} {w : Socket} {room room' : String}
    {playerId playerId' : Option UUID} (hi : Entered c i w room playerId)
    (hj : Entered c j w room' playerId') : i = j := by
  obtain ⟨call, hcall, hw⟩ := h.socket_of_entered hi
  obtain ⟨call', hcall', hw'⟩ := h.socket_of_entered hj
  exact h.sockets i j call call' w hcall hcall' hw hw'

lemma Kept.complete (h : Kept c) (he : ended c i = true) :
    Complete (passages (own i c.world.history)) := by
  unfold ended at he
  split at he
  · next call r hp => exact h.traced.rest i _ hp (h.expected i)
  · cases he

omit [Runtime] in
lemma lastFlag_of_complete {l : List Passage} {p : UUID} (h : Complete l) :
    lastFlag p l ≠ some true := by
  cases h with
  | refused | host => simp [lastFlag, flagOf, List.findSome?_cons]
  | player w room q => by_cases hq : q = p <;> simp [lastFlag, flagOf, List.findSome?_cons, hq]

lemma Kept.entered_of_flagged (h : Kept c) {p : UUID} {b : Bool}
    (hb : .flagged p b ∈ passages (own i c.world.history)) :
    ∃ w room, Entered c i w room (some p) := by
  obtain ⟨ev, hev, hpassage⟩ := List.mem_filterMap.mp hb
  obtain ⟨hmem, hpid⟩ := mem_own.mp hev
  obtain ⟨before, hbefore, call, -, hseq⟩ := h.traced.history.of_mem hmem
  obtain ⟨j, o, r⟩ := ev
  cases hpid
  have hgrown : own j before <+: own j c.world.history := hbefore.filter _
  cases o with
  | commit changes =>
    cases r with
    | error e => cases hpassage
    | ok a =>
      obtain ⟨-, hnone⟩ | ⟨q, b', rfl, -, w, room, hentered⟩ := hseq
      · simp [passage, hnone] at hpassage
      · obtain ⟨rfl, -⟩ : q = p ∧ b' = b := by simpa [passage] using hpassage
        exact ⟨w, room, (hgrown.filterMap passage).subset hentered⟩
  | joinRoom | leaveRoom | forget => cases r <;> cases hpassage
  | _ => cases hpassage

lemma Kept.cleanedUp (h : Kept c) : CleanedUp c := by
  intro i w room playerId hentered hended
  have hcomplete := h.complete hended
  constructor
  · intro room' hw
    obtain ⟨playerId', j, hj, hstays⟩ := h.registered.rooms w room' hw
    have heq := h.eq_of_entered hentered hj
    rw [← heq] at hj hstays
    generalize passages (own i c.world.history) = l at hcomplete hj hstays
    cases hcomplete <;> simp_all
  · intro p hw
    obtain ⟨room', j, hj, hstays⟩ := h.registered.players p w hw
    have heq := h.eq_of_entered hentered hj
    rw [← heq] at hj hstays
    generalize passages (own i c.world.history) = l at hcomplete hj hstays
    cases hcomplete <;> simp_all
  · intro room' hw
    obtain ⟨j, hj, hstays⟩ := h.registered.hosts room' w hw
    have heq := h.eq_of_entered hentered hj
    rw [← heq] at hj hstays
    generalize passages (own i c.world.history) = l at hcomplete hj hstays
    cases hcomplete <;> simp_all
  · rintro p hp hothers hconnected
    have hlast (j : ℕ) : lastFlag p (passages (own j c.world.history)) ≠ some true := by
      intro htrue
      obtain ⟨b, hb⟩ := exists_of_lastFlag (p := p) (by rw [htrue]; simp)
      obtain ⟨v, room', hj⟩ := h.entered_of_flagged hb
      have hj' : ended c j = true := by
        by_cases hji : j = i
        · exact hji ▸ hended
        · exact hothers j hji v room' hj
      exact lastFlag_of_complete (h.complete hj') htrue
    rcases h.flagged.flags p hconnected with ⟨j, hj⟩ | hnone
    · exact hlast j hj
    · have hmine := hnone i
      unfold Entered at hentered
      generalize passages (own i c.world.history) = l at hcomplete hentered hmine
      cases hcomplete <;> simp_all [lastFlag, flagOf]

end Cleanup

/-- As long as no call between the registration of an endpoint and its receive loop raises an
exception that is not expected there, an endpoint that has ended has left nothing. -/
theorem endpoints_leave_nothing (s : State) (hs : s.registry = .empty) (acts : List system.Act)
    (h : ∀ t ∈ transitions (start s) acts, newSocket t = true ∧ cleanUpSucceeds t = true ∧
      slipFree t = true) :
    ∀ t ∈ transitions (start s) acts, CleanedUp t.after := by
  have hrun := invariant (I := Cleanup.Kept)
    (P := fun t => newSocket t = true ∧ cleanUpSucceeds t = true ∧ slipFree t = true)
    (fun t ht h => h.step ht.1 ht.2.1 ht.2.2) (Cleanup.kept_start hs) acts h
  exact fun t ht => (hrun.1 t ht).2.cleanedUp

end

section Sample

attribute [local instance] Runtime.ascii

/-- The player's endpoint comes up and its socket breaks; the host's endpoint fails to build the
state of the room. -/
def brokenRun : List system.Act :=
  connectRun 0 ++ [.fault 0 .failure] ++ runs 0 6 ++
    .spawn (Call.hostEndpoint 0 "ABCDEF" none "host") :: runs 1 3 ++ [.fault 1 .failure] ++ runs 1 4

theorem endpoints_leave_nothing_broken :
    (∀ t ∈ transitions (start admitted) brokenRun,
      newSocket t = true ∧ cleanUpSucceeds t = true ∧ slipFree t = true) ∧
      (∀ p ∈ (run brokenRun (start admitted)).procs, ∃ r, p.rest = .done r) ∧
      ∀ t ∈ transitions (start admitted) brokenRun, CleanedUp t.after :=
  ⟨by decide +kernel, by
    decide +kernel, endpoints_leave_nothing admitted rfl brokenRun (by decide +kernel)⟩

/-- The commit of the player's flag fails after the socket has been registered. -/
def flagRun : List system.Act :=
  .spawn (Call.playerEndpoint 0 "ABCDEF" none (some "t1")) :: runs 0 5 ++ [.fault 0 .failure]

/-- The state of the room cannot be built after the flag has been set. -/
def stateRun : List system.Act :=
  .spawn (Call.playerEndpoint 0 "ABCDEF" none (some "t1")) :: runs 0 6 ++
    [.fault 0 .failure] ++ runs 0 3

theorem failed_connect_leaves_socket_or_flag :
    ((∀ t ∈ transitions (start admitted) flagRun, newSocket t = true ∧ cleanUpSucceeds t = true) ∧
      ¬∀ t ∈ transitions (start admitted) flagRun, CleanedUp t.after) ∧
    (∀ t ∈ transitions (start admitted) (stateRun ++ [.run 0]), newSocket t = true ∧
      cleanUpSucceeds t = true) ∧
      ¬∀ t ∈ transitions (start admitted) (stateRun ++ [.run 0]), CleanedUp t.after := by
  refine ⟨⟨by decide +kernel, fun h => ?_⟩, by decide +kernel, fun h => ?_⟩
  · have hlast := after_last (P := CleanedUp) h 0 ⟨.player, 0⟩ "ABCDEF" (some "p1")
      (by unfold Entered; decide +kernel) (by decide +kernel)
    exact hlast.rooms "ABCDEF" (by decide +kernel)
  · have hlast := after_last (P := CleanedUp) h
    generalize hc : Machine.step (.run 0) (run stateRun (start admitted)) = c at hlast
    have hentered : Entered c 0 ⟨.player, 0⟩ "ABCDEF" (some "p1") := by
      subst hc
      unfold Entered
      decide +kernel
    have hended : ended c 0 = true := by
      subst hc
      decide +kernel
    have hconnected : (State.db c.world.state).Connected "p1" := by
      subst hc
      decide +kernel
    have hlabelled : ∀ ev ∈ c.world.history, ev.pid < 1 := by
      subst hc
      decide +kernel
    refine (hlast 0 _ _ _ hentered hended).flag "p1" rfl (fun j hj w roomCode hother =>
      ?_) hconnected
    have hown : own j c.world.history = [] :=
      own_eq_nil fun ev hev hpid => absurd (hlabelled ev hev) (by omega)
    rw [Entered, hown] at hother
    cases hother

end Sample

end Askit.Game

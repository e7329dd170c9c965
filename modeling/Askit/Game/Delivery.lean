import Askit.Game.Underway

/-! A broadcast reaches each socket of its room exactly once, as long as the room's subscriber
listens at the time of the publish and keeps its connection until it has read the message. -/

namespace Askit.Game.ConnectionManager

open Interleaving Machine Coro

/-- `connect` or `connect_host` has returned for the socket. -/
def Connected (websocket : Socket) (roomCode : String) (c : manager.Config) : Prop :=
  ∃ p ∈ c.procs, p.rest = .done (.ok ()) ∧
    ((∃ q, p.call = .connect websocket roomCode q) ∨ p.call = .connectHost websocket roomCode)

/-- A subscriber that has not begun, or waits for its next message. -/
def waits : manager.Proc → Bool
  | ⟨.subscriber .., .await o _⟩ =>
    match o with
    | .subscribe _ | .listen _ => true
    | _ => false
  | _ => true

def returned : Option manager.Proc → Bool
  | some ⟨_, .done _⟩ => true
  | _ => false

/-- The `k`-th process has returned, and the subscribers have nothing left to do. -/
structure Settled (k : ℕ) (c : manager.Config) : Prop where
  returned : returned c.procs[k]? = true
  waits : ∀ p ∈ c.procs, waits p = true
  read : ∀ t ∈ Manager.tasks c.world.state, t.cancelled = false → t.inbox = []

namespace Sound

variable {c : manager.Config}

lemma step (h : Sound c) (ht : c.Traced Dutiful Ended) (a : manager.Act) :
    Sound (Machine.step a c) := by
  have hm := step_moves a c
  generalize Machine.step a c = d at hm
  cases hm with
  | idle => exact h
  | spawn call s admitted => exact h.spawn admitted
  | env e =>
    obtain ⟨task⟩ := e
    exact h.breaks task
  | run i call o q pending ready =>
    exact h.resume pending (ht.rest i _ pending (exec o c.world.state).1 fun _ ha =>
      ⟨c.world.state, ha⟩).1 (effect_exec i o)
  | fault i e call o q pending =>
    exact h.resume pending (ht.rest i _ pending (.error e) fun a ha => by cases ha).1
      (effect_fault i o e)

lemma run (acts : List manager.Act) :
    (Machine.run acts (start Manager.empty)).Labelled ∧
      (Machine.run acts (start Manager.empty)).Traced Dutiful Ended ∧
      Sound (Machine.run acts (start Manager.empty)) := by
  have hstart : (start (M := manager) Manager.empty).Labelled ∧
      (start (M := manager) Manager.empty).Traced Dutiful Ended ∧ Sound (start Manager.empty) :=
    ⟨labelled_start _, traced_start _, .empty⟩
  have hrun := invariant (P := fun _ => True)
    (I := fun c : manager.Config => c.Labelled ∧ c.Traced Dutiful Ended ∧ Sound c)
    (fun t _ h => ⟨h.1.step t.act, Config.Traced.step (P := Dutiful) (Q := Ended) h.2.1 h.1
      (fun i call => code_follows i call) t.act, h.2.2.step h.2.1 t.act⟩) hstart acts
        fun _ _ => trivial
  exact hrun.2

lemma member_of_connected (h : Sound c) (ht : c.Traced Dutiful Ended) {websocket : Socket}
    {roomCode : String} (hconnected : Connected websocket roomCode c)
    (hstays : ∀ call ∈ c.calls, ¬Call.Leaves websocket roomCode call) :
    websocket ∈ Manager.rooms c.world.state roomCode := by
  apply h.member websocket roomCode _ hstays
  obtain ⟨⟨call, rest⟩, hp, rfl, hcall⟩ := hconnected
  obtain ⟨j, hj⟩ := List.mem_iff_getElem?.mp hp
  have hended : Ended call (.ok ()) (own j c.world.history) := ht.rest j _ hj
  rcases hcall with ⟨q, rfl⟩ | rfl
  · obtain ⟨ev, hev, i, rfl⟩ := hended.2 rfl
    exact ⟨_, (mem_own.mp hev).1, rfl, rfl⟩
  · obtain ⟨ev, hev, i, rfl⟩ := hended.2 rfl
    exact ⟨_, (mem_own.mp hev).1, rfl, rfl⟩

end Sound

namespace Underway

variable {k : ℕ} {roomCode : String} {parcel : Parcel} {websocket : Socket} {c : manager.Config}

lemma spawned (hl : c.Labelled) (ht : c.Traced Dutiful Ended) (hs : Sound c)
    (hserial : parcel.serial = Manager.broadcasts c.world.state)
    (hmember : websocket ∈ Manager.rooms c.world.state roomCode) :
    Underway c.procs.length roomCode parcel websocket
        (Machine.step (.spawn (Call.broadcast roomCode parcel)) c) ∧
      account websocket parcel.serial c.procs.length
        (Machine.step (.spawn (Call.broadcast roomCode parcel)) c) = 1 := by
  have hlabelled := hl.step (.spawn (Call.broadcast roomCode parcel))
  have htraced := ht.step hl (fun i call => code_follows i call)
    (.spawn (Call.broadcast roomCode parcel))
  have hsound := hs.step ht (.spawn (Call.broadcast roomCode parcel))
  have hfresh : ∀ room p, .broadcast room p ∈ c.calls → p.serial ≠ parcel.serial := by
    intro room p hp
    obtain ⟨j, hj⟩ := List.mem_iff_getElem?.mp hp
    have := hs.serials j room p hj
    omega
  have hstep : Machine.step (.spawn (Call.broadcast roomCode parcel)) c =
      ⟨{ c.world with state := { c.world.state with
          broadcasts := Manager.broadcasts c.world.state + 1 } },
        c.procs ++ [⟨.broadcast roomCode parcel, code (.broadcast roomCode parcel)⟩]⟩ := by
    have henter : manager.enter (Call.broadcast roomCode parcel) c.world.state =
        some { c.world.state with broadcasts := Manager.broadcasts c.world.state + 1 } :=
      if_pos hserial
    simp only [Machine.step]
    rw [henter]
    rfl
  rw [hstep] at hlabelled htraced hsound ⊢
  have hinbox : ∀ t ∈ Manager.tasks c.world.state, ∀ p ∈ t.inbox, p.serial ≠ parcel.serial :=
    fun t htask p hp => hfresh _ p (hs.inbox t htask p hp)
  constructor
  · refine ⟨hlabelled, htraced, hsound, ?_, hmember, ?_⟩
    · rw [Config.calls, List.map_append, List.map_cons]
      have hlength : c.procs.length = (c.procs.map Proc.call).length := (List.length_map _).symm
      rw [hlength]
      exact List.getElem?_concat_length
    · exact fun t htask p hp hserial => (hinbox t htask p hp hserial).elim
  · have hown : own c.procs.length c.world.history = [] :=
      own_eq_nil fun ev hev => Nat.ne_of_lt (hl ev hev)
    have hunread : unread parcel.serial (Manager.tasks c.world.state) = 0 := by
      apply List.sum_eq_zero
      intro n hn
      obtain ⟨t, htask, rfl⟩ := List.mem_map.mp hn
      rw [List.countP_eq_zero]
      intro p hp
      simpa using hinbox t htask p hp
    have htotal : total (fun l => owes websocket parcel.serial (phase l)) c.world.history
        c.procs.length = 0 := by
      apply total_eq_zero
      intro j _
      have hcarried : ∀ p, (phase (own j c.world.history)).parcel = some p →
          p.serial ≠ parcel.serial := by
        intro p hp
        obtain ⟨-, room, -, -, hb⟩ := hs.carried j p hp
        exact hfresh room p hb
      cases hphase : phase (own j c.world.history) with
      | idle => rfl
      | taken p => simp [owes, hcarried p (by rw [hphase]; rfl)]
      | sending p rest => simp [owes, hcarried p (by rw [hphase]; rfl)]
    have hsends : sends websocket parcel.serial c.world.history = 0 := by
      rw [sends, List.countP_eq_zero]
      rintro ⟨i, o, r⟩ hev
      cases o with
      | sendJson w p =>
        obtain ⟨room, hb⟩ := hs.sent i w p r hev
        simp [hfresh room p hb]
      | _ => exact Bool.false_ne_true
    unfold account
    rw [List.length_append, List.length_singleton, total_succ rfl hl, htotal, hsends, hown]
    change 1 + unread parcel.serial (Manager.tasks c.world.state) + 0 + 0 = 1
    rw [hunread]

lemma rests_of_owes (h : Underway k roomCode parcel websocket c) (hsettled : Settled k c) {j : ℕ}
    (howes : owes websocket parcel.serial (phase (own j c.world.history)) ≠ 0) :
    (phase (own j c.world.history)).Rests := by
  obtain ⟨p, hp, hserial⟩ : ∃ p, (phase (own j c.world.history)).parcel = some p ∧
      p.serial = parcel.serial := by
    cases hphase : phase (own j c.world.history) with
    | idle => exact (howes (by rw [hphase]; rfl)).elim
    | _ p =>
      refine ⟨p, rfl, ?_⟩
      by_contra hserial
      exact howes (by simp [hphase, owes, hserial])
  obtain ⟨call, room, hcall, hcarries, -⟩ := h.sound.carried j p hp
  obtain ⟨rest, hproc⟩ := exists_proc hcall
  have hends : ∀ r, rest = .done r → (phase (own j c.world.history)).Rests := by
    rintro r rfl
    have hended : Ended call r (own j c.world.history) := h.traced.rest j _ hproc
    exact hended.1
  rcases hcarries with rfl | ⟨task, rounds, rfl⟩
  · obtain ⟨rfl, -⟩ := h.is_origin hcall hserial
    have hreturned := hsettled.returned
    rw [hproc] at hreturned
    cases rest with
    | await o q => cases hreturned
    | done r => exact hends r rfl
  · cases rest with
    | done r => exact hends r rfl
    | await o q =>
      have hwaits := hsettled.waits _ (List.mem_of_getElem? hproc)
      have hduty := h.duty_fault hproc .failure
      cases o with
      | subscribe task =>
        rw [hduty.1]
        trivial
      | listen task => exact hduty.1
      | _ => cases hwaits

lemma account_settled (h : Underway k roomCode parcel websocket c) (hsettled : Settled k c) :
    account websocket parcel.serial k c = sends websocket parcel.serial c.world.history := by
  have hunpublished : unpublished (own k c.world.history) = 0 := by
    have hreturned := hsettled.returned
    obtain ⟨rest, hp⟩ := exists_proc h.origin
    rw [hp] at hreturned
    cases rest with
    | await o q => cases hreturned
    | done r =>
      have hended : Ended (.broadcast roomCode parcel) r (own k c.world.history) :=
        h.traced.rest k _ hp
      exact if_neg hended.2
  have hunread : unread parcel.serial (Manager.tasks c.world.state) = 0 := by
    apply List.sum_eq_zero
    intro n hn
    obtain ⟨t, ht, rfl⟩ := List.mem_map.mp hn
    rw [List.countP_eq_zero]
    intro p hp hserial
    have hlive := h.live t ht p hp (by simpa using hserial)
    rw [hsettled.read t ht hlive] at hp
    cases hp
  have htotal : total (fun l => owes websocket parcel.serial (phase l)) c.world.history
      c.procs.length = 0 := by
    apply total_eq_zero
    intro j _
    cases hphase : phase (own j c.world.history) with
    | idle => rfl
    | _ =>
      by_contra howes
      have hrests : ¬(phase (own j c.world.history)).Rests := by
        rw [hphase]
        exact fun hrests => howes (owes_of_rests hrests _)
      exact hrests (h.rests_of_owes hsettled (hphase ▸ howes))
  unfold account
  omega

lemma run (h : Underway k roomCode parcel websocket c)
    (hle : account websocket parcel.serial k c ≤ 1) (acts : List manager.Act)
    (hraises : ∀ t ∈ transitions c acts, raisesAwaited t = true)
    (hstays : ∀ call ∈ (Machine.run acts c).calls, ¬Call.Leaves websocket roomCode call)
    (hforeign : ∀ q ∈ parcel.excludePlayerId, ∀ room,
      .connect websocket room q ∉ (Machine.run acts c).calls) :
    Underway k roomCode parcel websocket (Machine.run acts c) ∧
      account websocket parcel.serial k (Machine.run acts c) ≤ 1 ∧
      (account websocket parcel.serial k (Machine.run acts c) = 1 ↔
        account websocket parcel.serial k c = 1 ∧
          ∀ t ∈ transitions c acts, heard k parcel.serial t = true) := by
  induction acts generalizing c with
  | nil => exact ⟨h, hle, by simp⟩
  | cons a acts ih =>
    have hcalls := calls_prefix_run (a :: acts) c
    have hnext := h.step a fun call hcall => hstays call (hcalls.subset hcall)
    have helse : ∀ q ∈ parcel.excludePlayerId, ∀ room, .connect websocket room q ∉ c.calls :=
      fun q hq room hcall => hforeign q hq room (hcalls.subset hcall)
    have hrest := fun hle => ih hnext hle (fun t ht => hraises t (List.mem_cons_of_mem _ ht))
      hstays hforeign
    rw [transitions_cons, List.forall_mem_cons, run_cons]
    cases hheard : heard k parcel.serial ⟨c, a⟩ with
    | true =>
      have haccount := h.account_step (hraises _ List.mem_cons_self) hheard helse
      rw [haccount] at hrest
      obtain ⟨hunderway, hle', hiff⟩ := hrest hle
      exact ⟨hunderway, hle', by simpa using hiff⟩
    | false =>
      obtain ⟨-, hzero⟩ := h.account_unheard hle hheard
      rw [hzero] at hrest
      obtain ⟨hunderway, hle', hiff⟩ := hrest (Nat.zero_le 1)
      exact ⟨hunderway, hle', by simpa using hiff⟩

end Underway

/-- After `as` the broadcast is called. -/
def called (as : List manager.Act) (roomCode : String) (parcel : Parcel) : manager.Config :=
  Machine.step (.spawn (Call.broadcast roomCode parcel)) (run as (start Manager.empty))

/-- The place of the broadcast among the processes. -/
def place (as : List manager.Act) : ℕ := (run as (start Manager.empty)).procs.length

/-- A broadcast is sent at most once to a socket that is connected to its room when it is called and
stays so. When all is done it has been sent to it if and only if every step was heard. -/
theorem sent_once_iff_heard (as bs : List manager.Act) (roomCode : String) (parcel : Parcel)
    (websocket : Socket)
    (hserial : parcel.serial = Manager.broadcasts (run as (start Manager.empty)).world.state)
    (hconnected : Connected websocket roomCode (run as (start Manager.empty)))
    (hraises : ∀ t ∈ transitions (called as roomCode parcel) bs, raisesAwaited t = true)
    (hstays : ∀ call ∈ (run bs (called as roomCode parcel)).calls,
      ¬Call.Leaves websocket roomCode call)
    (hforeign : ∀ q ∈ parcel.excludePlayerId, ∀ room,
      .connect websocket room q ∉ (run bs (called as roomCode parcel)).calls) :
    sends websocket parcel.serial (run bs (called as roomCode parcel)).world.history ≤ 1 ∧
      (Settled (place as) (run bs (called as roomCode parcel)) →
        (sends websocket parcel.serial (run bs (called as roomCode parcel)).world.history = 1 ↔
          ∀ t ∈ transitions (called as roomCode parcel) bs,
            heard (place as) parcel.serial t = true)) := by
  obtain ⟨hl, ht, hs⟩ := Sound.run as
  have hcalls : (run as (start Manager.empty)).calls <+:
      (run bs (called as roomCode parcel)).calls :=
    (calls_grow _ _).trans (calls_prefix_run bs _)
  have hmember := hs.member_of_connected ht hconnected fun call hcall =>
    hstays call (hcalls.subset hcall)
  obtain ⟨hunderway, hone⟩ := Underway.spawned hl ht hs hserial hmember
  obtain ⟨hend, hle, hiff⟩ := hunderway.run (Nat.le_of_eq hone) bs hraises hstays hforeign
  constructor
  · unfold account at hle
    exact Nat.le_trans (Nat.le_add_left _ _) hle
  · intro hsettled
    have hsent : account websocket parcel.serial (place as) (run bs (called as roomCode parcel)) =
        sends websocket parcel.serial (run bs (called as roomCode parcel)).world.history :=
      hend.account_settled hsettled
    rw [← hsent]
    exact hiff.trans (and_iff_right hone)

section Sample

def hostSocket : Socket := ⟨.host, 0⟩

def notice : Parcel := ⟨0, .gameStarting 3000 2, none⟩

/-- A host connects, and nobody has run the task that was created for it yet. -/
def hostRun : List manager.Act := [.spawn (Call.connectHost hostSocket "ABCDEF"), .run 0, .run 0]

/-- The task has come up to its first message. -/
def subscribeRun (i : ℕ) : List manager.Act :=
  [.spawn (Call.subscriber 0 "ABCDEF" 1), .run i]

def deliverRun : List manager.Act := [.run 2, .run 1, .run 1, .run 1, .run 1]

lemma host_stays {as : List manager.Act} {parcel : Parcel} {bs : List manager.Act}
    (h : (run bs (called as "ABCDEF" parcel)).calls.all fun call =>
      match call with
      | .disconnect .. | .disconnectHost .. => false
      | _ => true) :
    ∀ call ∈ (run bs (called as "ABCDEF" parcel)).calls, ¬Call.Leaves hostSocket "ABCDEF" call := by
  intro call hcall hleaves
  have hstays := List.all_eq_true.mp h call hcall
  cases call <;> simp_all [Call.Leaves]

theorem sent_once_subscribed :
    sends hostSocket 0 (run deliverRun
        (called (hostRun ++ subscribeRun 1) "ABCDEF" notice)).world.history ≤ 1 ∧
      (Settled (place (hostRun ++ subscribeRun 1))
          (run deliverRun (called (hostRun ++ subscribeRun 1) "ABCDEF" notice)) →
        (sends hostSocket 0 (run deliverRun
            (called (hostRun ++ subscribeRun 1) "ABCDEF" notice)).world.history = 1 ↔
          ∀ t ∈ transitions (called (hostRun ++ subscribeRun 1) "ABCDEF" notice) deliverRun,
            heard (place (hostRun ++ subscribeRun 1)) 0 t = true)) :=
  sent_once_iff_heard (hostRun ++ subscribeRun 1) deliverRun "ABCDEF" notice hostSocket
    (by decide +kernel) ⟨_, List.mem_cons_self, rfl, .inr rfl⟩ (by decide +kernel)
    (host_stays (by decide +kernel)) (fun q hq => by cases hq)

/-- The broadcast comes before the task has subscribed. -/
theorem notice_is_lost :
    Connected hostSocket "ABCDEF" (run hostRun (start Manager.empty)) ∧
      (∀ t ∈ transitions (called hostRun "ABCDEF" notice) (.run 1 :: subscribeRun 2),
        raisesAwaited t = true) ∧
      (∀ call ∈ (run (.run 1 :: subscribeRun 2) (called hostRun "ABCDEF" notice)).calls,
        ¬Call.Leaves hostSocket "ABCDEF" call) ∧
      notice.excludePlayerId = none ∧
      Settled (place hostRun) (run (.run 1 :: subscribeRun 2) (called hostRun "ABCDEF" notice)) ∧
      sends hostSocket notice.serial
        (run (.run 1 :: subscribeRun 2) (called hostRun "ABCDEF" notice)).world.history = 0 :=
  ⟨⟨_, List.mem_cons_self, rfl, .inr rfl⟩, by decide +kernel, host_stays (by decide +kernel), rfl,
    ⟨by decide +kernel, by decide +kernel, by decide +kernel⟩, by decide +kernel⟩

end Sample

end Askit.Game.ConnectionManager

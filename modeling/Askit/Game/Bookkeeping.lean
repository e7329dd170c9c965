import Askit.Game.Registered

/-! Between two critical sections the dictionaries of the connection manager agree with each other
and with who has connected and disconnected. -/

namespace Askit.Game.Connections

open Interleaving Machine Coro

section Calls

/-- At most one of the calls satisfies `K`. -/
def Unique (K : Call → Bool) (calls : List Call) : Prop :=
  ∀ (i j : ℕ) a b, calls[i]? = some a → calls[j]? = some b → K a → K b → i = j

variable {K : Call → Bool} {calls : List Call}

lemma Unique.append (h : Unique K calls) {call : Call} (hcall : K call → ∀ a ∈ calls, K a = false) :
    Unique K (calls ++ [call]) := by
  intro i j a b hi hj ha hb
  rw [List.getElem?_append] at hi hj
  split_ifs at hi hj with hi' hj' hj'
  · exact h i j a b hi hj ha hb
  · obtain ⟨hlt, rfl⟩ := List.getElem?_eq_some_iff.mp hj
    have hnone := hcall (by simpa using hb) a (List.mem_of_getElem? hi)
    rw [hnone] at ha
    cases ha
  · obtain ⟨hlt, rfl⟩ := List.getElem?_eq_some_iff.mp hi
    have hnone := hcall (by simpa using ha) b (List.mem_of_getElem? hj)
    rw [hnone] at hb
    cases hb
  · have hi := (List.getElem?_eq_some_iff.mp hi).1
    have hj := (List.getElem?_eq_some_iff.mp hj).1
    rw [List.length_singleton] at hi hj
    omega

lemma Unique.other (h : Unique K calls) {call : Call} (hcall : K call = false) :
    Unique K (calls ++ [call]) :=
  h.append fun hK => by simp [hcall] at hK

end Calls

/-- What holds at every moment of a run in which sockets connect and disconnect once. -/
structure Booked (c : connections.Config) : Prop where
  labelled : c.Labelled
  traced : c.Traced Dutiful Ended
  quiet : ∀ ev ∈ c.world.history, taskRaises ev = false
  opens : ∀ websocket, Unique (Call.connects websocket) c.calls
  closes : ∀ websocket, Unique (Call.disconnects websocket) c.calls
  registered : Registered c.calls c.world.history c.world.state

namespace Booked

variable {c : connections.Config} {websocket : Socket} {roomCode : String} {playerId : Option UUID}

lemma start : Booked (start Dictionaries.empty) where
  labelled := labelled_start _
  traced := traced_start _
  quiet ev h := by cases h
  opens w i j a b h := by cases h
  closes w i j a b h := by cases h
  registered := .empty

lemma entered (h : Booked c) (he : Entered c.world.history (websocket, roomCode, playerId)) :
    ∃ i : ℕ, c.calls[i]? = some (.connect websocket roomCode playerId) ∧
      Entered (own i c.world.history) (websocket, roomCode, playerId) := by
  obtain ⟨ev, hev, hentering⟩ := he
  obtain ⟨before, -, call, hcall, hdutiful⟩ := h.traced.history.of_mem hev
  have hown : ev ∈ own ev.pid c.world.history := mem_own.mpr ⟨hev, rfl⟩
  obtain ⟨pid, op, outcome⟩ := ev
  cases op with
  | enterRoom w r p =>
    cases outcome with
    | error e => cases hentering
    | ok _ =>
      cases hentering
      exact ⟨pid, hdutiful.1 ▸ hcall, _, hown, rfl⟩
  | _ => cases hentering

lemma entered_unique (h : Booked c) (he : Entered c.world.history (websocket, roomCode, playerId))
    {r : String} {p : Option UUID} (he' : Entered c.world.history (websocket, r, p)) :
    r = roomCode ∧ p = playerId := by
  obtain ⟨i, hi, -⟩ := h.entered he
  obtain ⟨j, hj, -⟩ := h.entered he'
  obtain rfl := h.opens websocket i j _ _ hi hj (by simp [Call.connects]) (by simp [Call.connects])
  rw [hi] at hj
  cases hj
  exact ⟨rfl, rfl⟩

lemma left (h : Booked c) (hl : Left c.world.history websocket roomCode) :
    ∃ (i : ℕ) (playerId : Option UUID), c.calls[i]? = some
      (.disconnect websocket roomCode playerId) ∧
      ∃ ev ∈ own i c.world.history, (leaving ev).isSome := by
  obtain ⟨ev, hev, p, hleaving⟩ := hl
  obtain ⟨before, -, call, hcall, hdutiful⟩ := h.traced.history.of_mem hev
  have hown : ev ∈ own ev.pid c.world.history := mem_own.mpr ⟨hev, rfl⟩
  obtain ⟨pid, op, outcome⟩ := ev
  cases op with
  | leaveRoom w r q =>
    cases outcome with
    | error e => cases hleaving
    | ok _ =>
      cases hleaving
      exact ⟨pid, _, hdutiful.1 ▸ hcall, _, hown, rfl⟩
  | _ => cases hleaving

lemma ended (h : Booked c) {i : ℕ} {p : connections.Proc} (hp : c.procs[i]? = some p)
    {r : Except Exn Unit} (hdone : p.rest = .done r) : Ended p.call r (own i c.world.history) := by
  have hrest := h.traced.rest i p hp
  rw [hdone] at hrest
  exact hrest

lemma entered_iff (h : Booked c) : Entered c.world.history (websocket, roomCode, playerId) ↔
    Returned c (.connect websocket roomCode playerId) := by
  constructor
  · intro he
    obtain ⟨i, hcall, hown⟩ := h.entered he
    obtain ⟨rest, hp⟩ := exists_proc hcall
    refine ⟨_, List.mem_of_getElem? hp, rfl, ?_⟩
    cases rest with
    | done r => exact congrArg _ ((h.ended hp rfl).1.mpr hown)
    | await o k =>
      -- after its entry it awaits nothing
      have hdutiful := (h.traced.rest i _ hp (exec o c.world.state).1 fun a ha => ⟨_, ha⟩).1
      obtain ⟨ev, hev, hentering⟩ := hown
      cases o with
      | accept w =>
        rw [hdutiful.2] at hev
        cases hev
      | enterRoom w r p => simp [hdutiful.2 ev hev] at hentering
      | leaveRoom w r p => cases hdutiful.1
      | forget r p =>
        obtain ⟨w, ⟨⟩, -⟩ := hdutiful
      | releaseLock =>
        obtain ⟨raise, hraise, hraises⟩ := hdutiful
        simp [h.quiet raise (mem_own.mp hraise).1] at hraises
      | awaitTask => obtain ⟨⟨w, r, p, ⟨⟩⟩, -⟩ := hdutiful
      | subscribe | listen | roomSockets | socketPlayer | sendJson =>
        obtain ⟨task, r, m, ⟨⟩⟩ := hdutiful
  · rintro ⟨p, hmem, hcall, hdone⟩
    obtain ⟨i, hp⟩ := List.getElem?_of_mem hmem
    have hended := h.ended hp hdone
    rw [hcall] at hended
    obtain ⟨ev, hev, hentering⟩ := hended.1.mp rfl
    exact ⟨ev, (mem_own.mp hev).1, hentering⟩

lemma left_iff (h : Booked c) (hfree : Dictionaries.locked c.world.state = false) :
    Left c.world.history websocket roomCode ↔ ∃ playerId,
    Returned c (.disconnect websocket roomCode playerId) := by
  constructor
  · intro hleft
    obtain ⟨i, playerId, hcall, hown⟩ := h.left hleft
    obtain ⟨rest, hp⟩ := exists_proc hcall
    have hforgets : ∃ ev ∈ own i c.world.history, forgets ev = true := by
      by_contra hnone
      have hlocked := h.registered.locked i ⟨hown, by simpa using hnone⟩
      simp [hfree] at hlocked
    refine ⟨playerId, _, List.mem_of_getElem? hp, rfl, ?_⟩
    cases rest with
    | done r => exact congrArg _ ((h.ended hp rfl).1.1.mpr hforgets)
    | await o k =>
      -- after its second half it awaits nothing
      have hdutiful := (h.traced.rest i _ hp (exec o c.world.state).1 fun a ha => ⟨_, ha⟩).1
      obtain ⟨ev, hev, hforgets⟩ := hforgets
      cases o with
      | accept w => obtain ⟨⟨r, p, ⟨⟩⟩, -⟩ := hdutiful
      | enterRoom w r p => cases hdutiful.1
      | leaveRoom w r p =>
        rw [hdutiful.2] at hev
        cases hev
      | forget r p =>
        obtain ⟨w, -, -, hnone⟩ := hdutiful
        simp [hnone ev hev] at hforgets
      | releaseLock =>
        obtain ⟨raise, hraise, hraises⟩ := hdutiful
        simp [h.quiet raise (mem_own.mp hraise).1] at hraises
      | awaitTask => simp [hdutiful.2 ev hev] at hforgets
      | subscribe | listen | roomSockets | socketPlayer | sendJson =>
        obtain ⟨task, r, m, ⟨⟩⟩ := hdutiful
  · rintro ⟨playerId, p, hmem, hcall, hdone⟩
    obtain ⟨i, hp⟩ := List.getElem?_of_mem hmem
    have hended := h.ended hp hdone
    rw [hcall] at hended
    obtain ⟨ev, hev, hleaving⟩ := hended.1.2 rfl
    exact ⟨ev, (mem_own.mp hev).1, playerId, hleaving⟩

lemma consistent (h : Booked c) (hfree : Dictionaries.locked c.world.state = false) :
    Consistent c where
  members w r := by
    rw [h.registered.members w r, Inside, Present, h.left_iff hfree, not_exists]
    simp only [h.entered_iff]
  nonempty := h.registered.nonempty
  keys := h.registered.keys
  players p w hp := by
    obtain ⟨r, hr⟩ := h.registered.players p w hp
    exact ⟨r, h.entered_iff.mp hr.1,
      (h.registered.members w r).mpr (Registered.Seated.inside h.registered hfree hr)⟩
  hosts r w hr := by
    have hs := h.registered.hosts r w hr
    exact ⟨h.entered_iff.mp hs.1,
      (h.registered.members w r).mpr (Registered.Seated.inside h.registered hfree hs)⟩

lemma neverGone (h : Booked c) : NeverGone c := by
  rintro w r q ⟨p, hp, hcall, hdone⟩
  obtain ⟨i, hi⟩ := List.getElem?_of_mem hp
  have hended := h.ended hi hdone
  rw [hcall] at hended
  obtain ⟨ev, hev, hforgets⟩ := hended.1.1.mp rfl
  obtain ⟨gone, hgone, hleaving⟩ := hended.1.2 rfl
  have hindex : c.calls[i]? = some (.disconnect w r q) := hcall ▸ getElem?_calls hi
  have hentered := h.registered.matched i w r q hindex
  have hleft : Left c.world.history w r := ⟨gone, (mem_own.mp hgone).1, q, hleaving⟩
  have hseat : ∀ room seat, ¬Seated c.calls c.world.history w room seat := by
    intro room seat hs
    obtain ⟨rfl, rfl⟩ := h.entered_unique hentered hs.1
    obtain ⟨j, hj, hdisconnect⟩ := hs.2 hleft
    obtain rfl := h.closes w i j _ _ hindex hdisconnect (by simp [Call.disconnects])
      (by simp [Call.disconnects])
    rw [hj.2 ev hev] at hforgets
    cases hforgets
  constructor
  · intro seat hmem
    obtain ⟨room, hs⟩ := h.registered.players seat w hmem
    exact hseat room _ hs
  · exact fun room hmem => hseat room _ (h.registered.hosts room w hmem)

lemma raisesOwn (h : Booked c) : RaisesOwn c :=
  fun _ _ e hp hdone => (h.ended hp hdone).2 e rfl

lemma resume (h : Booked c) {i : ℕ} {call : Call} {β : Type} {o : Op β}
    {k : Except Exn β → Coro Op Exn Unit} (pending : c.procs[i]? = some ⟨call, .await o k⟩)
    {w : connections.World} {r : Except Exn β} (hw : w.history = c.world.history ++ [⟨i, o, r⟩])
    (hl : Config.Labelled ⟨w, c.procs.set i ⟨call, k r⟩⟩)
    (ht : Config.Traced Dutiful Ended ⟨w, c.procs.set i ⟨call, k r⟩⟩)
    (hquiet : taskRaises ⟨i, o, r⟩ = false) (hr : Registered c.calls w.history w.state) :
    Booked ⟨w, c.procs.set i ⟨call, k r⟩⟩ := by
  have hcalls : Config.calls ⟨w, c.procs.set i ⟨call, k r⟩⟩ = c.calls := calls_set pending
  refine ⟨hl, ht, ?_, ?_, ?_, ?_⟩
  · intro ev hev
    rw [hw] at hev
    rcases List.mem_append.mp hev with hev | hev
    · exact h.quiet ev hev
    · rw [List.mem_singleton.mp hev]
      exact hquiet
  · exact fun s => hcalls ▸ h.opens s
  · exact fun s => hcalls ▸ h.closes s
  · exact hcalls ▸ hr

lemma not_left (h : Booked c) {i : ℕ}
    (hcall : c.calls[i]? = some (.connect websocket roomCode playerId))
    (hnew : ∀ ev ∈ own i c.world.history, entering ev = none) :
    ¬Left c.world.history websocket roomCode := by
  intro hleft
  obtain ⟨j, p, hj, -⟩ := h.left hleft
  obtain ⟨i', hi', hentered⟩ := h.entered (h.registered.matched j websocket roomCode p hj)
  obtain rfl := h.opens websocket i i' _ _ hcall hi' (by simp [Call.connects])
    (by simp [Call.connects])
  rw [hcall] at hi'
  cases hi'
  obtain ⟨ev, hev, hentering⟩ := hentered
  simp [hnew ev hev] at hentering

lemma run (h : Booked c) {i : ℕ} {call : Call} {β : Type} {o : Op β}
    {k : Except Exn β → Coro Op Exn Unit} (pending : c.procs[i]? = some ⟨call, .await o k⟩)
    (hready : ready o c.world.state = true) :
    taskRaises ⟨i, o, (exec o c.world.state).1⟩ = false ∧
      Registered c.calls (c.world.history ++ [⟨i, o, (exec o c.world.state).1⟩])
        (exec o c.world.state).2 := by
  have hcall : c.calls[i]? = some call := getElem?_calls pending
  have hdutiful := (h.traced.rest i _ pending (exec o c.world.state).1 fun a ha => ⟨_, ha⟩).1
  cases o with
  | enterRoom w r p =>
    obtain ⟨rfl, hnew⟩ := hdutiful
    exact ⟨rfl, h.registered.enter (by simpa [ready] using hready) (h.not_left hcall hnew)⟩
  | leaveRoom w r p =>
    obtain ⟨rfl, hnew⟩ := hdutiful
    refine ⟨rfl, h.registered.leave (by simpa [ready] using hready) hcall hnew fun r' p' he => ?_⟩
    exact h.entered_unique (h.registered.matched i w r p hcall) he
  | forget r p =>
    obtain ⟨w, rfl, ⟨ev, hev, hleaving⟩, hforgets⟩ := hdutiful
    exact ⟨rfl, h.registered.forget hcall ⟨⟨ev, hev, by rw [hleaving]; rfl⟩, hforgets⟩⟩
  | releaseLock =>
    obtain ⟨ev, hev, hraises⟩ := hdutiful
    rw [h.quiet ev (mem_own.mp hev).1] at hraises
    cases hraises
  | accept | awaitTask | subscribe | listen | roomSockets | socketPlayer | sendJson =>
    exact ⟨rfl, h.registered.aside rfl rfl rfl⟩

lemma fault (h : Booked c) {i : ℕ} {e : Exn} {call : Call} {β : Type} {o : Op β}
    {k : Except Exn β → Coro Op Exn Unit} (pending : c.procs[i]? = some ⟨call, .await o k⟩)
    (hraises : raisesAwaited ⟨c, .fault i e⟩ = true) :
    taskRaises ⟨i, o, .error e⟩ = false ∧
      Registered c.calls (c.world.history ++ [⟨i, o, .error e⟩]) c.world.state := by
  cases o with
  | awaitTask task =>
    -- no task ends in an error
    simp only [raisesAwaited, pending] at hraises
    obtain ⟨⟨call', rest⟩, hmem, hended⟩ := List.any_eq_true.mp hraises
    obtain ⟨j, hj⟩ := List.getElem?_of_mem hmem
    have hrest := h.traced.rest j _ hj
    split at hended
    · next heq =>
      cases heq
      cases (show Except.error _ = Except.ok () from hrest.1)
    · cases hended
  | forget r p => simp [raisesAwaited, pending] at hraises
  | releaseLock => simp [raisesAwaited, pending] at hraises
  | accept | enterRoom | leaveRoom | subscribe | listen | roomSockets | socketPlayer | sendJson =>
    exact ⟨rfl, h.registered.aside rfl rfl rfl⟩

lemma spawn (h : Booked c) {call : connections.Call} (horderly : orderly ⟨c, .spawn call⟩ = true) :
    (∀ w, Unique (Call.connects w) (c.calls ++ [call])) ∧
      (∀ w, Unique (Call.disconnects w) (c.calls ++ [call])) ∧
      Registered (c.calls ++ [call]) c.world.history c.world.state := by
  cases call with
  | connect w r p =>
    have hnew := List.all_eq_true.mp horderly
    refine ⟨fun s => (h.opens s).append fun hs a ha => ?_,
      fun s => (h.closes s).other rfl,
      h.registered.spawn _ fun _ _ _ heq => by cases heq⟩
    obtain rfl : w = s := by simpa [Call.connects] using hs
    simpa using hnew a ha
  | disconnect w r p =>
    obtain ⟨hopen, hnew⟩ := Bool.and_eq_true_iff.mp horderly
    refine ⟨fun s => (h.opens s).other rfl,
      fun s => (h.closes s).append fun hs a ha => ?_, h.registered.spawn _ fun w' r' p' heq => ?_⟩
    · obtain rfl : w = s := by simpa [Call.disconnects] using hs
      simpa using List.all_eq_true.mp hnew a ha
    · cases heq
      obtain ⟨⟨call', rest⟩, hmem, hreturned⟩ := List.any_eq_true.mp hopen
      obtain ⟨j, hj⟩ := List.getElem?_of_mem hmem
      have hended := h.traced.rest j _ hj
      split at hreturned
      · next heq =>
        cases heq
        simp only [Bool.and_eq_true, decide_eq_true_eq] at hreturned
        obtain ⟨⟨rfl, rfl⟩, rfl⟩ := hreturned
        obtain ⟨ev, hev, hentering⟩ := hended.1.mp rfl
        exact ⟨ev, (mem_own.mp hev).1, hentering⟩
      · cases hreturned
  | subscriber task r messages =>
    exact ⟨fun s => (h.opens s).other rfl,
      fun s => (h.closes s).other rfl,
      h.registered.spawn _ fun _ _ _ heq => by cases heq⟩

lemma step (h : Booked c) {a : connections.Act} (hraises : raisesAwaited ⟨c, a⟩ = true)
    (horderly : orderly ⟨c, a⟩ = true) : Booked (Machine.step a c) := by
  have hl := h.labelled.step a
  have ht := Config.Traced.step (P := Dutiful) (Q := Ended) h.traced h.labelled
    (fun i call => code_follows i call) a
  have hm := step_moves a c
  generalize Machine.step a c = d at hm hl ht
  cases hm with
  | idle => exact h
  | spawn call s admitted =>
    obtain ⟨hopens, hcloses, hregistered⟩ := h.spawn horderly
    obtain rfl : s = c.world.state := by
      cases call with
      | connect | disconnect => exact (Option.some.inj admitted).symm
      | subscriber => exact (Option.some.inj (Option.ite_none_right_eq_some.mp admitted).2).symm
    have hcalls : Config.calls ⟨c.world, c.procs ++ [⟨call, code call⟩]⟩ = c.calls ++ [call] := by
      simp [Config.calls]
    exact ⟨hl, ht, h.quiet, fun w => hcalls ▸ hopens w, fun w => hcalls ▸ hcloses w,
      hcalls ▸ hregistered⟩
  | run i call o k pending hready =>
    obtain ⟨hquiet, hregistered⟩ := h.run pending hready
    exact h.resume pending (World.perform_history _ _ _) hl ht hquiet hregistered
  | fault i e call o k pending =>
    obtain ⟨hquiet, hregistered⟩ := h.fault pending hraises
    exact h.resume pending (World.fail_history _ _ _ _) hl ht hquiet hregistered
  | env e => cases e

end Booked

/-- Between critical sections the dictionaries are consistent, no seat is ever that of a socket
whose disconnect has returned, and no call raises of its own accord. -/
theorem dictionaries_consistent (acts : List connections.Act)
    (hacts : ∀ t ∈ transitions (start Dictionaries.empty) acts, raisesAwaited t ∧ orderly t) :
    ∀ t ∈ transitions (start Dictionaries.empty) acts,
      (Dictionaries.locked t.after.world.state = false → Consistent t.after) ∧ NeverGone t.after ∧
        RaisesOwn t.after := by
  have hbooked := (invariant (I := Booked) (P := fun t => raisesAwaited t ∧ orderly t)
    (fun t ht hb => hb.step ht.1 ht.2) Booked.start acts hacts).1
  exact fun t ht => ⟨(hbooked t ht).2.consistent, (hbooked t ht).2.neverGone,
    (hbooked t ht).2.raisesOwn⟩

/-- A player connects twice, and the older socket disconnects first. -/
def reconnectRun : List connections.Act :=
  .spawn (Call.connect ⟨.player, 1⟩ "A" (some "ada")) :: runs 0 2 ++
    .spawn (Call.subscriber 0 "A" []) :: runs 1 1 ++
    .spawn (Call.connect ⟨.player, 2⟩ "A" (some "ada")) :: runs 2 2 ++
    .spawn (Call.disconnect ⟨.player, 1⟩ "A" (some "ada")) :: runs 3 2 ++
    .spawn (Call.disconnect ⟨.player, 2⟩ "A" (some "ada")) :: runs 4 3

theorem dictionaries_consistent_reconnect :
    ((run reconnectRun (start Dictionaries.empty)).procs.all fun p =>
      p.rest matches .done (.ok _)) ∧
      ∀ t ∈ transitions (start Dictionaries.empty) reconnectRun,
        (Dictionaries.locked t.after.world.state = false → Consistent t.after) ∧ NeverGone t.after ∧
          RaisesOwn t.after :=
  ⟨by decide +kernel, dictionaries_consistent reconnectRun (by decide +kernel)⟩

end Askit.Game.Connections

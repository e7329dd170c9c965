import Askit.Game.Apart

/-! Each process keeps to its room, in every run. -/

namespace Askit.Game

open Interleaving Machine Coro Tables

section

variable [Runtime]

namespace Isolation

section Kept

variable {s₀ s : State} {fin c : system.Config} {home : String}

/-- The lock is held by whoever is in the critical section, and there is one at most. -/
structure Excludes (history : List Ev) (locked : Bool) : Prop where
  inside : ∀ i, Inside (own i history) → locked = true
  alone : ∀ i j, Inside (own i history) → Inside (own j history) → i = j

def Inserted (history : List Ev) (playerId : UUID) : Prop :=
  ∃ j changes p, changes.newPlayer = some p ∧ p.playerId = playerId ∧
    ⟨j, .commit changes, .ok ()⟩ ∈ history

omit [Runtime] in
lemma commit_players_new {d e : Db} {changes : Changes} (h : d.commit changes = some e)
    {playerId : UUID} (hid : (e.players.get? playerId).isSome) :
    (d.players.get? playerId).isSome ∨ ∃ p ∈ changes.newPlayer, p.playerId = playerId := by
  have hp := commit_players h
  have hflushed : ((Db.flushConnected (Db.flushPlayer d.players changes.player)
      changes.connected).get? playerId).isSome = (d.players.get? playerId).isSome := by
    cases changes.player <;> cases changes.connected <;> simp [Db.flushPlayer, Db.flushConnected,
      Table.get?_modify]
  cases hn : changes.newPlayer with
  | none =>
    rw [hn, Db.insertPlayer, Option.some.injEq] at hp
    exact .inl (hflushed ▸ hp ▸ hid)
  | some p =>
    rw [hn, Db.insertPlayer] at hp
    split at hp
    · rw [Table.get?_insert hp] at hid
      split at hid
      case isTrue heq => exact .inr ⟨p, rfl, heq.symm⟩
      case isFalse => exact .inl (hflushed ▸ hid)
    · cases hp

lemma exec_players_new {i : ℕ} {β : Type} (o : Op β) (s : State) (history : List Ev)
    {playerId : UUID} (h : ((Game.exec o s).2.db.players.get? playerId).isSome) :
    (s.db.players.get? playerId).isSome ∨ Inserted (history ++ [⟨i, o, (Game.exec o s).1⟩])
      playerId := by
  cases o with
  | commit changes =>
    cases hc : s.db.commit changes with
    | none =>
      rw [exec_commit_none hc] at h
      exact .inl h
    | some e =>
      rw [exec_commit_some hc] at h
      rcases commit_players_new hc h with h | ⟨p, hp, hid⟩
      · exact .inl h
      · rw [exec_commit_some hc]
        exact .inr ⟨i, changes, p, hp, hid, List.mem_concat_self⟩
  | listen roomCode =>
    rw [exec_listen_db] at h
    exact .inl h
  | _ => exact .inl h

/-- What holds in every run on the way to `fin`: no identifier is drawn twice, sessions stay, the
players have joined in the run or were there before it, sockets and players are where they belong,
one process at most is in the critical section, and each process keeps to its room. -/
structure Kept (s₀ : State) (fin : system.Config) (home : String) (c : system.Config) : Prop where
  labelled : c.Labelled
  traced : c.Traced (fun _ => Duty) fun _ _ _ => True
  drawn : Tickets.Drawn s₀.draws (State.draws c.world.state)
    (c.world.history.filterMap Tickets.drawnId)
  draws : s₀.draws ≤ State.draws c.world.state
  fixed : ∀ roomCode, ((State.db c.world.state).sessions.get? roomCode).map GameSession.sessionId =
    (s₀.db.sessions.get? roomCode).map GameSession.sessionId
  inserted : ∀ playerId, ((State.db c.world.state).players.get? playerId).isSome →
    (s₀.db.players.get? playerId).isSome ∨ Inserted c.world.history playerId
  seated : Seated (realm s₀ fin home) (State.registry c.world.state)
  excludes : Excludes c.world.history (State.registry c.world.state).locked
  bounded : ∀ (i : ℕ) (p : system.Proc), c.procs[i]? = some p →
    (realm s₀ fin home (Runtime.upper (Call.room p.call))).Bounds p.rest
  contained : ∀ ev ∈ c.world.history, ∃ call, c.calls[ev.pid]? = some call ∧
    (realm s₀ fin home (Runtime.upper (Call.room call))).Contains ev.op
  stays : c.Confined fun call => Op.Local (Call.room call) (Call.Answers call)

lemma kept_start (hs : s₀.registry = .empty) : Kept s₀ fin home (start s₀) where
  labelled := @labelled_start _ _ _ system s₀
  traced := @traced_start _ _ _ system _ _ s₀
  drawn := Tickets.drawn_nil _
  draws := le_rfl
  fixed _ := rfl
  inserted _ h := .inl h
  seated := by
    rw [show State.registry (start (M := system) s₀).world.state = .empty from hs]
    exact ⟨fun _ _ h => (by cases h), fun _ _ h => (by cases h), fun _ h => (by cases h)⟩
  excludes := ⟨fun i h => by simp [Inside, start, own] at h, fun i j h => by
    simp [Inside, start, own] at h⟩
  bounded i p h := by cases h
  contained ev h := by cases h
  stays := confined_start (M := system) _ s₀

lemma Kept.allows (h : Kept s₀ fin home c)
    (hids : (s₀.db.sessions.rows.map GameSession.sessionId).Nodup)
    (hsep : Separate home fin) {i : ℕ} {call : Call} {β : Type} {o : Op β}
    {k : Except Exn β → Handler Unit} (pending : c.procs[i]? = some ⟨call, .await o k⟩)
    (hjoined : ∀ sessionId p, Residents.Joined (Game.exec o c.world.state).2 sessionId p →
      Residents.Joined fin.world.state sessionId p) {a : β}
        (ha : (Game.exec o c.world.state).1 = .ok a) :
    (realm s₀ fin home (Runtime.upper call.room)).Allows o a := by
  have hcontains := (h.bounded i _ pending).1
  have hlocal := (h.stays.rest i _ pending).1
  have hfixed := h.fixed (Runtime.upper call.room)
  cases o with
  | getRoom room =>
    obtain rfl : room = call.room := hlocal
    cases ha
    intro r hr
    simp only [Db.room?, Option.mem_def, Option.bind_eq_some_iff, Option.map_eq_some_iff] at hr
    obtain ⟨g, hg, quiz, -, rfl⟩ := hr
    rw [hg] at hfixed
    refine ⟨Table.key_get? hg, hfixed.symm, fun p hp => ?_⟩
    obtain ⟨g₀, hg₀, hid⟩ := Option.map_eq_some_iff.mp hfixed.symm
    refine ⟨g₀, hg₀, hjoined _ _ ⟨p.nickname, ?_⟩⟩
    rw [hid]
    exact List.mem_map_of_mem (f := fun p : GamePlayer => (p.playerId, p.nickname)) hp
  | getPlayer playerId =>
    cases ha
    exact fun p hp => Table.key_get? hp
  | commit changes =>
    intro p hp hsession
    obtain ⟨g, hg, hid⟩ := Option.map_eq_some_iff.mp hsession
    exact ⟨g, hg, hid ▸ hjoined _ _ (Residents.joined_of_commit hp ha)⟩
  | playerSocket playerId =>
    cases ha
    intro w hw
    obtain ⟨l, r, hl, -⟩ := List.lookup_eq_some_iff.mp hw
    obtain ⟨code, hplayer, hsocket⟩ := h.seated.seats (playerId, w) (by rw [hl]; simp)
    rwa [eq_of_player hids hsep hcontains hplayer]
  | hostSocket room =>
    obtain rfl : room = call.room := hlocal
    cases ha
    exact fun w hw => h.seated.hosts _ w hw
  | roomSockets room =>
    obtain rfl : room = call.room := hlocal
    cases ha
    exact fun w hw => h.seated.rooms _ w hw
  | _ => trivial

lemma Kept.fresh (h : Kept s₀ fin home c)
    (hdrawn : ∀ p ∈ s₀.db.players.rows, ∀ n, s₀.draws ≤ n → p.playerId ≠ Runtime.uuid4 n) {i : ℕ}
    {call : Call} {β : Type} {o : Op β} {k : Except Exn β → Handler Unit}
    (pending : c.procs[i]? = some ⟨call, .await o k⟩) :
    Op.Fresh c.world.state o := by
  cases o with
  | commit changes =>
    intro p hp
    obtain ⟨hid, honce⟩ := ((h.traced.rest i _ pending) (.error .integrityError)
      (by rintro _ ⟨⟩)).1 p hp
    have hmem := (mem_own.mp hid).1
    by_contra hne
    have hsome := Option.isSome_iff_ne_none.mpr hne
    rcases h.inserted p.playerId hsome with hrow | ⟨j, changes', q, hnew, hqid, hev⟩
    · obtain ⟨q, hq⟩ := Option.isSome_iff_exists.mp hrow
      obtain ⟨n, hle, -, hn⟩ := h.drawn.2 _ (List.mem_filterMap.mpr ⟨_, hmem, rfl⟩)
      exact hdrawn q (Table.mem_get? hq) n hle ((Table.key_get? hq).trans hn)
    · obtain ⟨before, after, hhistory⟩ := List.append_of_mem hev
      obtain ⟨call', -, hduty⟩ := h.traced.history before _ after hhistory
      have hdrawn' := (mem_own.mp (hduty q hnew).1).1
      rw [hqid] at hdrawn'
      obtain rfl := Tickets.drawn_once h.drawn.1 hmem (hhistory ▸ List.mem_append_left _ hdrawn')
      have hnone := honce changes' _ (mem_own.mpr ⟨hev, rfl⟩)
      rw [hnew] at hnone
      cases hnone
  | _ => trivial

omit [Runtime] in
lemma Excludes.append {history : List Ev} {locked : Bool} (h : Excludes history locked) (ev : Ev)
    (hready : locks ev = some true → locked = false)
    (hduty : locks ev = some false → Inside (own ev.pid history)) :
    Excludes (history ++ [ev]) ((locks ev).getD locked) := by
  obtain ⟨i, o, r⟩ := ev
  cases hlocks : locks ⟨i, o, r⟩ with
  | none =>
    have hinside : ∀ j, Inside (own j (history ++ [⟨i, o, r⟩])) ↔ Inside (own j history) := by
      intro j
      by_cases hij : i = j
      · subst hij
        rw [own_append_self]
        exact inside_append_of_none hlocks
      · rw [own_append_of_ne hij]
    exact ⟨fun j hj => h.inside j ((hinside j).mp hj),
      fun j k hj hk => h.alone j k ((hinside j).mp hj) ((hinside k).mp hk)⟩
  | some b =>
    have hself : Inside (own i (history ++ [⟨i, o, r⟩])) ↔ b = true := by
      rw [own_append_self]
      exact inside_append_of_some hlocks
    -- nobody else is in the critical section when it is entered or left
    have hothers : ∀ j, Inside (own j (history ++ [⟨i, o, r⟩])) → j = i := by
      intro j hj
      by_contra hne
      rw [own_append_of_ne (Ne.symm hne)] at hj
      cases b with
      | true =>
        have hlocked := h.inside j hj
        rw [hready hlocks] at hlocked
        cases hlocked
      | false => exact hne (h.alone j i hj (hduty hlocks))
    refine ⟨fun j hj => ?_, fun j k hj hk => (hothers j hj).trans (hothers k hk).symm⟩
    obtain rfl := hothers j hj
    exact hself.mp hj

omit [Runtime] in
lemma Inserted.append {history : List Ev} {playerId : UUID} (h : Inserted history playerId)
    (ev : Ev) :
    Inserted (history ++ [ev]) playerId := by
  obtain ⟨j, changes, p, hnew, hid, hmem⟩ := h
  exact ⟨j, changes, p, hnew, hid, List.mem_append_left _ hmem⟩

omit [Runtime] in
lemma unlocked_of_ready {i : ℕ} {β : Type} {o : Op β} {r : Except Exn β} (h : Game.ready o s = true)
    (hl : locks ⟨i, o, r⟩ = some true) : s.registry.locked = false := by
  cases o with
  | leaveRoom websocket room => simpa [Game.ready] using h
  | forget room playerId => cases r <;> cases hl
  | releaseLock => cases r <;> cases hl
  | _ => cases r <;> cases hl

omit [Runtime] in
lemma duty_of_locks {i : ℕ} {l : List Ev} {β : Type} {o : Op β} {r : Except Exn β}
    (h : Duty l ⟨i, o, r⟩) (hl : locks ⟨i, o, r⟩ = some false) : Inside l := by
  cases o with
  | forget room playerId => exact h
  | releaseLock => exact h
  | _ => cases r <;> cases hl

lemma Kept.bounded_set (h : Kept s₀ fin home c) {i : ℕ} {call : Call} {x y : Handler Unit}
    (pending : c.procs[i]? = some ⟨call, x⟩)
    (hy : (realm s₀ fin home (Runtime.upper call.room)).Bounds y) :
    ∀ (j : ℕ) (p : system.Proc), (c.procs.set i ⟨call, y⟩)[j]? = some p →
      (realm s₀ fin home (Runtime.upper (Call.room p.call))).Bounds p.rest := by
  intro j p hj
  by_cases hij : i = j
  · subst hij
    rw [List.getElem?_set_self (List.getElem?_eq_some_iff.mp pending).1] at hj
    cases hj
    exact hy
  · rw [List.getElem?_set_ne hij] at hj
    exact h.bounded j p hj

lemma Kept.contained_set (h : Kept s₀ fin home c) {i : ℕ} {call : Call} {β : Type} {o : Op β}
    {k : Except Exn β → Handler Unit} {y : Handler Unit}
    (pending : c.procs[i]? = some ⟨call, .await o k⟩) {r : Except Exn β} :
    ∀ ev ∈ c.world.history ++ [⟨i, o, r⟩], ∃ call',
      ((c.procs.set i ⟨call, y⟩).map Proc.call)[ev.pid]? = some call' ∧
        (realm s₀ fin home (Runtime.upper (Call.room call'))).Contains ev.op := by
  intro ev hev
  rw [calls_set pending]
  rcases List.mem_append.mp hev with hev | hev
  · exact h.contained ev hev
  · rw [List.mem_singleton.mp hev]
    exact ⟨call, getElem?_calls pending, (h.bounded i _ pending).1⟩

lemma Kept.admits (h : Kept s₀ fin home c) (hsep : Separate home fin) {call : Call}
    (hto : Toward (step (M := system) (.spawn call) c) fin) {t : State}
    (admitted : Game.enter call c.world.state = some t) :
    (realm s₀ fin home (Runtime.upper call.room)).Admits call := by
  have hmem : call ∈ fin.calls := by
    apply hto.calls.subset
    have hprocs : (Machine.step (M := system) (.spawn call) c).procs =
        c.procs ++ [⟨call, Game.code call⟩] := by
      simp only [Machine.step, system, admitted]
    rw [Config.calls, hprocs, List.map_append]
    exact List.mem_concat_self
  cases call with
  | playerFrame roomCode playerId data =>
    simp only [Game.enter] at admitted
    split at admitted
    case isFalse => cases admitted
    case isTrue hexists =>
      obtain ⟨g, hg, p, hp, hsession⟩ := hexists
      have hfixed := h.fixed (Runtime.upper roomCode)
      rw [show Table.get? (State.db c.world.state).sessions (Runtime.upper roomCode) = some
        g from hg, Option.map_some, eq_comm, Option.map_eq_some_iff] at hfixed
      obtain ⟨g₀, hg₀, hid⟩ := hfixed
      have hrow : p ∈ (State.db c.world.state).playersOf g₀.sessionId :=
        List.mem_filter.mpr ⟨Table.mem_get? hp, decide_eq_true (hsession.trans hid.symm)⟩
      have hjoined : Residents.Joined c.world.state g₀.sessionId p.playerId :=
        ⟨p.nickname, List.mem_map_of_mem (f := fun p : GamePlayer => (p.playerId, p.nickname)) hrow⟩
      rw [show p.playerId = playerId from Table.key_get? hp] at hjoined
      exact ⟨g₀, hg₀, hto.joined _ _ (joined_step _ hjoined)⟩
  | playerEndpoint id roomCode origin wsToken =>
    refine ⟨mem_socketsOf.mpr ⟨_, hmem, rfl, rfl⟩, ?_⟩
    rintro token ⟨⟩ hhome i other playerId n hother hroom
    exact hsep.tokens id roomCode origin token hmem hhome i other playerId n hother hroom
  | hostEndpoint id roomCode origin hostUser => exact mem_socketsOf.mpr ⟨_, hmem, rfl, rfl⟩
  | _ => trivial

lemma Kept.step (h : Kept s₀ fin home c)
    (hids : (s₀.db.sessions.rows.map GameSession.sessionId).Nodup) (hsep : Separate home fin)
    (a : system.Act) (hto : Toward (Machine.step a c) fin) :
    Kept s₀ fin home (Machine.step a c) := by
  have hlabelled := h.labelled.step a
  have htraced := h.traced.step h.labelled (fun i call => code_follows i call) a
  have hstays := h.stays.step (P := fun call => Op.Local (Call.room call)
    (Call.Answers call)) code_stays a
  have hm := step_moves a c
  have hadmits : ∀ call t, a = .spawn call → Game.enter call c.world.state = some t →
      (realm s₀ fin home (Runtime.upper call.room)).Admits call := by
    rintro call t rfl admitted
    exact h.admits hsep hto admitted
  generalize Machine.step a c = d at hm hlabelled htraced hstays hto
  cases hm with
  | idle => exact h
  | spawn call s admitted =>
    obtain ⟨hdb, -, hregistry⟩ := enter_eq_some admitted
    have hdraws := Tickets.enter_draws admitted
    refine ⟨hlabelled, htraced, hdraws.symm ▸ h.drawn, hdraws.symm ▸ h.draws, ?_, ?_,
      hregistry.symm ▸ h.seated,
      hregistry.symm ▸ h.excludes, fun i p hp => ?_, fun ev hev => ?_, hstays⟩
    · intro roomCode
      change (Table.get? (State.db s).sessions roomCode).map _ = _
      rw [hdb]
      exact h.fixed roomCode
    · intro playerId hsome
      change (Table.get? (State.db s).players playerId).isSome = true at hsome
      rw [hdb] at hsome
      exact h.inserted playerId hsome
    · rcases Nat.lt_trichotomy i c.procs.length with hlt | rfl | hgt
      · rw [List.getElem?_append_left hlt] at hp
        exact h.bounded i p hp
      · rw [List.getElem?_concat_length] at hp
        cases hp
        exact Realm.code_bounds (hadmits call s rfl admitted)
      · rw [List.getElem?_eq_none (by simp; omega)] at hp
        cases hp
    · obtain ⟨call', hcall', hcontains⟩ := h.contained ev hev
      exact ⟨call', called_concat hcall' _, hcontains⟩
  | env e =>
    -- the clock and the keys that are lost are no part of the invariant
    cases e <;> exact ⟨hlabelled, htraced, h.drawn, h.draws, h.fixed, h.inserted, h.seated,
      h.excludes, h.bounded, h.contained, hstays⟩
  | fault i e call o k pending =>
    have hmem : ∀ {playerId}, Inserted c.world.history playerId →
        Inserted (c.world.history ++ [⟨i, o, .error e⟩]) playerId := fun hin => hin.append _
    have hnone : locks ⟨i, o, .error e⟩ = none := by cases o <;> rfl
    refine ⟨hlabelled, htraced, (Tickets.drawnId_fault _ i o e).symm ▸ h.drawn, h.draws, h.fixed,
      fun playerId hsome => (h.inserted playerId hsome).imp id hmem, h.seated, ?_, ?_,
      h.contained_set pending, hstays⟩
    · have hexcludes := h.excludes.append ⟨i, o, .error e⟩ (fun hl => by rw [hnone] at hl; cases hl)
        fun hl => by rw [hnone] at hl; cases hl
      rw [hnone] at hexcludes
      exact hexcludes
    · exact h.bounded_set pending ((h.bounded i _ pending).2.2 e)
  | run i call o k pending ready =>
    have hduty := ((h.traced.rest i _ pending) (Game.exec o c.world.state).1 fun a ha =>
      ⟨c.world.state, ha⟩).1
    have hcontains := (h.bounded i _ pending).1
    refine ⟨hlabelled, htraced, h.drawn.exec h.draws o, h.draws.trans (Tickets.draws_exec o _),
      fun roomCode => ?_,
      fun playerId hsome => ?_, ?_, ?_, ?_, h.contained_set pending, hstays⟩
    · exact (Residents.session_exec GameSession.sessionId (fun _ _ => rfl) o _ _).trans
        (h.fixed roomCode)
    · rcases exec_players_new (i := i) o c.world.state c.world.history hsome with hold | hnew
      · exact (h.inserted playerId hold).imp id fun hin => hin.append _
      · exact .inr hnew
    · exact h.seated.exec ((h.stays.rest i _ pending).1) hcontains
    · have hexcludes := h.excludes.append ⟨i, o, (Game.exec o c.world.state).1⟩
        (unlocked_of_ready ready)
        fun hl => duty_of_locks hduty hl
      rw [← locked_exec i o c.world.state] at hexcludes
      exact hexcludes
    · apply h.bounded_set pending
      change Realm.Bounds _ (k (Game.exec o c.world.state).1)
      cases hx : (Game.exec o c.world.state).1 with
      | ok a => exact (h.bounded i _ pending).2.1 a (h.allows hids hsep pending
          (fun _ _ => hto.joined _ _) hx)
      | error e => exact (h.bounded i _ pending).2.2 e

lemma kept_run (hs : s₀.registry = .empty)
    (hids : (s₀.db.sessions.rows.map GameSession.sessionId).Nodup) (acts : List system.Act)
    (hsep : Separate home (run acts (start s₀))) :
    (∀ t ∈ transitions (start s₀) acts, Kept s₀ (run acts (start s₀)) home t.before) ∧
      Kept s₀ (run acts (start s₀)) home (run acts (start s₀)) := by
  obtain ⟨hbefore, hlast⟩ := invariant (I := Kept s₀ (run acts (start s₀)) home)
    (P := fun t => Toward t.after (run acts (start s₀))) (fun t ht h => h.step hids hsep t.act ht)
      (kept_start hs) acts
    fun t ht => (toward_of_mem ht).2
  exact ⟨fun t ht => (hbefore t ht).1, hlast⟩

end Kept

end Isolation

end

end Askit.Game

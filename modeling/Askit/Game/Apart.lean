import Askit.Game.Locks

/-! The realms of separate rooms, and the seats of the registry in them. -/

namespace Askit.Game

open Interleaving Machine Coro Tables

section

variable [Runtime]

namespace Isolation

section Realms

/-- What belongs to a room in a run from `s₀` to `fin`. Only the tokens of the room `home`
matter. -/
def realm (s₀ : State) (fin : system.Config) (home roomCode : String) : Realm where
  code := roomCode
  sessionId := (s₀.db.sessions.get? roomCode).map GameSession.sessionId
  players := {p | ∃ g, s₀.db.sessions.get? roomCode = some g ∧ Residents.Joined fin.world.state
    g.sessionId p}
  sockets := {w | w ∈ socketsOf roomCode fin.calls}
  tokens := {token | roomCode = home → ∀ i call playerId n, fin.calls[i]? = some call →
    Runtime.upper call.room ≠ home → ⟨i, .setWsToken token playerId n, .ok ()⟩ ∉ fin.world.history}

end Realms

end Isolation

structure Separate (roomCode : String) (c : system.Config) : Prop where
  sockets : ∀ call ∈ c.calls, ∀ call' ∈ c.calls, ∀ w, Call.socket call = some w →
    Call.socket call' = some w →
    Runtime.upper (Call.room call) = Runtime.upper (Call.room call')
  tokens : ∀ id code origin token, .playerEndpoint id code origin (some token) ∈ c.calls →
    Runtime.upper code = roomCode → ∀ i call playerId n, c.calls[i]? = some call →
      Runtime.upper (Call.room call) ≠ roomCode → ⟨i, .setWsToken token playerId n, .ok ()⟩ ∉
        c.world.history

namespace Isolation

section Realms

variable {s₀ s : State} {fin c : system.Config} {home code code' : String}

lemma mem_socketsOf {calls : List Call} {w : Socket} :
    w ∈ socketsOf code calls ↔ ∃ call ∈ calls, Runtime.upper call.room = code ∧
    call.socket = some w := by
  simp [socketsOf, and_assoc]

lemma apart_realms (hids : (s₀.db.sessions.rows.map GameSession.sessionId).Nodup)
    (hsep : Separate home fin) (hne : code ≠ code') :
    Apart (realm s₀ fin home code) (realm s₀ fin home code') where
  code := hne
  session sessionId h h' := by
    obtain ⟨g, hg, hid⟩ := Option.map_eq_some_iff.mp h
    obtain ⟨g', hg', hid'⟩ := Option.map_eq_some_iff.mp h'
    obtain rfl := List.inj_on_of_nodup_map hids (Table.mem_get? hg) (Table.mem_get? hg')
      (hid.trans hid'.symm)
    exact hne ((Table.key_get? hg).symm.trans (Table.key_get? hg'))
  players p h h' := by
    obtain ⟨g, hg, hp⟩ := h
    obtain ⟨g', hg', hp'⟩ := h'
    obtain rfl := List.inj_on_of_nodup_map hids (Table.mem_get? hg) (Table.mem_get? hg')
      (hp.unique hp')
    exact hne ((Table.key_get? hg).symm.trans (Table.key_get? hg'))
  sockets w h h' := by
    obtain ⟨call, hcall, hroom, hw⟩ := mem_socketsOf.mp h
    obtain ⟨call', hcall', hroom', hw'⟩ := mem_socketsOf.mp h'
    exact hne (hroom.symm.trans ((hsep.sockets _ hcall _ hcall' w hw hw').trans hroom'))

lemma eq_of_player (hids : (s₀.db.sessions.rows.map GameSession.sessionId).Nodup)
    (hsep : Separate home fin) {p : UUID} (h : p ∈ (realm s₀ fin home code).players)
    (h' : p ∈ (realm s₀ fin home code').players) :
    code = code' := by
  by_contra hne
  exact (apart_realms hids hsep hne).players p h h'

lemma eq_of_socket (hids : (s₀.db.sessions.rows.map GameSession.sessionId).Nodup)
    (hsep : Separate home fin) {w : Socket} (h : w ∈ (realm s₀ fin home code).sockets)
    (h' : w ∈ (realm s₀ fin home code').sockets) :
    code = code' := by
  by_contra hne
  exact (apart_realms hids hsep hne).sockets w h h'

structure Toward (c fin : system.Config) : Prop where
  joined : ∀ sessionId p, Residents.Joined c.world.state sessionId p →
    Residents.Joined fin.world.state sessionId p
  calls : c.calls <+: fin.calls
  history : c.world.history <+: fin.world.history

lemma joined_step (a : system.Act) {sessionId p : UUID}
    (h : Residents.Joined c.world.state sessionId p) :
    Residents.Joined (step a c).world.state sessionId p := by
  have hm := step_moves a c
  generalize step a c = d at hm
  cases hm with
  | idle => exact h
  | spawn call s admitted =>
    obtain ⟨nickname, hmem⟩ := h
    obtain ⟨hdb, -⟩ := enter_eq_some admitted
    exact ⟨nickname, hdb ▸ hmem⟩
  | run i call o k pending ready => exact h.exec o
  | fault i e call o k pending => exact h
  | env e =>
    cases e with
    | clock now => exact h
    | lose key => exact h

lemma toward_refl (c : system.Config) :
    Toward c c := ⟨fun _ _ h => h, List.prefix_rfl, List.prefix_rfl⟩

lemma toward_run (acts : List system.Act) (c : system.Config) : Toward c (run acts c) := by
  induction acts generalizing c with
  | nil => exact toward_refl c
  | cons a acts ih =>
    obtain ⟨hjoined, hcalls, hhistory⟩ := ih (step a c)
    exact ⟨fun _ _ h => hjoined _ _ (joined_step a h), (calls_grow a c).trans hcalls,
      (history_grows a c).trans hhistory⟩

lemma toward_of_mem {t : system.Transition} {acts : List system.Act} (h : t ∈ transitions c acts) :
    Toward t.before (run acts c) ∧ Toward t.after (run acts c) := by
  obtain ⟨as, bs, rfl, hbefore⟩ := mem_transitions h
  have hrun : run (as ++ t.act :: bs) c = run bs t.after := by
    rw [run_append, run_cons, ← hbefore]; rfl
  have hstep := toward_run (t.act :: bs) t.before
  rw [hrun]
  exact ⟨hstep, toward_run bs _⟩

lemma Toward.called (h : Toward c fin) {i : ℕ} {call : Call} (hcall : c.calls[i]? = some call) :
    fin.calls[i]? = some call :=
  Extends.called ⟨h.calls, h.history⟩ hcall

omit [Runtime] in
lemma called_concat {M : Machine Op Exn Unit} {c : M.Config} {i : ℕ} {call : M.Call}
    (hcall : c.calls[i]? = some call) (p : M.Proc) :
    ((c.procs ++ [p]).map Proc.call)[i]? = some call := by
  rw [List.map_append]
  exact (List.getElem?_append_left (List.getElem?_eq_some_iff.mp hcall).1).trans hcall

lemma Toward.covers (h : Toward c fin) :
    Covers (realm s₀ fin home code) (State.db c.world.state) := by
  intro p hp hsession
  obtain ⟨g, hg, hid⟩ := Option.map_eq_some_iff.mp hsession
  exact ⟨g, hg, h.joined _ _ ⟨p.nickname, List.mem_map.mpr
    ⟨p, List.mem_filter.mpr ⟨hp, decide_eq_true hid.symm⟩, rfl⟩⟩⟩

end Realms

section Seats

variable {s : State} {g : Registry} {realmOf : String → Realm} {roomCode : String} {answers : Prop}
variable {β : Type} {o : Op β}

structure Seated (realmOf : String → Realm) (g : Registry) : Prop where
  rooms : ∀ roomCode, ∀ w ∈ g.rooms roomCode, w ∈ (realmOf (Runtime.upper roomCode)).sockets
  hosts : ∀ roomCode, ∀ w ∈ g.hosts roomCode, w ∈ (realmOf (Runtime.upper roomCode)).sockets
  seats : ∀ e ∈ g.players, ∃ code, e.1 ∈ (realmOf code).players ∧ e.2 ∈ (realmOf code).sockets

lemma Seated.join (h : Seated realmOf g) {websocket : Socket} {playerId : Option UUID}
    (hw : websocket ∈ (realmOf (Runtime.upper roomCode)).sockets)
    (hp : ∀ p ∈ playerId, p ∈ (realmOf (Runtime.upper roomCode)).players) :
    Seated realmOf (g.join websocket roomCode playerId) where
  rooms room w hmem := by
    by_cases hroom : room = roomCode
    · subst hroom
      rw [show (g.join websocket room playerId).rooms room = insert websocket (g.rooms room) from
        Function.update_self ..] at hmem
      rcases List.mem_insert_iff.mp hmem with rfl | hmem
      · exact hw
      · exact h.rooms room w hmem
    · exact h.rooms room w (by simpa [Registry.join, Function.update_of_ne hroom] using hmem)
  hosts room w hmem := by
    cases playerId with
    | some p => exact h.hosts room w hmem
    | none =>
      by_cases hroom : room = roomCode
      · subst hroom
        obtain rfl : websocket = w := by simpa [Registry.join] using hmem
        exact hw
      · exact h.hosts room w (by simpa [Registry.join, Function.update_of_ne hroom] using hmem)
  seats e hmem := by
    cases playerId with
    | none => exact h.seats e hmem
    | some p =>
      rcases List.mem_cons.mp hmem with rfl | hmem
      · exact ⟨_, hp p rfl, hw⟩
      · exact h.seats e (List.mem_of_mem_filter hmem)

lemma Seated.leave (h : Seated realmOf g) (websocket : Socket) (roomCode : String) :
    Seated realmOf (g.leave websocket roomCode).2 := by
  have hrooms : ∀ room, ∀ w ∈ Function.update g.rooms roomCode ((g.rooms roomCode).erase
    websocket) room,
      w ∈ (realmOf (Runtime.upper room)).sockets := by
    intro room w hmem
    by_cases hroom : room = roomCode
    · subst hroom
      rw [Function.update_self] at hmem
      exact h.rooms room w (List.mem_of_mem_erase hmem)
    · rw [Function.update_of_ne hroom] at hmem
      exact h.rooms room w hmem
  simp only [Registry.leave]
  split <;> exact ⟨hrooms, h.hosts, h.seats⟩

lemma Seated.forget (h : Seated realmOf g) (roomCode : String) (playerId : Option UUID) :
    Seated realmOf (g.forget roomCode playerId) := by
  cases playerId with
  | some p => exact ⟨h.rooms, h.hosts, fun e hmem => h.seats e (List.mem_of_mem_filter hmem)⟩
  | none =>
    refine ⟨h.rooms, fun room w hmem => ?_, h.seats⟩
    by_cases hroom : room = roomCode
    · subst hroom
      simp [Registry.forget] at hmem
    · exact h.hosts room w (by simpa [Registry.forget, Function.update_of_ne hroom] using hmem)

lemma Seated.exec (h : Seated realmOf s.registry) (hlocal : o.Local roomCode answers)
    (hcontains : (realmOf (Runtime.upper roomCode)).Contains o) :
    Seated realmOf (Game.exec o s).2.registry := by
  cases o with
  | joinRoom websocket room playerId =>
    obtain rfl : room = roomCode := hlocal
    exact h.join hcontains.1 hcontains.2
  | leaveRoom websocket room => exact h.leave websocket room
  | forget room playerId => exact h.forget room playerId
  | releaseLock | publish | subscribe => exact ⟨h.rooms, h.hosts, h.seats⟩
  | listen room =>
    simp only [Game.exec]
    split <;> exact ⟨h.rooms, h.hosts, h.seats⟩
  | commit changes =>
    cases hc : s.db.commit changes with
    | none =>
      rw [exec_commit_none hc]
      exact h
    | some d =>
      rw [exec_commit_some hc]
      exact h
  | _ => exact h

lemma locked_exec (i : ℕ) (o : Op β) (s : State) :
    (Game.exec o s).2.registry.locked =
      (locks ⟨i, o, (Game.exec o s).1⟩).getD s.registry.locked := by
  cases o with
  | commit changes =>
    cases hc : s.db.commit changes with
    | none =>
      rw [exec_commit_none hc]
      rfl
    | some d =>
      rw [exec_commit_some hc]
      rfl
  | listen room =>
    simp only [Game.exec]
    split <;> rfl
  | leaveRoom websocket room =>
    simp only [Game.exec, Registry.leave]
    split <;> rfl
  | forget room playerId => cases playerId <;> rfl
  | _ => rfl

end Seats

end Isolation

end

end Askit.Game

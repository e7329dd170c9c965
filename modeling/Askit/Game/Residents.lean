import Askit.Game.Roster

/-! Who is a player of which room: a player belongs to one session from its join on, and a session
to one room. -/

namespace Askit.Game

open Interleaving Machine Coro Tables

namespace Residents

section

variable {s₀ s : State} {sessionId playerId : UUID}

def Joined (s : State) (sessionId playerId : UUID) :
    Prop := ∃ nickname, (playerId, nickname) ∈ s.db.roster sessionId

lemma joined_of_mem {p : GamePlayer} (h : p ∈ s.db.playersOf sessionId) :
    Joined s sessionId p.playerId :=
  ⟨p.nickname, List.mem_map_of_mem (f := fun p : GamePlayer => (p.playerId, p.nickname)) h⟩

lemma Joined.unique (h : Joined s sessionId playerId) {sessionId' : UUID}
    (h' : Joined s sessionId' playerId) :
    sessionId = sessionId' := by
  obtain ⟨nickname, hmem⟩ := h
  obtain ⟨nickname', hmem'⟩ := h'
  simp only [Db.roster, Db.playersOf, List.mem_map, List.mem_filter, decide_eq_true_eq,
    Prod.mk.injEq] at hmem hmem'
  obtain ⟨p, ⟨hp, rfl⟩, rfl, -⟩ := hmem
  obtain ⟨p', ⟨hp', rfl⟩, hid, -⟩ := hmem'
  have heq : s.db.players.get? p'.playerId = some p' := Table.get?_of_mem hp'
  rw [hid, Table.get?_of_mem hp] at heq
  rw [Option.some.inj heq]

variable [Runtime]

lemma Joined.exec (h : Joined s sessionId playerId) {β : Type} (o : Op β) :
    Joined (Game.exec o s).2 sessionId playerId := by
  obtain ⟨nickname, hmem⟩ := h
  refine ⟨nickname, ?_⟩
  cases o with
  | commit changes =>
    cases he : s.db.commit changes with
    | none =>
      rw [exec_commit_none he]
      exact hmem
    | some e =>
      rw [exec_commit_some he]
      change _ ∈ e.roster sessionId
      rw [Db.roster_commit he]
      exact List.mem_append_left _ hmem
  | listen roomCode =>
    rw [exec_listen_db]
    exact hmem
  | _ => exact hmem

lemma joined_of_commit {changes : Changes} {p : GamePlayer} (hp : changes.newPlayer = some p)
    (h : (Game.exec (.commit changes) s).1 = .ok ()) :
    Joined (Game.exec (.commit changes) s).2 p.sessionId p.playerId := by
  cases he : s.db.commit changes with
  | none =>
    rw [exec_commit_none he] at h
    cases h
  | some e =>
    rw [exec_commit_some he]
    refine ⟨p.nickname, ?_⟩
    change _ ∈ e.roster p.sessionId
    rw [Db.roster_commit he, hp]
    simp

lemma session_exec {γ : Type} (f : GameSession → γ)
    (hf : ∀ g row, f (GameSession.flush g row) = f row) {β : Type} (o : Op β) (s : State)
    (roomCode : String) :
    ((exec o s).2.db.sessions.get? roomCode).map f = (s.db.sessions.get? roomCode).map f := by
  cases o with
  | commit changes =>
    cases he : s.db.commit changes with
    | none => rw [exec_commit_none he]
    | some e =>
      rw [exec_commit_some he]
      simp only
      rw [(commit_eq_some he).2, Db.get?_flushSession, Option.map_map]
      cases s.db.sessions.get? roomCode with
      | none => rfl
      | some row =>
        cases changes.session with
        | none => rfl
        | some g =>
          simp only [Option.map_some, Function.comp_apply]
          split
          · rw [hf]
          · rfl
  | listen room => rw [exec_listen_db]
  | _ => rfl

def SessionOf (s₀ : State) (roomCode : String) (sessionId : UUID) : Prop :=
  ∃ g ∈ s₀.db.sessions.rows, g.roomCode = Runtime.upper roomCode ∧ g.sessionId = sessionId

lemma SessionOf.unique (hids : (s₀.db.sessions.rows.map GameSession.sessionId).Nodup)
    {roomCode code : String} (h : SessionOf s₀ roomCode sessionId)
    (h' : SessionOf s₀ code sessionId) :
    Runtime.upper code = Runtime.upper roomCode := by
  obtain ⟨g, hg, hroom, hid⟩ := h
  obtain ⟨g', hg', hcode, hid'⟩ := h'
  obtain rfl := List.inj_on_of_nodup_map hids hg hg' (hid.trans hid'.symm)
  exact hcode.symm.trans hroom

def Resident (s₀ s : State) (roomCode : String) (playerId : UUID) : Prop :=
  ∃ sessionId, SessionOf s₀ roomCode sessionId ∧ Joined s sessionId playerId

lemma Resident.unique (hids : (s₀.db.sessions.rows.map GameSession.sessionId).Nodup)
    {roomCode code : String} (h : Resident s₀ s roomCode playerId)
    (h' : Resident s₀ s code playerId) :
    Runtime.upper code = Runtime.upper roomCode := by
  obtain ⟨sessionId, hsession, hjoined⟩ := h
  obtain ⟨sessionId', hsession', hjoined'⟩ := h'
  obtain rfl := hjoined.unique hjoined'
  exact hsession.unique hids hsession'

def Truthful (s₀ s : State) : Event Op Exn → Prop
  | ⟨_, .getRoom roomCode, .ok (some room)⟩ => SessionOf s₀ roomCode room.session.sessionId ∧
      ∀ p ∈ room.players, Joined s room.session.sessionId p.playerId
  | _ => True

lemma Truthful.mono {t : State} {ev : Event Op Exn} (h : Truthful s₀ s ev)
    (hj : ∀ sessionId playerId, Joined s sessionId playerId → Joined t sessionId playerId) :
    Truthful s₀ t ev := by
  obtain ⟨i, o, r⟩ := ev
  cases o with
  | getRoom roomCode =>
    rcases r with e | (_ | room)
    · trivial
    · trivial
    · exact ⟨h.1, fun p hp => hj _ _ (h.2 p hp)⟩
  | _ => cases r <;> trivial

structure Kept (s₀ : State) (c : system.Config) : Prop where
  answers : ∀ ev ∈ c.world.history, Truthful s₀ c.world.state ev
  frames : ∀ roomCode playerId data, Call.playerFrame roomCode playerId data ∈ c.calls →
    Resident s₀ c.world.state roomCode playerId
  fixed : ∀ roomCode, ((State.db c.world.state).sessions.get? roomCode).map GameSession.sessionId =
    (s₀.db.sessions.get? roomCode).map GameSession.sessionId

variable {c : system.Config}

lemma kept_start : Kept s₀ (start s₀) where
  answers ev h := by cases h
  frames roomCode playerId data h := by cases h
  fixed _ := rfl

namespace Kept

lemma sessionOf (h : Kept s₀ c) {roomCode : String} {g : GameSession}
    (hg : (State.db c.world.state).sessions.get? (Runtime.upper roomCode) = some g) :
    SessionOf s₀ roomCode g.sessionId := by
  have hfixed := h.fixed (Runtime.upper roomCode)
  rw [hg, Option.map_some, eq_comm, Option.map_eq_some_iff] at hfixed
  obtain ⟨g₀, hg₀, hid⟩ := hfixed
  exact ⟨g₀, Table.mem_get? hg₀, Table.key_get? hg₀, hid⟩

lemma truthful (h : Kept s₀ c) {i : ℕ} {β : Type} (o : Op β) :
    Truthful s₀ (exec o c.world.state).2 ⟨i, o, (exec o c.world.state).1⟩ := by
  cases o with
  | getRoom roomCode =>
    simp only [exec]
    cases hroom : (State.db c.world.state).room? (Runtime.upper roomCode) with
    | none => trivial
    | some room =>
      simp only [Db.room?, Option.bind_eq_some_iff, Option.map_eq_some_iff] at hroom
      obtain ⟨g, hg, quiz, -, rfl⟩ := hroom
      exact ⟨h.sessionOf hg, fun p hp => joined_of_mem hp⟩
  | _ => trivial

lemma spawned (h : Kept s₀ c) {roomCode : String} (data : ClientMessage) {s : State}
    (admitted : enter (.playerFrame roomCode playerId data) c.world.state = some s) :
    Resident s₀ c.world.state roomCode playerId := by
  simp only [enter] at admitted
  split at admitted
  · next hplays =>
    obtain ⟨g, hg, p, hp, hsession⟩ := hplays
    refine ⟨g.sessionId, h.sessionOf hg, ?_⟩
    have hmem : p ∈ (State.db c.world.state).playersOf g.sessionId :=
      List.mem_filter.mpr ⟨Table.mem_get? hp, decide_eq_true hsession⟩
    exact Table.key_get? hp ▸ joined_of_mem hmem
  · cases admitted

lemma step (h : Kept s₀ c) (a : system.Act) : Kept s₀ (Machine.step a c) := by
  have hm := step_moves a c
  generalize Machine.step a c = d at hm
  cases hm with
  | idle => exact h
  | spawn call s admitted =>
    obtain ⟨hdb, -, -⟩ := enter_eq_some admitted
    have hjoined : ∀ sessionId playerId, Joined c.world.state sessionId playerId →
        Joined s sessionId playerId := by
      rintro sessionId playerId ⟨nickname, hmem⟩
      exact ⟨nickname, hdb ▸ hmem⟩
    refine ⟨fun ev hev => (h.answers ev hev).mono hjoined, fun roomCode playerId data hcall => ?_,
      fun roomCode => ?_⟩
    · have hresident : Resident s₀ c.world.state roomCode playerId := by
        rw [Config.calls, List.map_append] at hcall
        rcases List.mem_append.mp hcall with hcall | hcall
        · exact h.frames roomCode playerId data hcall
        · obtain rfl := List.mem_singleton.mp hcall
          exact h.spawned data admitted
      obtain ⟨sessionId, hsession, hj⟩ := hresident
      exact ⟨sessionId, hsession, hjoined _ _ hj⟩
    · change (Table.get? (State.db s).sessions roomCode).map _ = _
      rw [hdb]
      exact h.fixed roomCode
  | env e => cases e <;> exact ⟨h.answers, h.frames, h.fixed⟩
  | fault i e call o k pending =>
    have hcalls := calls_set (s := k (.error e)) pending
    refine ⟨fun ev hev => ?_, fun roomCode playerId data hcall => h.frames roomCode playerId data
      (hcalls ▸ hcall), h.fixed⟩
    rcases List.mem_append.mp hev with hev | hev
    · exact h.answers ev hev
    · rw [List.mem_singleton.mp hev]
      cases o <;> trivial
  | run i call o k pending ready =>
    have hcalls := calls_set (s := k (World.perform c.world i o).1) pending
    refine ⟨fun ev hev => ?_, fun roomCode playerId data hcall => ?_, fun roomCode => ?_⟩
    · rcases List.mem_append.mp hev with hev | hev
      · exact (h.answers ev hev).mono fun _ _ hj => hj.exec o
      · rw [List.mem_singleton.mp hev]
        exact h.truthful o
    · obtain ⟨sessionId, hsession, hj⟩ := h.frames roomCode playerId data (hcalls ▸ hcall)
      exact ⟨sessionId, hsession, hj.exec o⟩
    · exact (session_exec GameSession.sessionId (fun _ _ => rfl) o _ _).trans (h.fixed roomCode)

lemma resident (h : Kept s₀ c) {i : ℕ} {roomCode : String} {room : Room}
    (hread : ⟨i, .getRoom roomCode, .ok (some room)⟩ ∈ c.world.history) {p : GamePlayer}
    (hp : p ∈ room.players) :
    Resident s₀ c.world.state roomCode p.playerId :=
  ⟨_, (h.answers _ hread).1, (h.answers _ hread).2 p hp⟩

end Kept

lemma kept_run (s₀ : State) (acts : List system.Act) : Kept s₀ (run acts (start s₀)) :=
  (invariant (I := Kept s₀) (P := fun _ => True) (fun t _ h => h.step t.act) kept_start acts
    fun _ _ => trivial).2

end

end Residents

end Askit.Game

import Askit.Game.Effects
import Askit.Interleaving.Trace

/-! The roster of a room: a join that commits in time keeps it within the quiz's bound, free of
double nicknames, and as it was at the start of the game. -/

namespace Askit.Game

open Interleaving Machine Coro Tables

namespace Db

def roster (d : Db) (sessionId : UUID) : List (UUID × String) :=
  (d.playersOf sessionId).map fun p => (p.playerId, p.nickname)

variable {d e : Db} {changes : Changes}

lemma map_flushPlayer {α : Type} (t : Table GamePlayer.playerId)
    (player : Option (Dirty GamePlayer)) (f : GamePlayer → α)
    (hf : ∀ p row, f (GamePlayer.flush p row) = f row) :
    (flushPlayer t player).rows.map f = t.rows.map f := by
  cases player with
  | none => rfl
  | some p =>
    rw [flushPlayer, Table.rows_modify, List.map_map]
    apply List.map_congr_left
    intro row _
    by_cases h : row.playerId = p.loaded.playerId <;> simp [h, hf]

lemma map_flushConnected {α : Type} (t : Table GamePlayer.playerId)
    (connected : Option (UUID × Bool)) (f : GamePlayer → α)
    (hf : ∀ b row, f (GamePlayer.connect b row) = f row) :
    (flushConnected t connected).rows.map f = t.rows.map f := by
  cases connected with
  | none => rfl
  | some p =>
    rw [flushConnected, Table.rows_modify, List.map_map]
    apply List.map_congr_left
    intro row _
    by_cases h : row.playerId = p.1 <;> simp [h, hf]

lemma roster_eq (d : Db) (sessionId : UUID) :
    d.roster sessionId =
      ((d.players.rows.map fun p => (p.sessionId, p.playerId, p.nickname)).filter
        fun r => r.1 = sessionId).map Prod.snd := by
  simp [roster, playersOf, List.filter_map, Function.comp_def]

lemma roster_commit (h : d.commit changes = some e) (sessionId : UUID) :
    e.roster sessionId = d.roster sessionId ++
      (changes.newPlayer.toList.filter fun p => p.sessionId = sessionId).map
        fun p => (p.playerId, p.nickname) := by
  have hp := commit_players h
  have hrows : (flushConnected (flushPlayer d.players changes.player) changes.connected).rows.map
      (fun p => (p.sessionId, p.playerId, p.nickname)) =
      d.players.rows.map fun p => (p.sessionId, p.playerId, p.nickname) := by
    rw [map_flushConnected _ _ _ fun _ _ => rfl, map_flushPlayer _ _ _ fun _ _ => rfl]
  cases hn : changes.newPlayer with
  | none =>
    rw [hn, insertPlayer, Option.some.injEq] at hp
    simp [roster_eq, ← hp, hrows]
  | some p =>
    rw [hn, insertPlayer] at hp
    split at hp
    · rw [roster_eq, Table.rows_insert hp, List.map_append, hrows, roster_eq]
      by_cases hs : p.sessionId = sessionId <;> simp [hs]
    · cases hp

lemma get?_flushSession (d : Db) (s : Option (Dirty GameSession)) (roomCode : String) :
    (d.flushSession s).get? roomCode = (d.sessions.get? roomCode).map fun g =>
      match s with
      | some s => if roomCode = s.loaded.roomCode then GameSession.flush s g else g
      | none => g := by
  cases s with
  | none => simp [flushSession]
  | some s => exact Table.get?_modify _ _ _ _ (GameSession.roomCode_flush s)

lemma room?_commit (h : d.commit changes = some e) (roomCode : String) :
    (e.room? roomCode).map (fun room => (room.session.sessionId, room.players, room.quiz)) =
      (d.room? roomCode).map fun room =>
        (room.session.sessionId, e.playersOf room.session.sessionId, room.quiz) := by
  obtain ⟨hq, hs⟩ := commit_eq_some h
  rw [room?, room?, hs, hq, get?_flushSession]
  cases d.sessions.get? roomCode with
  | none => rfl
  | some row =>
    have hkept : ∀ s : Option (Dirty GameSession), ∃ g : GameSession, g.sessionId = row.sessionId ∧
        g.quizId = row.quizId ∧ (match s with
          | some s => if roomCode = s.loaded.roomCode then GameSession.flush s row else row
          | none => row) = g := by
      intro s
      cases s with
      | none => exact ⟨row, rfl, rfl, rfl⟩
      | some s =>
        dsimp only
        split
        · exact ⟨GameSession.flush s row, rfl, rfl, rfl⟩
        · exact ⟨row, rfl, rfl, rfl⟩
    obtain ⟨g, hg, hquiz, heq⟩ := hkept changes.session
    simp only [Option.map_some, Option.bind_some]
    rw [heq, hquiz]
    cases d.quizzes.table.get? row.quizId <;> simp [hg]

lemma names_of_adds {sessionId : UUID} {p : GamePlayer} (h : d.commit changes = some e)
    (hp : changes.newPlayer = some p) (hs : p.sessionId = sessionId) :
    e.roster sessionId = d.roster sessionId ++ [(p.playerId, p.nickname)] := by
  rw [roster_commit h, hp]
  simp [hs]

lemma roster_of_not_adds {sessionId : UUID} (h : d.commit changes = some e)
    (hp : ∀ p ∈ changes.newPlayer, p.sessionId ≠ sessionId) :
    e.roster sessionId = d.roster sessionId := by
  rw [roster_commit h]
  cases hn : changes.newPlayer with
  | none => simp
  | some p => simp [hp p hn]

lemma map_nickname_playersOf (d : Db) (sessionId : UUID) :
    (d.playersOf sessionId).map GamePlayer.nickname = (d.roster sessionId).map Prod.snd := by
  simp [roster, Function.comp_def]

lemma session_room? {roomCode : String} {room : Room} (h : d.room? roomCode = some room) :
    d.sessions.get? roomCode = some room.session := by
  simp only [room?, Option.bind_eq_some_iff, Option.map_eq_some_iff] at h
  obtain ⟨g, hg, quiz, -, rfl⟩ := h
  exact hg

lemma exists_room? {roomCode : String} {g : GameSession} (h : d.sessions.get? roomCode = some g) :
    ∃ room, d.room? roomCode = some room ∧ room.session = g := by
  obtain ⟨quiz, hquiz, hid⟩ := List.mem_map.mp (d.quizId_fk g (Table.mem_get? h))
  exact ⟨_, room?_eq h (Table.get?_eq_some.mpr ⟨hquiz, hid⟩), rfl⟩

lemma players_room? {roomCode : String} {room : Room} (h : d.room? roomCode = some room) :
    room.players = d.playersOf room.session.sessionId := by
  simp only [room?, Option.bind_eq_some_iff, Option.map_eq_some_iff] at h
  obtain ⟨g, -, quiz, -, rfl⟩ := h
  rfl

end Db

section

variable [Runtime]

/-- The checks of `join_room` on the room that it has loaded. -/
def Room.Admits (room : Room) (nickname : String) : Prop :=
  room.session.status = .waiting ∧ ¬room.quiz.full room.players ∧
    ∀ p ∈ room.players, Runtime.lower p.nickname ≠ Runtime.lower nickname

instance (room : Room) (nickname : String) : Decidable (room.Admits nickname) :=
  inferInstanceAs (Decidable (room.session.status = .waiting ∧ ¬room.quiz.full room.players ∧
    ∀ p ∈ room.players, Runtime.lower p.nickname ≠ Runtime.lower nickname))

/-- No more players than the quiz allows, and no nickname twice. -/
structure Room.Orderly (room : Room) : Prop where
  bounded : ∀ m ∈ room.quiz.maxParticipants, m ≠ 0 → room.players.length ≤ m
  distinct : (room.players.map fun p => Runtime.lower p.nickname).Nodup

instance (room : Room) : Decidable room.Orderly :=
  decidable_of_iff ((∀ m ∈ room.quiz.maxParticipants, m ≠ 0 → room.players.length ≤ m) ∧
      (room.players.map fun p => Runtime.lower p.nickname).Nodup)
    ⟨fun h => ⟨h.1, h.2⟩, fun h => ⟨h.bounded, h.distinct⟩⟩

def Db.Orderly (d : Db) (roomCode : String) : Prop := ∀ room ∈ d.room? roomCode, room.Orderly

instance (d : Db) (roomCode : String) : Decidable (d.Orderly roomCode) :=
  inferInstanceAs (Decidable (∀ room ∈ d.room? roomCode, room.Orderly))

def Db.InTime (d : Db) (roomCode : String) (changes : Changes) : Prop :=
  ∀ p ∈ changes.newPlayer, ∀ room ∈ d.room? roomCode, p.sessionId = room.session.sessionId →
    room.Admits p.nickname

instance (d : Db) (roomCode : String) (changes : Changes) : Decidable (d.InTime roomCode changes) :=
  inferInstanceAs (Decidable (∀ p ∈ changes.newPlayer, ∀ room ∈ d.room? roomCode,
    p.sessionId = room.session.sessionId → room.Admits p.nickname))

namespace Db

variable {d e : Db} {changes : Changes} {roomCode : String}

lemma orderly_iff (room : Room) : room.Orderly ↔
    (∀ m ∈ room.quiz.maxParticipants, m ≠ 0 → (room.players.map GamePlayer.nickname).length ≤ m) ∧
      ((room.players.map GamePlayer.nickname).map Runtime.lower).Nodup := by
  rw [List.length_map, List.map_map]
  exact ⟨fun h => ⟨h.bounded, h.distinct⟩, fun h => ⟨h.1, h.2⟩⟩

lemma orderly_concat {room room' : Room} (hq : room'.quiz = room.quiz) {nickname : String}
    (hp : room'.players.map GamePlayer.nickname =
      room.players.map GamePlayer.nickname ++ [nickname])
    (h : room.Orderly) : room'.Orderly ↔ ¬room.quiz.full room.players ∧
      ∀ p ∈ room.players, Runtime.lower p.nickname ≠ Runtime.lower nickname := by
  have hb : (∀ m ∈ room.quiz.maxParticipants, m ≠ 0 → room.players.length + 1 ≤ m) ↔
      ¬room.quiz.full room.players := by
    simp only [Quiz.full, not_exists, not_and, not_le, Nat.succ_le_iff]
  have hd : ((room.players.map GamePlayer.nickname ++ [nickname]).map Runtime.lower).Nodup ↔
      ∀ p ∈ room.players, Runtime.lower p.nickname ≠ Runtime.lower nickname := by
    rw [List.map_append, List.nodup_append, List.map_map]
    simp [h.distinct, Function.comp_def]
  rw [orderly_iff, hp, hq, hd, List.length_append, List.length_map, List.length_singleton, hb]

lemma orderly_congr {room room' : Room} (hq : room'.quiz = room.quiz)
    (hp : room'.players.map GamePlayer.nickname = room.players.map GamePlayer.nickname) :
    room'.Orderly ↔ room.Orderly := by
  rw [orderly_iff, orderly_iff, hp, hq]

lemma Orderly.commit (ho : d.Orderly roomCode) (h : d.commit changes = some e) :
    (e.Orderly roomCode ∧ ∀ p ∈ changes.newPlayer, ∀ room ∈ d.room? roomCode,
      p.sessionId = room.session.sessionId → room.session.status = .waiting) ↔
      d.InTime roomCode changes := by
  have hroom := room?_commit h roomCode
  cases hd : d.room? roomCode with
  | none =>
    have he : e.room? roomCode = none := by simpa [hd] using hroom
    simp [Orderly, InTime, hd, he]
  | some room =>
    rw [hd, Option.map_some, Option.map_eq_some_iff] at hroom
    obtain ⟨room', he, heq⟩ := hroom
    obtain ⟨-, hplayers, hquiz⟩ : _ ∧ room'.players = _ ∧ room'.quiz = _ := by simpa using heq
    have hnames : room'.players.map GamePlayer.nickname =
        (e.roster room.session.sessionId).map Prod.snd := by
      rw [hplayers, map_nickname_playersOf]
    have hold : room.players.map GamePlayer.nickname =
        (d.roster room.session.sessionId).map Prod.snd := by
      rw [players_room? hd, map_nickname_playersOf]
    have hroom : room.Orderly := ho room hd
    simp only [Orderly, InTime, hd, he, Option.mem_def, Option.some.injEq, forall_eq']
    by_cases hp : ∃ p, changes.newPlayer = some p ∧ p.sessionId = room.session.sessionId
    · obtain ⟨p, hn, hs⟩ := hp
      rw [names_of_adds h hn hs, List.map_append, ← hold] at hnames
      rw [orderly_concat hquiz hnames hroom]
      simp only [hn, Option.some.injEq, forall_eq', hs, forall_const, Room.Admits]
      tauto
    · have hp : ∀ p ∈ changes.newPlayer, p.sessionId ≠ room.session.sessionId :=
        fun p hn hs => hp ⟨p, hn, hs⟩
      rw [roster_of_not_adds h hp, ← hold] at hnames
      rw [orderly_congr hquiz hnames]
      exact iff_of_true ⟨hroom, fun p hn hs => (hp p hn hs).elim⟩ fun p hn hs => (hp p hn hs).elim

end Db

/-- What holds of a commit that goes through, in the database before it. -/
def Op.OnCommit (P : Db → Changes → Prop) (d : Db) {β : Type} : Op β → Prop
  | .commit changes => (d.commit changes).isSome → P d changes
  | _ => True

instance (P : Db → Changes → Prop) [∀ d changes, Decidable (P d changes)] (d : Db) {β : Type}
    (o : Op β) : Decidable (o.OnCommit P d) := by
  induction o using Op.casesOn with
  | commit changes => exact inferInstanceAs (Decidable ((d.commit changes).isSome → P d changes))
  | _ => exact isTrue trivial

def AtCommit (P : Db → Changes → Prop) : system.Transition → Prop
  | ⟨c, .run i⟩ => Awaits (Op.OnCommit P (State.db c.world.state)) c.procs[i]?
  | _ => True

instance (P : Db → Changes → Prop) [∀ d changes, Decidable (P d changes)] :
    DecidablePred (AtCommit P)
  | ⟨c, .run i⟩ =>
    inferInstanceAs (Decidable (Awaits (Op.OnCommit P (State.db c.world.state)) c.procs[i]?))
  | ⟨_, .spawn _⟩ | ⟨_, .fault _ _⟩ | ⟨_, .env _⟩ => isTrue trivial

lemma atCommit_iff {P : Db → Changes → Prop} {t : system.Transition} {i : ℕ} {call : Call}
    {changes : Changes} {e : Db} (h : Commits t i call changes e) :
    AtCommit P t ↔ P (State.db t.before.world.state) changes := by
  obtain ⟨c, a⟩ := t
  obtain ⟨⟨hact, k, hp⟩, hc⟩ := h
  obtain rfl : a = .run i := hact
  change Awaits (Op.OnCommit P (State.db c.world.state)) c.procs[i]? ↔ _
  rw [show c.procs[i]? = _ from hp]
  exact ⟨fun h => h (Option.isSome_iff_exists.mpr ⟨e, hc⟩), fun h _ => h⟩

lemma atCommit_of_no_commit {P : Db → Changes → Prop} {t : system.Transition}
    (h : ∀ i call changes e, ¬Commits t i call changes e) : AtCommit P t := by
  obtain ⟨c, a⟩ := t
  cases a with
  | run i =>
    change Awaits (Op.OnCommit P (State.db c.world.state)) c.procs[i]?
    cases hp : c.procs[i]? with
    | none => trivial
    | some p =>
      obtain ⟨call, r | ⟨o, k⟩⟩ := p
      · trivial
      · cases o with
        | commit changes =>
          intro hc
          obtain ⟨e, he⟩ := Option.isSome_iff_exists.mp hc
          exact (h i call changes e ⟨⟨rfl, k, hp⟩, he⟩).elim
        | _ => trivial
  | _ => trivial

abbrev JoinsInTime (roomCode : String) : system.Transition → Prop :=
  AtCommit fun d changes => d.InTime roomCode changes

/-- In every state the room is orderly, and once its status has left `waiting` nobody joins it. -/
structure RosterKept (roomCode : String) (s : State) (acts : List system.Act) : Prop where
  orderly : ∀ t ∈ transitions (start s) acts, (State.db t.after.world.state).Orderly roomCode
  frozen : ∀ as bs cs, acts = as ++ bs ++ cs →
    ∀ g ∈ (State.db (run as (start s)).world.state).sessions.get? roomCode, g.status ≠ .waiting →
      (State.db (run (as ++ bs) (start s)).world.state).roster g.sessionId =
        (State.db (run as (start s)).world.state).roster g.sessionId

namespace Roster

abbrev Prescribed (c : system.Config) : Prop :=
  c.Confined fun call => Op.Within (Call.footprint call)

structure Kept (roomCode : String) (c : system.Config) : Prop where
  confined : Prescribed c
  orderly : (State.db c.world.state).Orderly roomCode

/-- The game has left `waiting` with the roster `players`. -/
def Left (roomCode : String) (sessionId : UUID) (players : List (UUID × String)) (d : Db) : Prop :=
  (∃ g, d.sessions.get? roomCode = some g ∧ g.sessionId = sessionId ∧ g.status ≠ .waiting) ∧
    d.roster sessionId = players

variable {roomCode : String} {sessionId : UUID} {players : List (UUID × String)}

abbrev JoinsWaiting (roomCode : String) : system.Transition → Prop :=
  AtCommit fun d changes => ∀ p ∈ changes.newPlayer, ∀ room ∈ d.room? roomCode,
    p.sessionId = room.session.sessionId → room.session.status = .waiting

lemma Kept.step_iff {t : system.Transition} (h : Kept roomCode t.before) :
    (State.db t.after.world.state).Orderly roomCode ∧ JoinsWaiting roomCode t ↔
      JoinsInTime roomCode t := by
  by_cases hc : ∃ i call changes e, Commits t i call changes e
  · obtain ⟨i, call, changes, e, hc⟩ := hc
    rw [hc.db, JoinsInTime, JoinsWaiting, atCommit_iff hc, atCommit_iff hc]
    exact h.orderly.commit hc.2
  · have hc : ∀ i call changes e, ¬Commits t i call changes e :=
      fun i call changes e h => hc ⟨i, call, changes, e, h⟩
    rw [db_of_no_commit hc]
    exact iff_of_true ⟨h.orderly, atCommit_of_no_commit hc⟩ (atCommit_of_no_commit hc)

omit [Runtime] in
lemma status_flush {s : Dirty GameSession} {row : GameSession} (hs : s.current.status ≠ .waiting)
    (hrow : row.status ≠ .waiting) : (GameSession.flush s row).status ≠ .waiting := by
  simp only [GameSession.flush, changed]
  split
  · exact hrow
  · exact hs

lemma Left.step {t : system.Transition} (hc : Prescribed t.before)
    (h : Left roomCode sessionId players (State.db t.before.world.state))
    (ht : JoinsInTime roomCode t) :
    Left roomCode sessionId players (State.db t.after.world.state) := by
  by_cases hcommit : ∃ i call changes e, Commits t i call changes e
  · obtain ⟨i, call, changes, e, hcommit⟩ := hcommit
    rw [hcommit.db]
    obtain ⟨⟨g, hg, rfl, hstatus⟩, hroster⟩ := h
    obtain ⟨room, hroom, rfl⟩ := Db.exists_room? hg
    have hforward := Call.status_of_footprint (hcommit.within hc)
    constructor
    · rw [(commit_eq_some hcommit.2).2, Db.get?_flushSession, hg]
      refine ⟨_, rfl, ?_⟩
      cases hs : changes.session with
      | none => exact ⟨rfl, hstatus⟩
      | some s =>
        dsimp only
        split
        · exact ⟨rfl, status_flush (hforward s hs) hstatus⟩
        · exact ⟨rfl, hstatus⟩
    · rw [← hroster]
      apply Db.roster_of_not_adds hcommit.2
      intro p hp hsid
      exact hstatus (((atCommit_iff hcommit).mp ht) p hp room hroom hsid).1
  · rw [db_of_no_commit fun i call changes e h => hcommit ⟨i, call, changes, e, h⟩]
    exact h

lemma Left.run {c : system.Config} (hc : Prescribed c)
    (h : Left roomCode sessionId players (State.db c.world.state)) (acts : List system.Act)
    (ht : ∀ t ∈ transitions c acts, JoinsInTime roomCode t) :
    Left roomCode sessionId players (State.db (Machine.run acts c).world.state) := by
  have hrun := invariant
    (I := fun c : system.Config => Prescribed c ∧
      Left roomCode sessionId players (State.db c.world.state))
    (P := JoinsInTime roomCode)
    (fun t ht h => ⟨h.1.step code_keeps t.act, h.2.step h.1 ht⟩) ⟨hc, h⟩ acts ht
  exact hrun.2.2

/-- With the roster frozen once the status has left `waiting`, whoever is added is added before. -/
lemma joinsWaiting_of_frozen {s : State} {acts : List system.Act} (h : RosterKept roomCode s acts)
    {t : system.Transition} (ht : t ∈ transitions (start s) acts) : JoinsWaiting roomCode t := by
  obtain ⟨as, bs, hacts, hbefore⟩ := mem_transitions ht
  by_cases hc : ∃ i call changes e, Commits t i call changes e
  · obtain ⟨i, call, changes, e, hc⟩ := hc
    rw [JoinsWaiting, atCommit_iff hc]
    intro p hp room hroom hsid
    by_contra hstatus
    have hg := Db.session_room? hroom
    rw [hbefore] at hg
    have hfrozen := h.frozen as [t.act] bs (by simp [hacts]) room.session hg hstatus
    rw [run_append, run_cons, run_nil, ← hbefore] at hfrozen
    have hafter := Db.names_of_adds hc.2 hp hsid
    rw [← hc.db] at hafter
    have hlength := congrArg List.length (hafter.symm.trans hfrozen)
    simp at hlength
  · exact atCommit_of_no_commit fun i call changes e h => hc ⟨i, call, changes, e, h⟩

end Roster

lemma rosterKept_iff (s : State) (roomCode : String) (hs : s.db.Orderly roomCode)
    (acts : List system.Act) :
    RosterKept roomCode s acts ↔ ∀ t ∈ transitions (start s) acts, JoinsInTime roomCode t := by
  have hstart : Roster.Kept roomCode (start s) :=
    ⟨@confined_start _ _ _ system (fun call => Op.Within (Call.footprint call)) s, hs⟩
  have hstep : ∀ t : system.Transition, (State.db t.after.world.state).Orderly roomCode →
      Roster.Kept roomCode t.before → Roster.Kept roomCode t.after :=
    fun t ht h => ⟨h.confined.step code_keeps t.act, ht⟩
  constructor
  · intro h t ht
    have hb := ((invariant (I := Roster.Kept roomCode) hstep hstart acts h.orderly).1 t ht).1
    exact hb.step_iff.mp ⟨h.orderly t ht, Roster.joinsWaiting_of_frozen h ht⟩
  · intro h
    have hrun := invariant (I := Roster.Kept roomCode) (P := JoinsInTime roomCode)
      (fun t hj hb => hstep t (hb.step_iff.mpr hj).1 hb) hstart
    refine ⟨fun t ht => ((hrun acts h).1 t ht).2.orderly, fun as bs cs hacts g hg hstatus => ?_⟩
    subst hacts
    rw [List.append_assoc, transitions_append, transitions_append] at h
    have has := (hrun as fun t ht => h t (List.mem_append_left _ ht)).2
    have hleft : Roster.Left roomCode g.sessionId _ (State.db (run as (start s)).world.state) :=
      ⟨⟨g, hg, rfl, hstatus⟩, rfl⟩
    rw [run_append]
    exact (hleft.run has.confined bs fun t ht =>
      h t (List.mem_append_right _ (List.mem_append_left _ ht))).2

def roomLoaded (l : List (Event Op Exn)) : Option Room :=
  l.foldl (fun loaded ev => match ev with
    | ⟨_, .getRoom _, .ok room⟩ => room
    | _ => loaded) none

def Room.Unchanged (loaded room : Room) : Prop :=
  room.session.status = loaded.session.status ∧ room.quiz = loaded.quiz ∧
    room.players.map GamePlayer.nickname = loaded.players.map GamePlayer.nickname

instance (loaded room : Room) : Decidable (loaded.Unchanged room) :=
  inferInstanceAs (Decidable (room.session.status = loaded.session.status ∧
    room.quiz = loaded.quiz ∧
      room.players.map GamePlayer.nickname = loaded.players.map GamePlayer.nickname))

/-- The room to which the commit adds a player is as it was loaded. -/
def Db.Undisturbed (d : Db) (roomCode : String) (loaded : Option Room) (changes : Changes) : Prop :=
  ∀ p ∈ changes.newPlayer, ∀ room ∈ d.room? roomCode, p.sessionId = room.session.sessionId →
    ∃ read ∈ loaded, read.Unchanged room

instance (d : Db) (roomCode : String) (loaded : Option Room) (changes : Changes) :
    Decidable (d.Undisturbed roomCode loaded changes) :=
  inferInstanceAs (Decidable (∀ p ∈ changes.newPlayer, ∀ room ∈ d.room? roomCode,
    p.sessionId = room.session.sessionId → ∃ read ∈ loaded, read.Unchanged room))

/-- Between the load of a join and its commit nothing has been committed that the load would have
shown. -/
def JoinsUndisturbed (roomCode : String) : system.Transition → Prop
  | ⟨c, .run i⟩ => Awaits (Op.OnCommit (fun d changes =>
      d.Undisturbed roomCode (roomLoaded (own i c.world.history)) changes)
        (State.db c.world.state)) c.procs[i]?
  | _ => True

instance (roomCode : String) : DecidablePred (JoinsUndisturbed roomCode)
  | ⟨c, .run i⟩ => inferInstanceAs (Decidable (Awaits (Op.OnCommit (fun d changes =>
      d.Undisturbed roomCode (roomLoaded (own i c.world.history)) changes)
        (State.db c.world.state)) c.procs[i]?))
  | ⟨_, .spawn _⟩ | ⟨_, .fault _ _⟩ | ⟨_, .env _⟩ => isTrue trivial

namespace Roster

variable {i : ℕ} {l : List (Event Op Exn)}

lemma Unchanged.admits {loaded room : Room} (h : loaded.Unchanged room) {nickname : String}
    (ha : loaded.Admits nickname) : room.Admits nickname := by
  obtain ⟨hstatus, hquiz, hnames⟩ := h
  obtain ⟨hwaiting, hfull, hfree⟩ := ha
  have hlength : room.players.length = loaded.players.length := by
    simpa using congrArg List.length hnames
  refine ⟨hstatus.trans hwaiting, ?_, ?_⟩
  · rwa [hquiz, Quiz.full, hlength]
  · intro p hp
    have hname : p.nickname ∈ loaded.players.map GamePlayer.nickname :=
      hnames ▸ List.mem_map_of_mem hp
    obtain ⟨q, hq, hpq⟩ := List.mem_map.mp hname
    exact hpq ▸ hfree q hq

/-- Whoever is added has passed the checks of `join_room` on the room that was loaded last. -/
def Vetted (l : List (Event Op Exn)) : Event Op Exn → Prop
  | ⟨_, .commit changes, _⟩ => ∀ p ∈ changes.newPlayer, ∃ room ∈ roomLoaded l,
  room.Admits p.nickname
  | _ => True

abbrev Follows (i : ℕ) {α : Type} (x : Handler α) (l : List (Event Op Exn)) : Prop :=
  x.Follows system.Answers i Vetted (fun _ _ => True) l

lemma joinRoom_follows (roomCode nickname : String) (user : Option UUID) :
    Follows i (joinRoom roomCode nickname user) l := by
  apply Coro.Follows.perform_bind (fun _ _ => trivial) _ fun _ => trivial
  intro room _
  cases room with
  | none => trivial
  | some room =>
    apply Coro.Follows.require_bind _ fun _ => trivial
    intro hwaiting
    apply Coro.Follows.require_bind _ fun _ => trivial
    intro _
    apply Coro.Follows.require_bind _ fun _ => trivial
    intro hfull
    apply Coro.Follows.require_bind _ fun _ => trivial
    intro hfree
    apply Coro.Follows.perform_bind (fun _ _ => trivial) _ fun _ => trivial
    intro playerId _
    have hadmits : room.Admits nickname := ⟨hwaiting, hfull, hfree⟩
    apply Coro.Follows.perform_bind _ _ fun _ => trivial
    · rintro r - p ⟨⟩
      exact ⟨room, by simp [roomLoaded], hadmits⟩
    · intro _ _
      exact Coro.Follows.perform_bind (fun _ _ => trivial) (fun _ _ => trivial) fun _ => trivial

lemma code_follows (call : Call) : Follows i (code call) [] := by
  by_cases hc : ∃ roomCode nickname user, call = .joinRoom roomCode nickname user
  · obtain ⟨roomCode, nickname, user, rfl⟩ := hc
    apply Coro.Follows.bind (joinRoom_follows roomCode nickname user) _ fun _ _ _ => trivial
    intro player l _
    apply Coro.Follows.perform_bind (fun _ _ => trivial) _ fun _ => trivial
    exact fun _ _ => Coro.Follows.perform fun _ _ => ⟨trivial, trivial⟩
  · refine Coro.Follows.of_all (A := fun _ => True) (code_keeps call)
      (fun o r l ho _ _ => ?_) trivial
    refine ⟨?_, trivial⟩
    cases o with
    | commit changes =>
      have hnone := Call.newPlayer_of_footprint ho fun roomCode nickname user h =>
        hc ⟨roomCode, nickname, user, h⟩
      intro p hp
      rw [hnone] at hp
      cases hp
    | _ => trivial

abbrev Traced (c : system.Config) : Prop := Config.Traced (fun _ => Vetted) (fun _ _ _ => True) c

lemma Traced.inTime {t : system.Transition} (h : Traced t.before) {roomCode : String}
    (hu : JoinsUndisturbed roomCode t) : JoinsInTime roomCode t := by
  by_cases hc : ∃ i call changes e, Commits t i call changes e
  · obtain ⟨i, call, changes, e, hc⟩ := hc
    rw [JoinsInTime, atCommit_iff hc]
    obtain ⟨c, a⟩ := t
    obtain ⟨⟨hact, k, hp⟩, hcommit⟩ := hc
    obtain rfl : a = .run i := hact
    intro p hn room hroom hsid
    have hvetted := (h.rest i _ hp (.error .failure) nofun).1
    obtain ⟨read, hread, hadmits⟩ := hvetted p hn
    change Awaits _ c.procs[i]? at hu
    rw [show c.procs[i]? = _ from hp] at hu
    obtain ⟨read', hread', hunchanged⟩ :=
      hu (Option.isSome_iff_exists.mpr ⟨e, hcommit⟩) p hn room hroom hsid
    obtain rfl : read = read' := Option.mem_unique hread hread'
    exact Unchanged.admits hunchanged hadmits
  · exact atCommit_of_no_commit fun i call changes e h => hc ⟨i, call, changes, e, h⟩

end Roster

/-- A room whose joins commit undisturbed stays within its bound, free of double nicknames and as it
was at the start of the game. -/
theorem undisturbed_joins_keep_roster (s : State) (roomCode : String) (hs : s.db.Orderly roomCode)
    (acts : List system.Act) (hu : ∀ t ∈ transitions (start s) acts, JoinsUndisturbed roomCode t) :
    RosterKept roomCode s acts := by
  have hrun := invariant (I := fun c : system.Config => c.Labelled ∧ Roster.Traced c)
    (P := fun _ => True) (fun t _ h =>
      ⟨h.1.step t.act, h.2.step h.1 (fun _ => Roster.code_follows) t.act⟩)
    (c := start s) ⟨labelled_start s, @traced_start _ _ _ system (fun _ => Roster.Vetted)
      (fun _ _ _ => True) s⟩ acts fun _ _ => trivial
  exact (rosterKept_iff s roomCode hs acts).mpr fun t ht => (hrun.1 t ht).1.2.inTime (hu t ht)

end

section Sample

attribute [local instance] Runtime.ascii

/-- Two guests join, one after the other, and the host starts the game. -/
def joinedRun : List system.Act :=
  .spawn (Call.joinRoom "ABCDEF" "Cleo" none) :: runs 0 6 ++
    .spawn (Call.joinRoom "ABCDEF" "Dan" none) :: runs 1 6 ++
    .spawn (Call.hostFrames "ABCDEF" "host" [.startGame]) :: runs 2 12

theorem undisturbed_joins_keep_roster_joined : RosterKept "ABCDEF" Sample.state joinedRun :=
  undisturbed_joins_keep_roster Sample.state "ABCDEF" (by decide +kernel) joinedRun
    (by decide +kernel)

/-- Two guests with one nickname both load the room before one of them is in. -/
def doubleRun : List system.Act :=
  .spawn (Call.joinRoom "ABCDEF" "Cleo" none) :: .spawn (Call.joinRoom "ABCDEF" "cleo" none) ::
    (runs 0 1 ++ runs 1 1 ++ runs 0 5 ++ runs 1 1)

theorem nickname_is_taken_twice :
    Sample.state.db.Orderly "ABCDEF" ∧ (∀ a ∈ doubleRun ++ [.run 1], Faithful a) ∧
      ¬RosterKept "ABCDEF" Sample.state (doubleRun ++ [.run 1]) := by
  refine ⟨by decide +kernel, by decide +kernel, fun h => ?_⟩
  have hlast := after_last (P := fun c : system.Config =>
    (State.db c.world.state).Orderly "ABCDEF") h.orderly
  exact absurd hlast (by decide +kernel)

end Sample

end Askit.Game

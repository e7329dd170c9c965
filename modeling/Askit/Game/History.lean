import Askit.Game.Services
import Askit.Interleaving.Sequential
import Askit.Sorting.Ranking
import Mathlib.Data.Prod.Lex
import Mathlib.Data.String.Basic

/-! The history of the games that a user has hosted or played, and its pages. -/

namespace Askit.Game

open Interleaving Coro Tables

/-- The database with the keys that the history relies on. -/
structure Archive where
  db : Db
  sessionIds_nodup : (db.sessions.rows.map GameSession.sessionId).Nodup
  sessionId_fk : ∀ p ∈ db.players.rows, p.sessionId ∈ db.sessions.rows.map GameSession.sessionId

/-- The rows as the queries of one request return them, none of which has an order. -/
structure Rows (d : Db) where
  sessions : List GameSession
  entries : List GamePlayer
  players : UUID → List GamePlayer
  sessions_perm : sessions.Perm d.sessions.rows
  entries_perm : entries.Perm d.players.rows
  players_perm : ∀ sessionId, (players sessionId).Perm (d.playersOf sessionId)

inductive Role
  | host
  | player
  deriving DecidableEq, Repr

def Role.value : Role → String
  | .host => "host"
  | .player => "player"

structure GameHistoryItem where
  sessionId : String
  roomCode : String
  quizId : String
  quizTitle : String
  role : Role
  score : Option ℤ
  rank : Option ℕ
  totalPlayers : ℕ
  startedAt : Option Time
  endedAt : Option Time
  status : GameSessionStatus
  deriving DecidableEq, Repr

structure GameHistoryOut where
  items : List GameHistoryItem
  total : ℕ
  deriving DecidableEq, Repr

def datetimeMin : Time := -62135596800000000

def GameHistoryItem.sortKey (x : GameHistoryItem) : Lex (Time × Lex (String × String)) :=
  toLex (x.startedAt.getD datetimeMin, toLex (x.sessionId, x.role.value))

def sortItems (items : List GameHistoryItem) : List GameHistoryItem :=
  items.insertionSort fun a b => b.sortKey ≤ a.sortKey

namespace Archive

variable (a : Archive) (rows : Rows a.db) (user : UUID)

def quizTitle (quizId : UUID) : String := ((a.db.quizzes.table.get? quizId).map Quiz.title).getD ""

def session? (sessionId : UUID) : Option GameSession :=
  a.db.sessions.rows.find? fun s => s.sessionId = sessionId

def hostItem (session : GameSession) : GameHistoryItem :=
  ⟨session.sessionId, session.roomCode, session.quizId, a.quizTitle session.quizId,
    .host, none, none,
    (rows.players session.sessionId).length, session.startedAt, session.endedAt, session.status⟩

def playerItem (session : GameSession) (player : GamePlayer) : GameHistoryItem :=
  let sortedPlayers := sortByScore (rows.players session.sessionId)
  let rank := (sortedPlayers.findIdx? fun p => p.playerId = player.playerId).map (· + 1)
  ⟨session.sessionId, session.roomCode, session.quizId, a.quizTitle session.quizId, .player,
    some player.score,
    rank, (rows.players session.sessionId).length, session.startedAt, session.endedAt,
    session.status⟩

def hostSessions : List GameSession :=
  rows.sessions.filter fun s => s.hostId = user ∧ s.status = .finished

def playerEntries : List (GameSession × GamePlayer) :=
  rows.entries.filterMap fun p =>
    if p.userId = some user then
      ((a.session? p.sessionId).filter fun s => s.status = .finished).map fun s => (s, p)
    else none

def historyItems (role : Option Role) : List GameHistoryItem :=
  let hosted := if role ≠ some .player then (a.hostSessions rows user).map (a.hostItem rows) else []
  let played := if role ≠ some .host then (a.playerEntries rows user).map fun e =>
    a.playerItem rows e.1 e.2
    else []
  hosted ++ played

def getGameHistory (limit offset : ℕ) (role : Option Role) : GameHistoryOut :=
  let items := sortItems (a.historyItems rows user role)
  ⟨(items.drop offset).take limit, items.length⟩

end Archive

structure Shuffled (d e : Db) : Prop where
  quizzes : e.quizzes.table.rows.Perm d.quizzes.table.rows
  sessions : e.sessions.rows.Perm d.sessions.rows
  players : e.players.rows.Perm d.players.rows
  answers : e.answers.rows.Perm d.answers.rows

/-- The rank of the player in the leaderboard of `GAME_FINISHED`, as `end_game` builds it and as a
reconnect builds it again. -/
def finalRank [Runtime] (s : State) (roomCode : String) (playerId : UUID) : Option ℕ :=
  match ((buildGameFinished roomCode).alone exec s).1 with
  | .ok (some (_, finished)) =>
    (finished.finalLeaderboard.find? fun e => e.playerId = playerId).map WSLeaderboardEntry.rank
  | _ => none

/-- In whatever order rows are returned, the history shows the player's game with the rank that the
final leaderboard gives. -/
def RanksAgree [Runtime] (a : Archive) (g : GameSession) (p : GamePlayer) (user : UUID)
    (roomCode : String) :
    Prop :=
  ∀ (rows : Rows a.db) (s : State), Shuffled a.db s.db →
    (∃ offset, a.playerItem rows g p ∈ (a.getGameHistory rows user 1 offset none).items) ∧
      (a.playerItem rows g p).rank = finalRank s roomCode p.playerId

namespace History

def rankIn (players : List GamePlayer) (playerId : UUID) : Option ℕ :=
  ((sortByScore players).findIdx? fun p => p.playerId = playerId).map (· + 1)

section Ranks

variable {players before after : List GamePlayer} {p q : GamePlayer}

lemma find?_mapIdx {α β : Type} (rank : β → ℕ) {here : α → Bool} {there : β → Bool}
    {f : ℕ → α → β} {k : ℕ} (hf : ∀ i a, there (f i a) = here a)
    (hrank : ∀ i a, rank (f i a) = i + k) (l : List α) :
    ((l.mapIdx f).find? there).map rank = (l.findIdx? here).map (· + k) := by
  induction l generalizing f k with
  | nil => rfl
  | cons a l ih =>
    rw [List.mapIdx_cons, List.find?_cons, List.findIdx?_cons, hf]
    cases here a with
    | true => simp [hrank]
    | false =>
      have hnext := ih (f := fun i => f (i + 1)) (k := k + 1) (fun i a => hf (i + 1) a)
        fun i a => by rw [hrank]; omega
      simp only [hnext, Bool.false_eq_true, if_false, Option.map_map, Function.comp_def]
      congr 1
      funext i
      omega

lemma rank_leaderboardEntries (prevRanking : List (UUID × ℕ)) (players : List GamePlayer)
    (playerId : UUID) :
    ((leaderboardEntries prevRanking (sortByScore players)).find? fun e =>
      e.playerId = playerId).map
      WSLeaderboardEntry.rank = rankIn players playerId := by
  rw [leaderboardEntries, rankIn]
  apply find?_mapIdx WSLeaderboardEntry.rank
  · exact fun _ _ => rfl
  · exact fun _ _ => rfl

lemma findIdx?_split (hn : ((before ++ p :: after).map GamePlayer.playerId).Nodup) :
    (before ++ p :: after).findIdx? (fun q => q.playerId = p.playerId) = some before.length := by
  induction before with
  | nil => simp [List.findIdx?_cons]
  | cons q before ih =>
    rw [List.cons_append, List.map_cons, List.nodup_cons] at hn
    have hne : q.playerId ≠ p.playerId := fun h => hn.1 (h ▸ List.mem_map_of_mem (by simp))
    rw [List.cons_append, List.findIdx?_cons, ih hn.2]
    simp [hne]

lemma nodup_sortByScore (hn : (players.map GamePlayer.playerId).Nodup) :
    ((sortByScore players).map GamePlayer.playerId).Nodup :=
  ((sortByScore_perm players).map _).nodup_iff.mpr hn

lemma rankIn_untied (hn : (players.map GamePlayer.playerId).Nodup) (hp : p ∈ players)
    (hu : ∀ q ∈ players, q.score = p.score → q = p) :
    rankIn players p.playerId = some ((players.countP fun q => p.score < q.score) + 1) := by
  obtain ⟨before, after, hsplit⟩ := List.append_of_mem ((sortByScore_perm players).mem_iff.mpr hp)
  have hsorted : (sortByScore players).Pairwise fun a b => b.score ≤ a.score :=
    Sorting.pairwise_insertionSort_key GamePlayer.score players
  have hids := nodup_sortByScore hn
  have hrows := List.Nodup.of_map _ hids
  rw [hsplit] at hsorted hids hrows
  have hties : ∀ q ∈ before ++ after, q.score ≠ p.score := by
    intro q hq hs
    have hmem : q ∈ players := by
      apply (sortByScore_perm players).mem_iff.mp
      rw [hsplit]
      rcases List.mem_append.mp hq with hq | hq <;> simp [hq]
    rw [hu q hmem hs] at hq
    exact (List.nodup_middle.mp hrows).notMem hq
  rw [rankIn, hsplit, findIdx?_split hids, Sorting.length_eq_countP hsorted hties, ← hsplit,
    (sortByScore_perm players).countP_eq]
  rfl

lemma rankIn_tied (hn : ((p :: q :: players).map GamePlayer.playerId).Nodup)
    (hs : p.score = q.score) :
    rankIn (p :: q :: players) p.playerId ≠ rankIn (q :: p :: players) p.playerId := by
  obtain ⟨before, after, hp, hq⟩ := Sorting.insertionSort_ties GamePlayer.score hs [] players
  have hn' : ((q :: p :: players).map GamePlayer.playerId).Nodup :=
    ((List.Perm.swap q p players).map _).nodup_iff.mp hn
  have hids := nodup_sortByScore hn
  have hids' := nodup_sortByScore hn'
  have hsp : sortByScore (p :: q :: players) = before ++ p :: q :: after := hp
  have hsq : sortByScore (q :: p :: players) = (before ++ [q]) ++ p :: after := by
    rw [List.append_assoc]
    exact hq
  rw [rankIn, rankIn, hsp, hsq] 
  rw [hsp] at hids
  rw [hsq] at hids'
  rw [findIdx?_split hids, findIdx?_split hids']
  simp

end Ranks

section Final

variable [Runtime] {s : State} {roomCode : String} {g : GameSession} {room : Room}

lemma getLeaderboard_alone (h : exec (.getRoom roomCode) s = (.ok (some room), s)) :
    ∃ t prevRanking, (getLeaderboard roomCode).alone exec s =
      (.ok (some room, leaderboardEntries prevRanking (sortByScore room.players)), t) := by
  rw [getLeaderboard, alone_perform_bind h]
  exact ⟨_, _, rfl⟩

lemma finalRank_of_room (h : exec (.getRoom roomCode) s = (.ok (some room), s)) (playerId : UUID) :
    finalRank s roomCode playerId = rankIn room.players playerId := by
  obtain ⟨t, prevRanking, hboard⟩ := getLeaderboard_alone h
  rw [finalRank, buildGameFinished, alone_perform_bind h, alone_bind_ok hboard]
  exact rank_leaderboardEntries prevRanking room.players playerId

lemma finalRank_eq (hg : s.db.sessions.get? (Runtime.upper roomCode) = some g) (playerId : UUID) :
    finalRank s roomCode playerId = rankIn (s.db.playersOf g.sessionId) playerId := by
  obtain ⟨quiz, hquiz, hid⟩ := List.mem_map.mp (s.db.quizId_fk g (Table.mem_get? hg))
  have hroom : s.db.room? (Runtime.upper roomCode) = some ⟨g, s.db.playersOf g.sessionId,
      quiz.loaded⟩ := by
    simp [Db.room?, hg, ← hid, Table.get?_of_mem hquiz]
  have hread : exec (.getRoom roomCode) s =
      (.ok (some ⟨g, s.db.playersOf g.sessionId, quiz.loaded⟩), s) := by simp [exec, hroom]
  exact finalRank_of_room hread playerId

end Final

section Shown

variable {a : Archive} {rows : Rows a.db} {user : UUID} {g : GameSession} {p : GamePlayer}

lemma session?_eq_some {sessionId : UUID} : a.session? sessionId = some g ↔
    g ∈ a.db.sessions.rows ∧ g.sessionId = sessionId :=
  Table.get?_eq_some (t := (⟨a.db.sessions.rows, a.sessionIds_nodup⟩ : Table GameSession.sessionId))

lemma mem_playerEntries : (g, p) ∈ a.playerEntries rows user ↔ p ∈ a.db.players.rows ∧
    p.userId = some user ∧
    g ∈ a.db.sessions.rows ∧ g.sessionId = p.sessionId ∧ g.status = .finished := by
  simp only [Archive.playerEntries, List.mem_filterMap]
  constructor
  · rintro ⟨q, hq, h⟩
    split at h
    · next hu =>
      obtain ⟨g', hg', heq⟩ := Option.map_eq_some_iff.mp h
      cases heq
      obtain ⟨hs, hf⟩ := Option.filter_eq_some_iff.mp hg'
      obtain ⟨hmem, hid⟩ := session?_eq_some.mp hs
      exact ⟨rows.entries_perm.mem_iff.mp hq, hu, hmem, hid, by simpa using hf⟩
    · cases h
  · rintro ⟨hp, hu, hg, hid, hf⟩
    refine ⟨p, rows.entries_perm.mem_iff.mpr hp, ?_⟩
    rw [if_pos hu, session?_eq_some.mpr ⟨hg, hid⟩, Option.filter_some, if_pos (by simpa using hf)]
    rfl

lemma sortItems_perm (items : List GameHistoryItem) : (sortItems items).Perm items :=
  List.perm_insertionSort _ items

lemma exists_page {item : GameHistoryItem} {role : Option Role}
    (h : item ∈ a.historyItems rows user role) :
    ∃ offset, item ∈ (a.getGameHistory rows user 1 offset role).items := by
  obtain ⟨before, after, hsplit⟩ := List.append_of_mem ((sortItems_perm _).mem_iff.mpr h)
  refine ⟨before.length, ?_⟩
  simp [Archive.getGameHistory, hsplit]

lemma nodup_playersOf (d : Db) (sessionId : UUID) :
    ((d.playersOf sessionId).map GamePlayer.playerId).Nodup :=
  d.players.unique.sublist (List.filter_sublist.map _)

lemma playersOf_perm {d e : Db} (h : Shuffled d e) (sessionId : UUID) :
    (e.playersOf sessionId).Perm (d.playersOf sessionId) :=
  h.players.filter _

lemma session_shuffled {d e : Db} (h : Shuffled d e) (hg : g ∈ d.sessions.rows) :
    e.sessions.get? g.roomCode = some g :=
  Table.get?_of_mem (h.sessions.mem_iff.mpr hg)

def reordered (d : Db) (rows : List GamePlayer) (h : rows.Perm d.players.rows) : Db :=
  { d with players := ⟨rows, (h.map _).nodup_iff.mpr d.players.unique⟩ }

lemma shuffled_reordered (d : Db) (rows : List GamePlayer) (h : rows.Perm d.players.rows) :
    Shuffled d (reordered d rows h) := ⟨.refl _, .refl _, h, .refl _⟩

def rowsOf (d : Db) (entries : List GamePlayer) (players : List GamePlayer)
    (he : entries.Perm d.players.rows) (hp : players.Perm d.players.rows) : Rows d where
  sessions := d.sessions.rows
  entries := entries
  players sessionId := players.filter fun p => p.sessionId = sessionId
  sessions_perm := .refl _
  entries_perm := he
  players_perm _ := hp.filter _

def stateOf (d : Db) : State :=
  ⟨d, ⟨fun _ => none, fun _ => none, fun _ _ => [], fun _ => none, fun _ => none⟩,
    ⟨fun _ => [], [], fun _ => none, fun _ => none, false⟩, 0, 0, []⟩

lemma perm_front {l : List GamePlayer} {p q : GamePlayer} (hp : p ∈ l) (hq : q ∈ l) (hne : p ≠ q) :
    (p :: q :: (l.erase p).erase q).Perm l ∧ (q :: p :: (l.erase p).erase q).Perm l := by
  have hrest : (q :: (l.erase p).erase q).Perm (l.erase p) :=
    (List.perm_cons_erase ((List.mem_erase_of_ne (Ne.symm hne)).mpr hq)).symm
  have hfront : (p :: q :: (l.erase p).erase q).Perm l :=
    (hrest.cons p).trans (List.perm_cons_erase hp).symm
  exact ⟨hfront, (List.Perm.swap p q _).trans hfront⟩

end Shown

end History

open History in
/-- The history and the final leaderboard show a registered player of a finished session the same
rank in every order of the rows, if and only if no other player of the session has the same
score. -/
theorem ranks_agree_iff [Runtime] (a : Archive) (g : GameSession) (p : GamePlayer) (user : UUID)
    (roomCode : String) (hg : g ∈ a.db.sessions.rows) (hf : g.status = .finished)
    (hr : Runtime.upper roomCode = g.roomCode) (hp : p ∈ a.db.playersOf g.sessionId)
    (hu : p.userId = some user) : RanksAgree a g p user roomCode ↔
      ∀ q ∈ a.db.playersOf g.sessionId, q.score = p.score → q = p := by
  obtain ⟨hrow, hs⟩ : p ∈ a.db.players.rows ∧ p.sessionId = g.sessionId := by
    simpa [Db.playersOf] using hp
  constructor
  · intro h q hq hscore
    by_contra hne
    obtain ⟨hqrow, hqs⟩ : q ∈ a.db.players.rows ∧ q.sessionId = g.sessionId := by
      simpa [Db.playersOf] using hq
    obtain ⟨hfirst, hsecond⟩ := perm_front hrow hqrow (Ne.symm hne)
    generalize (a.db.players.rows.erase p).erase q = rest at hfirst hsecond
    have hpq : (p :: q :: rest).filter (fun r => r.sessionId = g.sessionId) =
        p :: q :: rest.filter fun r => r.sessionId = g.sessionId := by simp [hs, hqs]
    have hqp : (q :: p :: rest).filter (fun r => r.sessionId = g.sessionId) =
        q :: p :: rest.filter fun r => r.sessionId = g.sessionId := by simp [hs, hqs]
    have hfinal : (stateOf (reordered a.db _ hsecond)).db.sessions.get?
        (Runtime.upper roomCode) = some g :=
      hr ▸ session_shuffled (shuffled_reordered a.db _ hsecond) hg
    have hrank : rankIn ((p :: q :: rest).filter fun r => r.sessionId = g.sessionId) p.playerId =
        rankIn ((q :: p :: rest).filter fun r => r.sessionId = g.sessionId) p.playerId :=
      (h (rowsOf a.db a.db.players.rows _ (.refl _) hfirst) (stateOf (reordered a.db _ hsecond))
        (shuffled_reordered a.db _ hsecond)).2.trans (finalRank_eq hfinal p.playerId)
    have hids : (((p :: q :: rest).filter fun r => r.sessionId = g.sessionId).map
        GamePlayer.playerId).Nodup :=
      nodup_playersOf (reordered a.db _ hfirst) g.sessionId
    rw [hpq] at hids hrank
    rw [hqp] at hrank
    exact rankIn_tied hids hscore.symm hrank
  · intro h rows t hshuffled
    have hshown : a.playerItem rows g p ∈ a.historyItems rows user none := by
      have hentry : (g, p) ∈ a.playerEntries rows user :=
        mem_playerEntries.mpr ⟨hrow, hu, hg, hs.symm, hf⟩
      simp only [Archive.historyItems]
      exact List.mem_append_right _ (List.mem_map_of_mem hentry)
    refine ⟨exists_page hshown, ?_⟩
    have hfinal : t.db.sessions.get? (Runtime.upper roomCode) = some g :=
      hr ▸ session_shuffled hshuffled hg
    have hplayers := playersOf_perm hshuffled g.sessionId
    have hrows := rows.players_perm g.sessionId
    have hids := nodup_playersOf a.db g.sessionId
    have hhistory : (a.playerItem rows g p).rank =
        rankIn (rows.players g.sessionId) p.playerId := rfl
    rw [finalRank_eq hfinal, hhistory,
      rankIn_untied ((hrows.map _).nodup_iff.mpr hids) (hrows.mem_iff.mpr hp)
        fun q hq => h q (hrows.mem_iff.mp hq),
      rankIn_untied ((hplayers.map _).nodup_iff.mpr hids) (hplayers.mem_iff.mpr hp)
        fun q hq => h q (hplayers.mem_iff.mp hq), hrows.countP_eq, hplayers.countP_eq]

section Sample

attribute [local instance] Runtime.ascii

namespace Sample

def finished : GameSession :=
  ⟨"session", "ABCDEF", "quiz", "host", false, false, false, true, .finished, 2, some 0,
    some 90000000⟩

def played (players : List GamePlayer) (h : (players.map GamePlayer.playerId).Nodup)
    (hfk : ∀ p ∈ players, p.sessionId ∈ ["session"]) : Archive where
  db := ⟨⟨⟨[⟨"quiz", "Quiz", none, []⟩], by decide⟩, by decide⟩,
    ⟨[finished], by decide⟩, ⟨players, h⟩, Table.empty, by decide⟩
  sessionIds_nodup := List.nodup_singleton _
  sessionId_fk := hfk

def ann : GamePlayer := ⟨"p1", "session", "Ann", some "ann", 700, true⟩

def ben : GamePlayer := ⟨"p2", "session", "Ben", some "ben", 900, true⟩

def untied : Archive := played [ann, ben] (by decide) (by decide)

def tied : Archive := played [ann, { ben with score := 700 }] (by decide) (by decide)

lemma swapped : [{ ben with score := 700 }, ann].Perm tied.db.players.rows := List.Perm.swap _ _ _

end Sample

theorem ranks_agree_untied : RanksAgree Sample.untied Sample.finished Sample.ann "ann" "abcdef" :=
  (ranks_agree_iff Sample.untied Sample.finished Sample.ann "ann" "abcdef" (by decide)
    rfl (by decide)
    (by decide) rfl).mpr (by decide)

/-- The leaderboard query returns the players as they joined, and that of the history the other way
round. -/
theorem ranks_differ_tied : ¬RanksAgree Sample.tied Sample.finished Sample.ann "ann" "ABCDEF" := by
  intro h
  have hrank := (h (History.rowsOf Sample.tied.db _ _ Sample.swapped Sample.swapped)
    (History.stateOf Sample.tied.db)
    ⟨.refl _, .refl _, .refl _, .refl _⟩).2
  exact absurd hrank (by decide +kernel)

end Sample

end Askit.Game

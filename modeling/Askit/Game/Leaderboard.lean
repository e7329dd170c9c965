import Askit.Codec.Objects
import Askit.Game.History

/-! What `get_leaderboard` returns and keeps for the next call. -/

namespace Askit.Game

open Interleaving Coro

/-- The dictionary that is kept from one call to the next, as JSON. -/
def ranking (entries : List WSLeaderboardEntry) : List (UUID × ℕ) :=
  entries.map fun e => (e.playerId, e.rank)

/-- The players in the order of their points, each once, and in the order in which they were loaded
where they tie. -/
structure Ranked (players : List GamePlayer) (entries : List WSLeaderboardEntry) : Prop where
  each : (entries.map fun e => (e.playerId, e.nickname, e.score)).Perm
    (players.map fun p => (p.playerId, p.nickname, p.score))
  once : (entries.map WSLeaderboardEntry.playerId).Nodup
  ranks : entries.map WSLeaderboardEntry.rank = List.range' 1 players.length
  scores : entries.Pairwise fun a b => b.score ≤ a.score
  ties : ∀ score, (entries.filter (·.score = score)).map WSLeaderboardEntry.playerId =
    (players.filter (·.score = score)).map GamePlayer.playerId

/-- A call of `get_leaderboard` for a room that exists. -/
structure LeaderboardCall [Runtime] (roomCode : String) where
  before : State
  room : Room
  entries : List WSLeaderboardEntry
  after : State
  ran : (getLeaderboard roomCode).alone exec before = (.ok (some room, entries), after)

namespace Leaderboard

def place (order : List GamePlayer) (playerId : UUID) :
    ℕ := (order.map GamePlayer.playerId).idxOf playerId + 1

def entry (prevRanking : List (UUID × ℕ)) (order : List GamePlayer) (p : GamePlayer) :
    WSLeaderboardEntry :=
  ⟨place order p.playerId, p.playerId, p.nickname, p.score,
    ((prevRanking.lookup p.playerId).getD (place order p.playerId) : ℕ) -
    (place order p.playerId : ℤ)⟩

section Entries

variable {players order order₀ : List GamePlayer} {prevRanking : List (UUID × ℕ)}

lemma leaderboardEntries_eq (h : (order.map GamePlayer.playerId).Nodup) :
    leaderboardEntries prevRanking order = order.map (entry prevRanking order) := by
  apply List.ext_getElem
  · simp [leaderboardEntries]
  · intro i hi hi'
    have hlength : i < order.length := by simpa using hi'
    have hplace : place order order[i].playerId = i + 1 := by
      have hidx := h.idxOf_getElem i (by simpa using hi')
      rw [List.getElem_map] at hidx
      rw [place, hidx]
    simp [leaderboardEntries, entry, hplace]

lemma lookup_places (f : UUID → ℕ) (ids : List UUID) (playerId : UUID) :
    (ids.map fun x => (x, f x)).lookup playerId = if playerId ∈ ids then some (f playerId)
      else none := by
  induction ids with
  | nil => rfl
  | cons x ids ih =>
    rw [List.map_cons, List.lookup_cons, ih]
    by_cases h : playerId = x
    · simp [h]
    · rw [beq_eq_false_iff_ne.mpr h]
      simp [h]

lemma ranking_entries (order : List GamePlayer) :
    ranking (order.map (entry prevRanking order)) =
      (order.map GamePlayer.playerId).map fun x => (x, place order x) := by
  rw [ranking, List.map_map, List.map_map]
  rfl

lemma change_entry {p : GamePlayer} (hp : p.playerId ∈ order₀.map GamePlayer.playerId) :
    (entry (ranking (order₀.map (entry prevRanking order₀))) order p).change =
      place order₀ p.playerId - place order p.playerId := by
  rw [entry, ranking_entries, lookup_places, if_pos hp]
  rfl

lemma ranked_entries (prevRanking : List (UUID × ℕ)) (h : (players.map GamePlayer.playerId).Nodup) :
    Ranked players ((sortByScore players).map (entry prevRanking (sortByScore players))) where
  each := by
    rw [List.map_map]
    exact (sortByScore_perm players).map _
  once := by
    rw [List.map_map]
    exact History.nodup_sortByScore h
  ranks := by
    have hids := History.nodup_sortByScore h
    have hplaces : (sortByScore players).map (fun p => place (sortByScore players) p.playerId) =
        (((sortByScore players).map GamePlayer.playerId).map
          ((sortByScore players).map GamePlayer.playerId).idxOf).map (· + 1) := by
      rw [List.map_map, List.map_map]
      rfl
    have hlength : ((sortByScore players).map GamePlayer.playerId).length = players.length := by
      rw [List.length_map, (sortByScore_perm players).length_eq]
    rw [List.map_map]
    refine hplaces.trans ?_
    rw [Sorting.map_idxOf hids, hlength, List.range'_eq_map_range]
    exact List.map_congr_left fun i _ => Nat.add_comm i 1
  scores := List.pairwise_map.mpr (Sorting.pairwise_insertionSort_key GamePlayer.score players)
  ties score := by
    rw [List.filter_map, List.map_map]
    exact congrArg (List.map GamePlayer.playerId)
      (Sorting.filter_insertionSort GamePlayer.score score players)

lemma sum_change (hids : (order₀.map GamePlayer.playerId).Nodup)
    (hperm : (order₀.map GamePlayer.playerId).Perm (order.map GamePlayer.playerId)) :
    ((order.map (entry (ranking (order₀.map (entry prevRanking order₀))) order)).map
      WSLeaderboardEntry.change).sum = 0 := by
  have hmoves : (order.map (entry (ranking (order₀.map (entry prevRanking order₀))) order)).map
      WSLeaderboardEntry.change = (order.map GamePlayer.playerId).map fun x =>
        ((order₀.map GamePlayer.playerId).idxOf x : ℤ) -
          (order.map GamePlayer.playerId).idxOf x := by
    rw [List.map_map, List.map_map]
    refine List.map_congr_left fun p hp => ?_
    have hmem := hperm.mem_iff.mpr (List.mem_map_of_mem hp)
    refine (change_entry hmem).trans ?_
    simp [place]
  rw [hmoves]
  exact Sorting.sum_moves hperm hids

end Entries

section Calls

variable [Runtime] {roomCode : String}

lemma call_of_room {s : State} {room : Room} (h : s.db.room? (Runtime.upper roomCode) = some room) :
    ∃ c : LeaderboardCall roomCode, c.before = s ∧ c.room = room := by
  have hread : exec (.getRoom roomCode) s = (.ok (some room), s) := by rw [exec, h]
  obtain ⟨t, prevRanking, hboard⟩ := History.getLeaderboard_alone hread
  exact ⟨⟨s, room, _, t, hboard⟩, rfl, rfl⟩

variable (c : LeaderboardCall roomCode)

/-- The previous ranking, as `json.loads` returns it. -/
def prevRanking : List (UUID × ℕ) := (c.before.redis.prevRanking roomCode).getD []

lemma call_eq : c.before.db.room? (Runtime.upper roomCode) = some c.room ∧
    c.entries = leaderboardEntries (prevRanking c) (sortByScore c.room.players) ∧
    c.after =
      { c.before with
        redis := c.before.redis.setPrevRanking roomCode (some (ranking c.entries)) } := by
  obtain ⟨before, room, entries, after, hran⟩ := c
  cases hroom : before.db.room? (Runtime.upper roomCode) with
  | none =>
    have hread : exec (.getRoom roomCode) before = (.ok none, before) := by rw [exec, hroom]
    rw [getLeaderboard, alone_perform_bind hread] at hran
    cases hran
  | some loaded =>
    have hread : exec (.getRoom roomCode) before = (.ok (some loaded), before) := by
      rw [exec, hroom]
    rw [getLeaderboard, alone_perform_bind hread] at hran
    cases hran
    exact ⟨rfl, rfl, rfl⟩

lemma nodup_players : (c.room.players.map GamePlayer.playerId).Nodup := by
  obtain ⟨g, -, hroom⟩ := Option.bind_eq_some_iff.mp (call_eq c).1
  obtain ⟨quiz, -, hroom⟩ := Option.map_eq_some_iff.mp hroom
  rw [← hroom]
  exact History.nodup_playersOf _ _

lemma entries_eq : c.entries =
    (sortByScore c.room.players).map (entry (prevRanking c) (sortByScore c.room.players)) := by
  rw [(call_eq c).2.1, leaderboardEntries_eq (History.nodup_sortByScore (nodup_players c))]

lemma stored : c.after.redis.prevRanking roomCode = some (ranking c.entries) := by
  rw [(call_eq c).2.2]
  exact Function.update_self ..

lemma loads_ranking : Codec.Json.loadsObject (Codec.Json.dumpsObject (ranking c.entries)) =
    some (ranking c.entries) := by
  apply Codec.Json.loadsObject_dumpsObject
  have honce := (ranked_entries (prevRanking c) (nodup_players c)).once
  rw [← entries_eq] at honce
  rw [ranking, List.map_map]
  exact honce

variable {c} {earlier : LeaderboardCall roomCode}

lemma prevRanking_eq
    (h : c.before.redis.prevRanking roomCode = earlier.after.redis.prevRanking roomCode) :
    prevRanking c = ranking earlier.entries := by
  rw [prevRanking, h, stored, Option.getD_some]

lemma moved (h : c.before.redis.prevRanking roomCode = earlier.after.redis.prevRanking roomCode)
    (hsame : ∀ playerId, playerId ∈ earlier.room.players.map GamePlayer.playerId ↔
      playerId ∈ c.room.players.map GamePlayer.playerId) :
    (c.entries.map WSLeaderboardEntry.change).sum = 0 ∧ ∀ e ∈ c.entries, ∀ e₀ ∈ earlier.entries,
      e₀.playerId = e.playerId → (0 < e.change ↔ e.rank < e₀.rank) := by
  have hbefore := (sortByScore_perm earlier.room.players).map GamePlayer.playerId
  have hnow := (sortByScore_perm c.room.players).map GamePlayer.playerId
  have hplayers : (earlier.room.players.map GamePlayer.playerId).Perm
      (c.room.players.map GamePlayer.playerId) :=
    (List.perm_ext_iff_of_nodup (nodup_players earlier) (nodup_players c)).mpr hsame
  have hperm := (hbefore.trans hplayers).trans hnow.symm
  rw [entries_eq c, prevRanking_eq h, entries_eq earlier]
  constructor
  · exact sum_change (History.nodup_sortByScore (nodup_players earlier)) hperm
  · rintro e he e₀ he₀ hid
    obtain ⟨p, hp, rfl⟩ := List.mem_map.mp he
    obtain ⟨p₀, hp₀, rfl⟩ := List.mem_map.mp he₀
    have hid : p₀.playerId = p.playerId := hid
    rw [change_entry (hperm.mem_iff.mpr (List.mem_map_of_mem hp))]
    change _ ↔ place _ p.playerId < place _ p₀.playerId
    rw [hid]
    omega

lemma repeated (h : c.before.redis.prevRanking roomCode = earlier.after.redis.prevRanking roomCode)
    (hsame : earlier.room.players.map (fun p => (p.playerId, p.score)) =
      c.room.players.map fun p => (p.playerId, p.score)) :
    c.entries.map (fun e => (e.rank, e.playerId)) = earlier.entries.map
    (fun e => (e.rank, e.playerId)) ∧
      ∀ e ∈ c.entries, e.change = 0 := by
  have hsorted : ∀ players : List GamePlayer, (sortByScore players).map
    (fun p => (p.playerId, p.score)) =
      (players.map fun p => (p.playerId, p.score)).insertionSort fun a b => b.2 ≤ a.2 :=
        fun players =>
    List.map_insertionSort _ _ _ _ fun _ _ _ _ => Iff.rfl
  have horder : (sortByScore earlier.room.players).map GamePlayer.playerId =
      (sortByScore c.room.players).map GamePlayer.playerId := by
    have hpairs := (hsorted earlier.room.players).trans
      ((congrArg _ hsame).trans (hsorted c.room.players).symm)
    have hids := congrArg (List.map Prod.fst) hpairs
    rw [List.map_map, List.map_map] at hids
    exact hids
  have hplace : place (sortByScore earlier.room.players) = place (sortByScore c.room.players) := by
    funext x
    rw [place, place, horder]
  have hranked : ∀ d : LeaderboardCall roomCode, d.entries.map (fun e => (e.rank, e.playerId)) =
      ((sortByScore d.room.players).map GamePlayer.playerId).map
        fun x => (place (sortByScore d.room.players) x, x) := by
    intro d
    rw [entries_eq d, List.map_map, List.map_map]
    rfl
  refine ⟨by rw [hranked, hranked, horder, hplace], ?_⟩
  rw [entries_eq c, prevRanking_eq h, entries_eq earlier]
  intro e he
  obtain ⟨p, hp, rfl⟩ := List.mem_map.mp he
  have hmem : p.playerId ∈ (sortByScore earlier.room.players).map GamePlayer.playerId := by
    rw [horder]
    exact List.mem_map_of_mem hp
  rw [change_entry hmem, hplace, sub_self]

end Calls

end Leaderboard

/-- A call for a room that exists ranks its players and keeps the ranking; the next call over the
same players measures its changes against it, and finds none if neither points nor order have
changed. -/
theorem leaderboard_spec [Runtime] (roomCode : String) :
    (∀ s room, s.db.room? (Runtime.upper roomCode) = some room →
      ∃ c : LeaderboardCall roomCode, c.before = s ∧ c.room = room) ∧
    ∀ c : LeaderboardCall roomCode, Ranked c.room.players c.entries ∧
      c.after.redis.prevRanking roomCode = some (ranking c.entries) ∧
      Codec.Json.loadsObject (Codec.Json.dumpsObject (ranking c.entries)) =
        some (ranking c.entries) ∧
      ∀ earlier : LeaderboardCall roomCode,
        c.before.redis.prevRanking roomCode = earlier.after.redis.prevRanking roomCode →
        ((∀ playerId, playerId ∈ earlier.room.players.map GamePlayer.playerId ↔
            playerId ∈ c.room.players.map GamePlayer.playerId) →
          (c.entries.map WSLeaderboardEntry.change).sum = 0 ∧
          ∀ e ∈ c.entries, ∀ e₀ ∈ earlier.entries,
            e₀.playerId = e.playerId → (0 < e.change ↔ e.rank < e₀.rank)) ∧
        (earlier.room.players.map (fun p => (p.playerId, p.score)) =
            c.room.players.map (fun p => (p.playerId, p.score)) →
          c.entries.map (fun e => (e.rank, e.playerId)) =
              earlier.entries.map (fun e => (e.rank, e.playerId)) ∧
            ∀ e ∈ c.entries, e.change = 0) := by
  refine ⟨fun s room h => Leaderboard.call_of_room h, fun c => ?_⟩
  have hranked := Leaderboard.ranked_entries (Leaderboard.prevRanking c)
    (Leaderboard.nodup_players c)
  rw [← Leaderboard.entries_eq] at hranked
  exact ⟨hranked, Leaderboard.stored c, Leaderboard.loads_ranking c, fun earlier h =>
    ⟨Leaderboard.moved h, Leaderboard.repeated h⟩⟩

end Askit.Game

import Askit.Game.History

/-! The pages of the history: every request merges and sorts anew what its queries return. -/

namespace Askit.Game

open Tables History

inductive Entry
  | hosted (g : GameSession)
  | played (g : GameSession) (p : GamePlayer)
  deriving DecidableEq, Repr

def Entry.session : Entry → GameSession
  | .hosted g | .played g _ => g

def Entry.started (e : Entry) : Time := e.session.startedAt.getD datetimeMin

namespace Archive

variable (a : Archive) (rows : Rows a.db) (user : UUID) (role : Option Role)

/-- What belongs to the history under the filter of the request. -/
def InHistory : Entry → Prop
  | .hosted g => role ≠ some .player ∧ g ∈ a.db.sessions.rows ∧ g.hostId = user ∧
  g.status = .finished
  | .played g p => role ≠ some .host ∧ p ∈ a.db.players.rows ∧ p.userId = some user ∧
      g ∈ a.db.sessions.rows ∧ g.sessionId = p.sessionId ∧ g.status = .finished

def item : Entry → GameHistoryItem
  | .hosted g => a.hostItem rows g
  | .played g p => a.playerItem rows g p

end Archive

/-- The pages of the requests, put together, are the history: each entry once, from the last game to
the first, with the same total on every page. -/
def Lossless (a : Archive) (user : UUID) (role : Option Role) (limit : ℕ)
    (requests : ℕ → Rows a.db) : Prop :=
  ∃ history : List Entry, history.Nodup ∧ (∀ e, e ∈ history ↔ a.InHistory user role e) ∧
    (history.Pairwise fun e e' => e'.started ≤ e.started) ∧
    ∀ k, a.getGameHistory (requests k) user limit (k * limit) role =
      ⟨((history.drop (k * limit)).take limit).map (a.item (requests k)), history.length⟩

/-- Where players are listed at all, the user has entered each finished session once. -/
def EnteredOnce (a : Archive) (user : UUID) (role : Option Role) : Prop :=
  ∀ g p q, a.InHistory user role (.played g p) → a.InHistory user role (.played g q) → p = q

namespace Paging

variable {a : Archive} {rows rows' : Rows a.db} {user : UUID} {role : Option Role}

def entriesOf (a : Archive) (rows : Rows a.db) (user : UUID) (role : Option Role) : List Entry :=
  (if role ≠ some .player then (a.hostSessions rows user).map .hosted else []) ++
    if role ≠ some .host then (a.playerEntries rows user).map fun e => .played e.1 e.2 else []

lemma historyItems_eq :
    a.historyItems rows user role = (entriesOf a rows user role).map (a.item rows) := by
  simp only [Archive.historyItems, entriesOf, List.map_append]
  split <;> split <;> simp [Archive.item, Function.comp_def]

lemma mem_hostSessions {g : GameSession} : g ∈ a.hostSessions rows user ↔
    g ∈ a.db.sessions.rows ∧ g.hostId = user ∧ g.status = .finished := by
  simp [Archive.hostSessions, rows.sessions_perm.mem_iff]

lemma mem_entriesOf {e : Entry} : e ∈ entriesOf a rows user role ↔ a.InHistory user role e := by
  cases e with
  | hosted g =>
    have hmem : g ∈ a.hostSessions rows user ↔ _ := mem_hostSessions
    by_cases hp : role = some .player <;> by_cases hh : role = some .host <;>
      simp [entriesOf, Archive.InHistory, hp, hh, hmem]
  | played g p =>
    have hmem : (g, p) ∈ a.playerEntries rows user ↔ _ := mem_playerEntries
    by_cases hp : role = some .player <;> by_cases hh : role = some .host <;>
      simp [entriesOf, Archive.InHistory, hp, hh, hmem]

lemma nodup_playerEntries : (a.playerEntries rows user).Nodup := by
  have hrows : rows.entries.Nodup :=
    rows.entries_perm.nodup_iff.mpr (List.Nodup.of_map _ a.db.players.unique)
  refine List.Pairwise.filterMap _ ?_ hrows
  intro p q hne e he e' he' heq
  split at he <;> split at he'
  · obtain ⟨g, -, rfl⟩ := Option.map_eq_some_iff.mp he
    obtain ⟨g', -, rfl⟩ := Option.map_eq_some_iff.mp he'
    exact hne (congrArg Prod.snd heq)
  · cases he'
  · cases he
  · cases he

lemma nodup_entriesOf : (entriesOf a rows user role).Nodup := by
  have hrows : rows.sessions.Nodup := rows.sessions_perm.nodup_iff.mpr
    (List.Nodup.of_map _ a.db.sessions.unique)
  have hhosted : ((a.hostSessions rows user).map Entry.hosted).Nodup :=
    (hrows.filter _).map fun _ _ h => by injection h
  have hplayed : ((a.playerEntries rows user).map fun e => Entry.played e.1 e.2).Nodup := by
    apply nodup_playerEntries.map
    rintro ⟨g, p⟩ ⟨g', p'⟩ h
    injection h with hg hp
    exact Prod.ext hg hp
  rw [entriesOf, List.nodup_append]
  refine ⟨?_, ?_, ?_⟩
  · split
    · exact hhosted
    · exact List.nodup_nil
  · split
    · exact hplayed
    · exact List.nodup_nil
  · intro e he e' he' heq
    subst heq
    split at he
    · obtain ⟨g, -, rfl⟩ := List.mem_map.mp he
      split at he'
      · obtain ⟨_, -, h⟩ := List.mem_map.mp he'
        cases h
      · cases he'
    · cases he

def sortKey : Entry → Lex (Time × Lex (String × String))
  | .hosted g => toLex (g.startedAt.getD datetimeMin, toLex (g.sessionId, Role.host.value))
  | .played g _ => toLex (g.startedAt.getD datetimeMin, toLex (g.sessionId, Role.player.value))

lemma sortKey_item (e : Entry) : (a.item rows e).sortKey = sortKey e := by
  cases e <;> rfl

def sortEntries (entries : List Entry) : List Entry := entries.insertionSort fun e e' =>
    sortKey e' ≤ sortKey e

lemma getGameHistory_eq (limit offset : ℕ) : a.getGameHistory rows user limit offset role =
    ⟨(((sortEntries (entriesOf a rows user role)).drop offset).take limit).map (a.item rows),
      (sortEntries (entriesOf a rows user role)).length⟩ := by
  have hsort : sortItems (a.historyItems rows user role) =
      (sortEntries (entriesOf a rows user role)).map (a.item rows) := by
    rw [historyItems_eq, sortItems, sortEntries]
    symm
    apply List.map_insertionSort
    intro e _ e' _
    rw [sortKey_item, sortKey_item]
  simp only [Archive.getGameHistory, hsort, List.map_take, List.map_drop, List.length_map]

lemma session_inj {g g' : GameSession} (hg : g ∈ a.db.sessions.rows) (hg' : g' ∈ a.db.sessions.rows)
    (h : g.sessionId = g'.sessionId) : g = g' := by
  have hs := session?_eq_some.mpr ⟨hg, h⟩
  rw [session?_eq_some.mpr ⟨hg', rfl⟩] at hs
  exact (Option.some.inj hs).symm

lemma sortKey_inj (h : EnteredOnce a user role) {e e' : Entry} (he : a.InHistory user role e)
    (he' : a.InHistory user role e') (hk : sortKey e = sortKey e') : e = e' := by
  have hpair := congrArg (fun k => ofLex (ofLex k).2) hk
  cases e with
  | hosted g =>
    cases e' with
    | hosted g' => rw [session_inj he.2.1 he'.2.1 (congrArg Prod.fst hpair)]
    | played g' p' =>
      have hrole : Role.host.value = Role.player.value := congrArg Prod.snd hpair
      exact absurd hrole (by decide)
  | played g p =>
    cases e' with
    | hosted g' =>
      have hrole : Role.player.value = Role.host.value := congrArg Prod.snd hpair
      exact absurd hrole (by decide)
    | played g' p' =>
      obtain rfl := session_inj he.2.2.2.1 he'.2.2.2.1 (congrArg Prod.fst hpair)
      rw [h g p p' he he']

lemma started_of_sortKey {e e' : Entry} (h : sortKey e' ≤ sortKey e) : e'.started ≤ e.started := by
  have hfst := Prod.Lex.monotone_fst _ _ h
  cases e <;> cases e' <;> exact hfst

lemma sortEntries_eq (h : EnteredOnce a user role) :
    sortEntries (entriesOf a rows user role) = sortEntries (entriesOf a rows' user role) := by
  have hperm : (entriesOf a rows user role).Perm (entriesOf a rows' user role) :=
    (List.perm_ext_iff_of_nodup nodup_entriesOf nodup_entriesOf).mpr fun e =>
      mem_entriesOf.trans mem_entriesOf.symm
  have hsort (entries : List Entry) : (sortEntries entries).Perm entries :=
    List.perm_insertionSort _ _
  apply @Sorting.eq_of_perm_of_injOn _ _ _ sortKey
  · exact (hsort _).trans (hperm.trans (hsort _).symm)
  · exact Sorting.pairwise_insertionSort_key sortKey _
  · exact Sorting.pairwise_insertionSort_key sortKey _
  · intro e he e' he' hk
    exact sortKey_inj h (mem_entriesOf.mp ((hsort _).mem_iff.mp he))
      (mem_entriesOf.mp ((hsort _).mem_iff.mp he')) hk

lemma lossless (h : EnteredOnce a user role) (limit : ℕ) (requests : ℕ → Rows a.db) :
    Lossless a user role limit requests := by
  have hsort (entries : List Entry) : (sortEntries entries).Perm entries :=
    List.perm_insertionSort _ _
  refine ⟨sortEntries (entriesOf a (requests 0) user role), ?_, ?_, ?_, ?_⟩
  · exact (hsort _).nodup_iff.mpr nodup_entriesOf
  · exact fun e => (hsort _).mem_iff.trans mem_entriesOf
  · exact (Sorting.pairwise_insertionSort_key sortKey _).imp started_of_sortKey
  · intro k
    rw [getGameHistory_eq, sortEntries_eq h]

section Twice

variable {g : GameSession} {p q : GamePlayer}

lemma eq_of_rankIn {players : List GamePlayer} (hn : (players.map GamePlayer.playerId).Nodup)
    (hp : p ∈ players) (hq : q ∈ players)
    (h : rankIn players p.playerId = rankIn players q.playerId) : p = q := by
  have hids := nodup_sortByScore hn
  obtain ⟨before, after, hsplit⟩ := List.append_of_mem ((sortByScore_perm players).mem_iff.mpr hp)
  obtain ⟨before', after', hsplit'⟩ :=
    List.append_of_mem ((sortByScore_perm players).mem_iff.mpr hq)
  have hrank : rankIn players p.playerId = some (before.length + 1) := by
    rw [hsplit] at hids
    rw [rankIn, hsplit, findIdx?_split hids]
    rfl
  have hrank' : rankIn players q.playerId = some (before'.length + 1) := by
    rw [hsplit'] at hids
    rw [rankIn, hsplit', findIdx?_split hids]
    rfl
  have hlength : before.length = before'.length := by
    rw [hrank, hrank'] at h
    simpa using h
  have htail := (List.append_inj (hsplit.symm.trans hsplit') hlength).2
  exact (List.cons.inj htail).1

lemma eq_of_item {e : Entry} (he : a.InHistory user role e)
    (hp : a.InHistory user role (.played g p)) (h : a.item rows e = a.item rows (.played g p)) :
    e = .played g p := by
  cases e with
  | hosted g' =>
    exact absurd (congrArg GameHistoryItem.role h)
      (by simp [Archive.item, Archive.hostItem, Archive.playerItem])
  | played g' p' =>
    obtain rfl := session_inj he.2.2.2.1 hp.2.2.2.1 (congrArg GameHistoryItem.sessionId h)
    have hmem {r : GamePlayer} (hr : a.InHistory user role (.played g' r)) :
        r ∈ rows.players g'.sessionId := by
      rw [(rows.players_perm g'.sessionId).mem_iff, Db.playersOf, List.mem_filter]
      exact ⟨hr.2.1, by simpa using hr.2.2.2.2.1.symm⟩
    have hids := ((rows.players_perm g'.sessionId).map GamePlayer.playerId).nodup_iff.mpr
      (nodup_playersOf a.db g'.sessionId)
    rw [eq_of_rankIn hids (hmem he) (hmem hp) (congrArg GameHistoryItem.rank h)]

def entryOf (a : Archive) (user : UUID) (r : GamePlayer) : Option (GameSession × GamePlayer) :=
  if r.userId = some user then
    ((a.session? r.sessionId).filter fun s => s.status = .finished).map fun s => (s, r)
  else none

lemma entryOf_eq {r : GamePlayer} (hr : a.InHistory user role (.played g r)) :
    entryOf a user r = some (g, r) := by
  obtain ⟨-, -, hu, hg, hid, hf⟩ := hr
  rw [entryOf, if_pos hu, session?_eq_some.mpr ⟨hg, hid⟩, Option.filter_some,
    if_pos (by simpa using hf)]
  rfl

lemma entriesOf_front (hp : a.InHistory user role (.played g p))
    (hq : a.InHistory user role (.played g q)) {players rest : List GamePlayer}
    (hperm : (p :: q :: rest).Perm a.db.players.rows) (hplayers : players.Perm a.db.players.rows) :
    entriesOf a (rowsOf a.db (p :: q :: rest) players hperm hplayers) user role =
      (if role ≠ some .player then (a.db.sessions.rows.filter fun s =>
          s.hostId = user ∧ s.status = .finished).map Entry.hosted else []) ++
        .played g p :: .played g q :: (rest.filterMap (entryOf a user)).map fun e =>
          Entry.played e.1 e.2 := by
  have hentries : a.playerEntries (rowsOf a.db (p :: q :: rest) players hperm hplayers) user =
      (p :: q :: rest).filterMap (entryOf a user) := rfl
  rw [entriesOf, if_pos hp.1, hentries, List.filterMap_cons, entryOf_eq hp, List.filterMap_cons,
    entryOf_eq hq]
  rfl

lemma exists_swapped (hp : a.InHistory user role (.played g p))
    (hq : a.InHistory user role (.played g q)) (hne : p ≠ q) :
    ∃ first second : Rows a.db, ∃ before after,
      sortEntries (entriesOf a first user role) = before ++ .played g p :: .played g q :: after ∧
      sortEntries (entriesOf a second user role) = before ++ .played g q :: .played g
        p :: after := by
  obtain ⟨hfirst, hsecond⟩ := perm_front hp.2.1 hq.2.1 hne
  have hkey : sortKey (.played g p) = sortKey (.played g q) := rfl
  refine ⟨rowsOf a.db _ _ hfirst (.refl _), rowsOf a.db _ _ hsecond (.refl _), ?_⟩
  rw [entriesOf_front hp hq, entriesOf_front hq hp]
  exact Sorting.insertionSort_ties sortKey hkey _ _

lemma not_lossless (hp : a.InHistory user role (.played g p))
    (hq : a.InHistory user role (.played g q)) (hne : p ≠ q) :
    ∃ requests : ℕ → Rows a.db, ¬Lossless a user role 1 requests := by
  obtain ⟨first, second, before, after, hfirst, hsecond⟩ := exists_swapped hp hq hne
  refine ⟨fun k => if k ≤ before.length then first else second, ?_⟩
  rintro ⟨history, hnodup, hmem, -, hpages⟩
  have hplace (k : ℕ) (rows : Rows a.db)
    (hrows : (if k ≤ before.length then first else second) = rows)
      (hentry : (sortEntries (entriesOf a rows user role))[k]? = some (.played g p)) :
      history[k]? = some (.played g p) := by
    have hpage := congrArg GameHistoryOut.items (hpages k)
    rw [getGameHistory_eq] at hpage
    simp only [hrows, Nat.mul_one, List.take_one, List.head?_drop, hentry] at hpage
    cases he : history[k]? with
    | none => simp [he] at hpage
    | some e =>
      have hitem : a.item rows e = a.item rows (.played g p) := by simpa [he] using hpage.symm
      rw [eq_of_item ((hmem e).mp (List.mem_of_getElem? he)) hp hitem]
  have h₀ := hplace before.length first (if_pos (le_refl _)) (by simp [hfirst])
  have h₁ := hplace (before.length + 1) second (if_neg (by omega)) (by simp [hsecond])
  have hlt : before.length < history.length := (List.getElem?_eq_some_iff.mp h₀).1
  have heq := (List.getElem?_inj hlt hnodup).mp (h₀.trans h₁.symm)
  omega

end Twice

end Paging

/-- The pages of every sequence of requests are the history, if and only if the user has entered no
finished session twice or players are not listed. -/
theorem history_pages_lossless_iff (a : Archive) (user : UUID) (role : Option Role) :
    (∀ limit, 1 ≤ limit → ∀ requests : ℕ → Rows a.db, Lossless a user role limit requests) ↔
      EnteredOnce a user role := by
  constructor
  · intro h g p q hp hq
    by_contra hne
    obtain ⟨requests, hnot⟩ := Paging.not_lossless hp hq hne
    exact hnot (h 1 (le_refl 1) requests)
  · exact fun h limit _ requests => Paging.lossless h limit requests

namespace Sample

def annAgain : GamePlayer := { ann with playerId := "p2", nickname := "Ann 2" }

/-- A user has joined a session under two nicknames. -/
def joinedTwice : Archive := played [ann, annAgain] (by decide) (by decide)

end Sample

theorem second_entry_is_lost :
    ¬∀ limit, 1 ≤ limit → ∀ requests : ℕ → Rows Sample.joinedTwice.db,
      Lossless Sample.joinedTwice "ann" none limit requests := by
  intro h
  have hann : Sample.joinedTwice.InHistory "ann" none (.played Sample.finished Sample.ann) := by
    refine ⟨?_, ?_, ?_, ?_, ?_, ?_⟩ <;> decide
  have hagain : Sample.joinedTwice.InHistory "ann" none
      (.played Sample.finished Sample.annAgain) := by
    refine ⟨?_, ?_, ?_, ?_, ?_, ?_⟩ <;> decide
  obtain ⟨requests, hnot⟩ := Paging.not_lossless hann hagain (by decide)
  exact hnot (h 1 (le_refl 1) requests)

end Askit.Game

import Askit.Game.Effects
import Mathlib.Algebra.BigOperators.Group.List.Basic

/-! The score of a player is the sum of the points of his records as long as no submission writes
back a score that has become stale. -/

namespace Askit.Game

open Interleaving Machine Coro Tables

inductive Changes.Kind : Changes → Prop
  | session (s : Dirty GameSession) : Kind { session := some s }
  | joined (p : GamePlayer) (fresh : p.score = 0) : Kind { newPlayer := some p }
  | connected (p : UUID × Bool) : Kind { connected := some p }
  | answer (player : Option GamePlayer) (a : GamePlayerAnswer)
      (own : ∀ p ∈ player, p.playerId = a.playerId) :
      Kind (.answer player a)

namespace Db

def earned (d : Db) (playerId : UUID) : ℤ :=
  ((d.answers.rows.filter fun a => a.playerId = playerId).map GamePlayerAnswer.pointsEarned).sum

/-- Each player's score is the sum of the points of his records. -/
def Scored (d : Db) : Prop := ∀ p ∈ d.players.rows, p.score = d.earned p.playerId

/-- The foreign key of the records. -/
def Owned (d : Db) : Prop := ∀ a ∈ d.answers.rows, a.playerId ∈ d.players.rows.map
    GamePlayer.playerId

instance (d : Db) : Decidable d.Scored :=
  inferInstanceAs (Decidable (∀ p ∈ d.players.rows, p.score = d.earned p.playerId))

instance (d : Db) : Decidable d.Owned :=
  inferInstanceAs (Decidable (∀ a ∈ d.answers.rows, a.playerId ∈ d.players.rows.map
    GamePlayer.playerId))

variable {d e : Db}

lemma scored_iff : d.Scored ↔ ∀ id p, d.players.get? id = some p → p.score = d.earned id := by
  constructor
  · intro h id p hp
    obtain ⟨hrow, rfl⟩ := Table.get?_eq_some.mp hp
    exact h p hrow
  · intro h p hp
    exact h p.playerId p (Table.get?_of_mem hp)

lemma earned_congr (h : e.answers = d.answers) (id : UUID) : e.earned id = d.earned id := by
  rw [earned, h, earned]

lemma earned_insert {a : GamePlayerAnswer} (h : d.answers.insert a = some e.answers) (id : UUID) :
    e.earned id = d.earned id + if a.playerId = id then a.pointsEarned else 0 := by
  rw [earned, Table.rows_insert h, List.filter_append, List.map_append, List.sum_append, earned]
  by_cases hid : a.playerId = id <;> simp [hid]

lemma earned_eq_zero (ho : d.Owned) {id : UUID} (h : id ∉ d.players.rows.map GamePlayer.playerId) :
    d.earned id = 0 := by
  have hnone : (d.answers.rows.filter fun a => a.playerId = id) = [] := by
    rw [List.filter_eq_nil_iff]
    intro a ha hid
    exact h (of_decide_eq_true hid ▸ ho a ha)
  simp [earned, hnone]

/-- The score that the commit writes back, if any, is based on the one that is stored. -/
def Fresh (d : Db) (changes : Changes) : Prop :=
  (d.commit changes).isSome → ∀ a ∈ changes.newAnswer, a.pointsEarned ≠ 0 →
    ∀ row ∈ d.players.get? a.playerId, changes.player.map (fun p => p.loaded.score) = some row.score

instance (d : Db) (changes : Changes) : Decidable (d.Fresh changes) :=
  inferInstanceAs (Decidable ((d.commit changes).isSome → ∀ a ∈ changes.newAnswer,
    a.pointsEarned ≠ 0 → ∀ row ∈ d.players.get? a.playerId,
      changes.player.map (fun p => p.loaded.score) = some row.score))

lemma get?_flushPlayer (player : Option (Dirty GamePlayer)) (id : UUID) :
    (flushPlayer d.players player).get? id = (d.players.get? id).map fun row =>
      match player with
      | some p => if id = p.loaded.playerId then GamePlayer.flush p row else row
      | none => row := by
  cases player with
  | none => simp [flushPlayer]
  | some p => exact Table.get?_modify _ _ _ _ (GamePlayer.playerId_flush p)

lemma score_flush_answer {p row : GamePlayer} {points : ℤ} :
    (GamePlayer.flush ⟨p, { p with score := p.score + points }⟩ row).score = row.score + points ↔
      (points ≠ 0 → p.score = row.score) := by
  by_cases hp : points = 0
  · simp [GamePlayer.flush, changed, hp]
  · simp [GamePlayer.flush, changed, hp]

lemma score_of_answer {player : Option GamePlayer} {a : GamePlayerAnswer} {row : GamePlayer}
    (own : ∀ p ∈ player, p.playerId = a.playerId) (hrow : d.players.get? a.playerId = some row) :
    ∃ row', (flushPlayer d.players (Changes.answer player a).player).get? a.playerId = some row' ∧
      (row'.score = row.score + a.pointsEarned ↔
        (a.pointsEarned ≠ 0 → player.map GamePlayer.score = some row.score)) := by
  rw [get?_flushPlayer, hrow]
  refine ⟨_, rfl, ?_⟩
  cases player with
  | none => simp
  | some p =>
    simp only [Changes.player_answer, Option.map_some, if_pos (own p rfl).symm, score_flush_answer,
      Option.some.injEq]

lemma scored_congr (ha : e.answers = d.answers)
    (hp : ∀ id, (e.players.get? id).map GamePlayer.score = (d.players.get? id).map
      GamePlayer.score) :
    e.Scored ↔ d.Scored := by
  have hone : ∀ {d e : Db}, e.answers = d.answers →
      (∀ id, (e.players.get? id).map GamePlayer.score = (d.players.get? id).map GamePlayer.score) →
      d.Scored → e.Scored := by
    intro d e ha hp h
    rw [scored_iff] at h ⊢
    intro id p hget
    obtain ⟨q, hq, hs⟩ := Option.map_eq_some_iff.mp ((hp id).symm.trans (congrArg _ hget))
    rw [← hs, earned_congr ha]
    exact h id q hq
  exact ⟨hone ha.symm fun id => (hp id).symm, hone ha hp⟩

lemma mem_playerIds {id : UUID} :
    id ∈ d.players.rows.map GamePlayer.playerId ↔ (d.players.get? id).isSome := by
  rw [← not_iff_not, ← Table.get?_eq_none, Option.not_isSome_iff_eq_none]

lemma owned_iff : d.Owned ↔ ∀ a ∈ d.answers.rows, (d.players.get? a.playerId).isSome := by
  simp only [Owned, mem_playerIds]

lemma Owned.commit (ho : d.Owned) {changes : Changes} (h : d.commit changes = some e) :
    e.Owned := by
  rw [owned_iff] at ho ⊢
  intro a ha
  apply commit_players_isSome h
  obtain ⟨-, hans⟩ | ⟨b, -, hb, hans⟩ := commit_answers h
  · exact ho a (hans ▸ ha)
  · rcases (Table.mem_insert hans a).mp ha with ha | rfl
    · exact ho a ha
    · exact hb

end Db

namespace Changes.Kind

variable {d e : Db} {changes : Changes}

lemma fresh_of_none (hn : changes.newAnswer = none) : d.Fresh changes := by
  intro _ a ha
  rw [hn] at ha
  cases ha

lemma scored (hk : Kind changes) (ho : d.Owned) (hs : d.Scored) (h : d.commit changes = some e) :
    e.Scored ↔ d.Fresh changes := by
  have hp := commit_players h
  have ha := commit_answers h
  cases hk with
  | session s =>
    obtain ⟨-, ha⟩ | ⟨_, hn, -⟩ := ha
    · have hp : d.players = e.players := Option.some.inj hp
      have he : e.Scored := (Db.scored_congr ha fun id => by rw [hp]).mpr hs
      exact iff_of_true he (fresh_of_none rfl)
    · cases hn
  | joined p fresh =>
    obtain ⟨-, ha⟩ | ⟨_, hn, -⟩ := ha
    · refine iff_of_true (Db.scored_iff.mpr fun id q hq => ?_) (fresh_of_none rfl)
      simp only [Db.insertPlayer] at hp
      split at hp
      · rw [Table.get?_insert hp] at hq
        split at hq
        case isTrue hid =>
          cases hq
          rw [fresh, Db.earned_congr ha, hid]
          exact (Db.earned_eq_zero ho (Table.fresh_of_insert hp)).symm
        case isFalse =>
          rw [Db.earned_congr ha]
          exact Db.scored_iff.mp hs id q hq
      · cases hp
    · cases hn
  | connected p =>
    obtain ⟨-, ha⟩ | ⟨_, hn, -⟩ := ha
    · have hp : Db.flushConnected d.players (some p) = e.players := Option.some.inj hp
      have he : e.Scored := by
        refine (Db.scored_congr ha fun id => ?_).mpr hs
        rw [← hp, Db.flushConnected, Table.get?_modify, Option.map_map]
        congr 1
        funext row
        by_cases hid : id = p.1 <;> simp [hid, GamePlayer.connect]
      exact iff_of_true he (fresh_of_none rfl)
    · cases hn
  | answer player a own =>
    obtain ⟨hn, -⟩ | ⟨b, hb, hown, hans⟩ := ha
    · cases hn
    · cases hb
      have hp : Db.flushPlayer d.players (Changes.answer player a).player = e.players :=
        Option.some.inj hp
      obtain ⟨row, hrow⟩ := Option.isSome_iff_exists.mp hown
      obtain ⟨row', hrow', hscore⟩ := Db.score_of_answer own hrow
      rw [hp] at hrow'
      have hbefore := Db.scored_iff.mp hs a.playerId row hrow
      have hafter : row'.score = e.earned a.playerId ↔ d.Fresh (.answer player a) := by
        rw [Db.earned_insert hans, if_pos rfl, ← hbefore, hscore]
        simp [Db.Fresh, h, hrow, Function.comp_def]
      rw [← hafter]
      constructor
      · exact fun he => Db.scored_iff.mp he _ _ hrow'
      · intro h
        rw [Db.scored_iff]
        intro id q hq
        by_cases hid : id = a.playerId
        · subst hid
          cases hq.symm.trans hrow'
          exact h
        · rw [← hp, Db.get?_flushPlayer] at hq
          obtain ⟨row, hrow, hq⟩ := Option.map_eq_some_iff.mp hq
          have hrow' : q.score = row.score := by
            cases player with
            | none => exact hq ▸ rfl
            | some p =>
              have hne : ¬id = p.playerId := fun h => hid (h.trans (own p rfl))
              simp [hne] at hq
              rw [hq]
          rw [hrow', Db.earned_insert hans, if_neg (Ne.symm hid), add_zero]
          exact Db.scored_iff.mp hs id row hrow

end Changes.Kind

section

variable [Runtime]

lemma Changes.Kind.of_within {call : Call} {changes : Changes}
    (h : call.footprint.commits changes) : Changes.Kind changes := by
  cases call with
  | joinRoom room nickname user =>
    obtain ⟨p, hp, rfl⟩ := h
    exact .joined p hp
  | hostFrames room hostId frames =>
    obtain ⟨d, -, rfl⟩ := h
    exact .session d
  | playerFrame room playerId data =>
    obtain ⟨-, -, q, -, -, player, a, hkey, own, rfl⟩ := ClientMessage.Commits.ofAnswer h
    obtain ⟨rfl, -⟩ := Prod.mk.inj hkey
    exact .answer player a own
  | questionTimeout timer =>
    obtain ⟨g, -, rfl⟩ := h
    exact .session _
  | playerEndpoint id room origin wsToken =>
    obtain ⟨p, rfl⟩ := h
    exact .connected p
  | hostEndpoint | subscriber | delivery => exact h.elim

def Op.FreshScore (d : Db) {β : Type} : Op β → Prop
  | .commit changes => d.Fresh changes
  | _ => True

instance (d : Db) {β : Type} (o : Op β) : Decidable (o.FreshScore d) := by
  induction o using Op.casesOn with
  | commit changes => exact inferInstanceAs (Decidable (d.Fresh changes))
  | _ => exact isTrue trivial

/-- A submission that commits points finds the score as it has loaded it. -/
def FreshScores : system.Transition → Prop
  | ⟨c, .run i⟩ => Awaits (Op.FreshScore (State.db c.world.state)) c.procs[i]?
  | _ => True

instance : DecidablePred FreshScores
  | ⟨c, .run i⟩ =>
    inferInstanceAs (Decidable (Awaits (Op.FreshScore (State.db c.world.state)) c.procs[i]?))
  | ⟨_, .spawn _⟩ | ⟨_, .fault _ _⟩ | ⟨_, .env _⟩ => isTrue trivial

namespace Scores

structure Tallied (c : system.Config) : Prop where
  confined : c.Confined fun call => Op.Within (Call.footprint call)
  owned : (State.db c.world.state).Owned
  scored : (State.db c.world.state).Scored

lemma freshScores_of_no_commit {t : system.Transition}
    (h : ∀ i call changes e, ¬Commits t i call changes e) : FreshScores t := by
  obtain ⟨c, a⟩ := t
  cases a with
  | run i =>
    change Awaits (Op.FreshScore (State.db c.world.state)) c.procs[i]?
    cases hp : c.procs[i]? with
    | none => trivial
    | some p =>
      obtain ⟨call, r | ⟨o, k⟩⟩ := p
      · trivial
      · cases o with
        | commit changes =>
          intro hc
          obtain ⟨e, he⟩ := Option.isSome_iff_exists.mp hc
          exact (h i call changes e ⟨⟨rfl, k, hp⟩, he⟩).elim
        | _ => trivial
  | _ => trivial

lemma freshScores_iff {t : system.Transition} {i : ℕ} {call : Call} {changes : Changes} {e : Db}
    (h : Commits t i call changes e) :
    FreshScores t ↔ (State.db t.before.world.state).Fresh changes := by
  obtain ⟨c, a⟩ := t
  obtain ⟨⟨hact, k, hp⟩, -⟩ := h
  obtain rfl : a = .run i := hact
  change Awaits (Op.FreshScore (State.db c.world.state)) c.procs[i]? ↔ _
  rw [show c.procs[i]? = _ from hp]
  rfl

lemma Tallied.step {t : system.Transition} (h : Tallied t.before) :
    (State.db t.after.world.state).Owned ∧
      ((State.db t.after.world.state).Scored ↔ FreshScores t) := by
  by_cases hc : ∃ i call changes e, Commits t i call changes e
  · obtain ⟨i, call, changes, e, hc⟩ := hc
    have hk := Changes.Kind.of_within (hc.within h.confined)
    rw [hc.db, freshScores_iff hc]
    exact ⟨h.owned.commit hc.2, hk.scored h.owned h.scored hc.2⟩
  · have hc : ∀ i call changes e, ¬Commits t i call changes e :=
      fun i call changes e h => hc ⟨i, call, changes, e, h⟩
    rw [db_of_no_commit hc]
    exact ⟨h.owned, iff_of_true h.scored (freshScores_of_no_commit hc)⟩

end Scores

/-- From a database whose scores add up, they go on adding up if and only if no submission writes
back a score that has become stale. -/
theorem scores_add_up_iff (s : State) (hs : s.db.Scored) (ho : s.db.Owned)
    (acts : List system.Act) :
    (∀ t ∈ transitions (start s) acts, (State.db t.after.world.state).Scored) ↔
      ∀ t ∈ transitions (start s) acts, FreshScores t := by
  have hstart : Scores.Tallied (start s) :=
    ⟨@confined_start _ _ _ system (fun call _ => Op.Within (Call.footprint call)) s, ho, hs⟩
  have hstep : ∀ t : system.Transition, (State.db t.after.world.state).Scored →
      Scores.Tallied t.before → Scores.Tallied t.after :=
    fun t ht h => ⟨h.confined.step code_keeps t.act, h.step.1, ht⟩
  constructor
  · intro h t ht
    have hb := ((invariant (I := Scores.Tallied) hstep hstart acts h).1 t ht).1
    exact hb.step.2.mp (h t ht)
  · intro h t ht
    have hrun := invariant (I := Scores.Tallied) (P := FreshScores)
      (fun t hf hb => hstep t (hb.step.2.mpr hf) hb) hstart acts h
    exact (hrun.1 t ht).2.scored

end

section Sample

attribute [local instance] Runtime.ascii

/-- A player answers both questions in turn. -/
def scoredRun : List system.Act :=
  .spawn (Call.hostFrames "ABCDEF" "host" [.startGame, .nextQuestion, .nextQuestion])
    :: runs 0 22 ++
    .spawn (Call.playerFrame "ABCDEF" "p1" (.answer "q1" ["q1a"])) :: runs 1 20 ++ runs 0 25 ++
    .spawn (Call.playerFrame "ABCDEF" "p1" (.answer "q2" ["q2a"])) :: runs 2 20

theorem scores_add_up_iff_in_turn :
    Sample.state.db.Owned ∧
      ∀ t ∈ transitions (start Sample.state) scoredRun, (State.db t.after.world.state).Scored :=
  ⟨by decide +kernel,
    (scores_add_up_iff Sample.state (by decide +kernel) (by decide +kernel) scoredRun).mpr
      (by decide +kernel)⟩

/-- The player's submission for question 1 awaits its commit while the host goes on to question 2,
which the player answers from a second socket. -/
def lostRun : List system.Act :=
  .spawn (Call.hostFrames "ABCDEF" "host" [.startGame, .nextQuestion, .nextQuestion])
    :: runs 0 22 ++
    .spawn (Call.playerFrame "ABCDEF" "p1" (.answer "q1" ["q1a"])) :: runs 1 8 ++ runs 0 25 ++
    .spawn (Call.playerFrame "ABCDEF" "p1" (.answer "q2" ["q2a"])) :: runs 2 20

/-- The first submission then overwrites the points of the second. -/
theorem scores_lose_an_update :
    Sample.state.db.Scored ∧ Sample.state.db.Owned ∧ (∀ a ∈ lostRun ++ [.run 1], Faithful a) ∧
      ¬∀ t ∈ transitions (start Sample.state) (lostRun ++ [.run 1]),
        (State.db t.after.world.state).Scored := by
  refine ⟨by decide +kernel, by decide +kernel, by decide +kernel, fun h => ?_⟩
  have hlast := after_last (P := fun c : system.Config => (State.db c.world.state).Scored) h
  exact absurd hlast (by decide +kernel)

end Sample

end Askit.Game

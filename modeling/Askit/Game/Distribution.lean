import Askit.Game.System
import Askit.Game.Effects
import Askit.Interleaving.Sequential

/-! The answer distribution of a question and the players who have chosen each option. -/

namespace Askit.Game

open Interleaving Machine Coro Tables

namespace Db

def Chose (d : Db) (questionId : UUID) (option : String) (p : GamePlayer) : Prop :=
  ∃ a ∈ d.answers.get? (p.playerId, questionId), option ∈ a.selectedAnswerIds

instance (d : Db) (questionId : UUID) (option : String) :
    DecidablePred (d.Chose questionId option) :=
  fun _ => inferInstanceAs (Decidable (∃ _ ∈ _, _))

def Answered (d : Db) (questionId : UUID) (p : GamePlayer) : Prop :=
  (d.answers.get? (p.playerId, questionId)).isSome

instance (d : Db) (questionId : UUID) : DecidablePred (d.Answered questionId) :=
  fun _ => inferInstanceAs (Decidable (_ = true))

end Db

/-- Each option is given the number of players of the session who have chosen it, which is at most
that of those who have answered, and nothing where nobody has. -/
structure CountsPlayers (d : Db) (sessionId : UUID) (question : QuizQuestion)
    (counts : List (UUID × ℕ)) :
    Prop where
  options : counts.map Prod.fst = question.answers.map QuizAnswer.answerId
  chosen : ∀ c ∈ counts, c.2 = (d.playersOf sessionId).countP fun p =>
    d.Chose question.questionId c.1 p
  bounded : ∀ c ∈ counts, c.2 ≤ (d.playersOf sessionId).countP fun p =>
    d.Answered question.questionId p
  unchosen : ∀ c ∈ counts, (∀ p ∈ d.playersOf sessionId, ¬d.Chose question.questionId c.1 p) →
    c.2 = 0

instance (d : Db) (sessionId : UUID) (question : QuizQuestion) (counts : List (UUID × ℕ)) :
    Decidable (CountsPlayers d sessionId question counts) :=
  decidable_of_iff
    (counts.map Prod.fst = question.answers.map QuizAnswer.answerId ∧
      (∀ c ∈ counts, c.2 = (d.playersOf sessionId).countP fun p =>
        d.Chose question.questionId c.1 p) ∧
      (∀ c ∈ counts, c.2 ≤ (d.playersOf sessionId).countP fun p =>
        d.Answered question.questionId p) ∧
      ∀ c ∈ counts, (∀ p ∈ d.playersOf sessionId, ¬d.Chose question.questionId c.1 p) → c.2 = 0)
    ⟨fun ⟨a, b, c, d⟩ => ⟨a, b, c, d⟩, fun ⟨a, b, c, d⟩ => ⟨a, b, c, d⟩⟩

/-- No player's record for the question names an option of it twice. -/
def NamedOnce (d : Db) (sessionId : UUID) (question : QuizQuestion) : Prop :=
  ∀ r ∈ d.answersOf sessionId question.questionId, ∀ a ∈ question.answers,
    r.1.selectedAnswerIds.count a.answerId ≤ 1

namespace Distribution

section Lists

variable {α : Type} [DecidableEq α] (rows : List (List α)) (a : α)

lemma countP_le_count_flatten : rows.countP (fun r => a ∈ r) ≤ rows.flatten.count a := by
  induction rows with
  | nil => simp
  | cons r rows ih =>
    rw [List.countP_cons, List.flatten_cons, List.count_append]
    split
    · next h =>
      have hpos : 0 < r.count a := List.count_pos_iff.mpr (by simpa using h)
      omega
    · omega

lemma count_flatten_eq_countP_iff :
    rows.flatten.count a = rows.countP (fun r => a ∈ r) ↔ ∀ r ∈ rows, r.count a ≤ 1 := by
  induction rows with
  | nil => simp
  | cons r rows ih =>
    have hle := countP_le_count_flatten rows a
    rw [List.flatten_cons, List.count_append, List.countP_cons, List.forall_mem_cons, ← ih]
    by_cases h : a ∈ r
    · have hpos : 0 < r.count a := List.count_pos_iff.mpr h
      simp only [h, decide_true, if_true]
      omega
    · have hzero : r.count a = 0 := List.count_eq_zero.mpr h
      simp only [h, decide_false, Bool.false_eq_true, if_false]
      omega

end Lists

section Join

variable {d : Db} {sessionId questionId : UUID}

lemma mem_answersOf {r : GamePlayerAnswer × GamePlayer} : r ∈ d.answersOf sessionId questionId ↔
    r.2 ∈ d.playersOf sessionId ∧ d.answers.get? (r.2.playerId, questionId) = some r.1 := by
  obtain ⟨a, p⟩ := r
  simp only [Db.answersOf, List.mem_filterMap, Db.playersOf, List.mem_filter, Table.get?_eq_some,
    GamePlayerAnswer.key]
  constructor
  · rintro ⟨a', ha', hp⟩
    split at hp
    · next hq =>
      obtain ⟨p', hp', heq⟩ := Option.map_eq_some_iff.mp hp
      cases heq
      obtain ⟨hrow, hs⟩ := Option.filter_eq_some_iff.mp hp'
      obtain ⟨hmem, hid⟩ := Table.get?_eq_some.mp hrow
      exact ⟨⟨hmem, hs⟩, ha', by rw [hid, hq]⟩
    · cases hp
  · rintro ⟨⟨hp, hs⟩, ha, hkey⟩
    simp only [Prod.mk.injEq] at hkey
    refine ⟨a, ha, ?_⟩
    rw [if_pos hkey.2, hkey.1, Table.get?_of_mem hp, Option.filter_some, if_pos hs]
    rfl

lemma nodup_answersOf : ((d.answersOf sessionId questionId).map Prod.snd).Nodup := by
  have hkeys : d.answers.rows.Pairwise fun a a' => a.key ≠ a'.key :=
    List.pairwise_map.mp d.answers.unique
  rw [List.Nodup, List.pairwise_map]
  refine hkeys.filterMap _ ?_
  intro a a' hne r hr r' hr' heq
  split at hr <;> split at hr'
  · next hq hq' =>
    obtain ⟨p, hp, rfl⟩ := Option.map_eq_some_iff.mp hr
    obtain ⟨p', hp', rfl⟩ := Option.map_eq_some_iff.mp hr'
    have hid := (Table.get?_eq_some.mp (Option.filter_eq_some_iff.mp hp).1).2
    have hid' := (Table.get?_eq_some.mp (Option.filter_eq_some_iff.mp hp').1).2
    have hsame : p = p' := heq
    apply hne
    rw [GamePlayerAnswer.key, GamePlayerAnswer.key, ← hid, ← hid', hsame, hq, hq']
  · cases hr'
  · cases hr
  · cases hr

lemma nodup_playersOf : (d.playersOf sessionId).Nodup :=
  (List.Nodup.of_map _ d.players.unique).filter _

lemma countP_answersOf (f : GamePlayerAnswer → Prop) [DecidablePred f] :
    (d.answersOf sessionId questionId).countP (fun r => f r.1) =
      (d.playersOf sessionId).countP fun p : GamePlayer =>
        decide (∃ a ∈ d.answers.get? (p.playerId, questionId), f a) := by
  rw [List.countP_eq_length_filter, List.countP_eq_length_filter, ← List.length_map (f := Prod.snd)]
  apply List.Perm.length_eq
  rw [List.perm_ext_iff_of_nodup (nodup_answersOf.sublist (List.filter_sublist.map _))
    (nodup_playersOf.filter _)]
  intro p
  simp only [List.mem_map, List.mem_filter, decide_eq_true_eq]
  constructor
  · rintro ⟨r, ⟨hr, hf⟩, rfl⟩
    obtain ⟨hp, ha⟩ := mem_answersOf.mp hr
    exact ⟨hp, r.1, ha, hf⟩
  · rintro ⟨hp, a, ha, hf⟩
    exact ⟨(a, p), ⟨mem_answersOf.mpr ⟨hp, ha⟩, hf⟩, rfl⟩

end Join

/-- The counts that the handler returns. -/
def counts (d : Db) (sessionId : UUID) (question : QuizQuestion) : List (UUID × ℕ) :=
  question.answers.map fun a => (a.answerId, (((d.answersOf sessionId question.questionId).map
    fun r => r.1.selectedAnswerIds).flatten.count a.answerId))

lemma computeAnswerDistribution_alone [Runtime] (s : State) (sessionId : UUID)
    (question : QuizQuestion) :
    (computeAnswerDistribution sessionId question).alone exec s =
      (.ok (counts s.db sessionId question), s) :=
  rfl

variable {d : Db} {sessionId : UUID} {question : QuizQuestion}

lemma count_eq_iff (option : UUID) :
    ((d.answersOf sessionId question.questionId).map fun r =>
      r.1.selectedAnswerIds).flatten.count option =
        (d.playersOf sessionId).countP (fun p => d.Chose question.questionId option p) ↔
      ∀ r ∈ d.answersOf sessionId question.questionId, r.1.selectedAnswerIds.count option ≤ 1 := by
  have hcount := count_flatten_eq_countP_iff
    ((d.answersOf sessionId question.questionId).map fun r => r.1.selectedAnswerIds) option
  rw [List.countP_map, List.forall_mem_map] at hcount
  have hplayers : (d.answersOf sessionId question.questionId).countP
      (fun r => option ∈ r.1.selectedAnswerIds) =
        (d.playersOf sessionId).countP fun p => d.Chose question.questionId option p :=
    countP_answersOf fun a => option ∈ a.selectedAnswerIds
  rw [← hcount]
  exact Eq.congr_right hplayers.symm

lemma chose_le_answered (option : UUID) :
    (d.playersOf sessionId).countP (fun p => d.Chose question.questionId option p) ≤
      (d.playersOf sessionId).countP fun p => d.Answered question.questionId p := by
  apply List.countP_mono_left
  intro p _ hp
  obtain ⟨a, ha, -⟩ : d.Chose question.questionId option p := by simpa using hp
  rw [decide_eq_true_eq]
  exact Option.isSome_iff_exists.mpr ⟨a, ha⟩

lemma countsPlayers_iff : CountsPlayers d sessionId question (counts d sessionId question) ↔
    NamedOnce d sessionId question := by
  constructor
  · intro h r hr a ha
    have hc := h.chosen _ (List.mem_map_of_mem ha)
    exact (count_eq_iff a.answerId).mp hc r hr
  · intro h
    have hchosen : ∀ c ∈ counts d sessionId question,
        c.2 = (d.playersOf sessionId).countP fun p => d.Chose question.questionId c.1 p := by
      intro c hc
      obtain ⟨a, ha, rfl⟩ := List.mem_map.mp hc
      exact (count_eq_iff a.answerId).mpr fun r hr => h r hr a ha
    refine ⟨by simp [counts], hchosen, ?_, ?_⟩
    · intro c hc
      rw [hchosen c hc]
      exact chose_le_answered c.1
    · intro c hc hnone
      rw [hchosen c hc, List.countP_eq_zero]
      exact fun p hp => by simpa using hnone p hp

end Distribution

/-- The distribution of a question gives each option the players who have chosen it, if and only if
no recorded answer names an option twice. -/
theorem distribution_counts_players_iff [Runtime] (s : State) (sessionId : UUID)
    (question : QuizQuestion) :
    (∃ counts, (computeAnswerDistribution sessionId question).alone exec s = (.ok counts, s) ∧
      CountsPlayers s.db sessionId question counts) ↔ NamedOnce s.db sessionId question := by
  rw [← Distribution.countsPlayers_iff, Distribution.computeAnswerDistribution_alone]
  constructor
  · rintro ⟨counts, heq, h⟩
    cases heq
    exact h
  · exact fun h => ⟨_, rfl, h⟩

section Sample

attribute [local instance] Runtime.ascii

/-- The first question is asked, and the first player's answer names one option twice. -/
def repeatedOption : List system.Act :=
  .spawn (Call.hostFrames "ABCDEF" "host" [.startGame]) :: runs 0 22 ++
    .spawn (Call.playerFrame "ABCDEF" "p1" (.answer "q1" ["q1a", "q1a"])) :: runs 1 12

theorem repeated_option_counts_twice :
    ¬∃ counts, (computeAnswerDistribution "session" (Sample.question "q1" 1)).alone exec
        (run repeatedOption (start Sample.state)).world.state =
          (.ok counts, (run repeatedOption (start Sample.state)).world.state) ∧
      CountsPlayers (State.db (run repeatedOption (start Sample.state)).world.state) "session"
        (Sample.question "q1" 1) counts := by
  rintro ⟨counts, heq, h⟩
  have hcounts := congrArg Prod.fst
    (heq.symm.trans (Distribution.computeAnswerDistribution_alone _ _ _))
  cases hcounts
  have hchosen := h.chosen ("q1a", 2) (by decide +kernel)
  exact absurd hchosen (by decide +kernel)

end Sample


end Askit.Game

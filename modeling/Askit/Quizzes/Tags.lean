import Askit.Interleaving.Sequential
import Askit.Quizzes.Columns
import Askit.Quizzes.System
import Askit.Quizzes.Validation
import Mathlib.Data.Finset.Card

/-! The tags of a quiz, from the list that a client sends to the names that are linked. -/

namespace Askit.Quizzes

open Interleaving Machine Coro Tables
open Game (UUID Time Runtime Dirty)

section Firsts

variable {l : List String} {t u : String}

lemma mem_firsts : t ∈ firsts l ↔ t ∈ l := by
  refine ⟨mem_of_mem_firsts, fun h => ?_⟩
  induction l with
  | nil => cases h
  | cons v l ih =>
    rw [firsts]
    by_cases htv : t = v
    · exact htv ▸ List.mem_cons_self
    · have hl : t ∈ l := (List.mem_cons.mp h).resolve_left htv
      exact List.mem_cons_of_mem v (List.mem_filter.mpr ⟨ih hl, by simpa using htv⟩)

lemma pairwise_firsts (l : List String) : (firsts l).Pairwise fun t u => l.idxOf t < l.idxOf u := by
  induction l with
  | nil => exact .nil
  | cons v l ih =>
    rw [firsts, List.pairwise_cons]
    constructor
    · intro u hu
      have hne : u ≠ v := by simpa using (List.mem_filter.mp hu).2
      simp [List.idxOf_cons_ne _ hne.symm]
    · refine (ih.filter _).imp_of_mem fun ht hu hlt => ?_
      have htv := (List.mem_filter.mp ht).2
      have huv := (List.mem_filter.mp hu).2
      simp only [ne_eq, decide_not, Bool.not_eq_eq_eq_not, Bool.not_true,
        decide_eq_false_iff_not] at htv huv
      rw [List.idxOf_cons_ne _ (Ne.symm htv), List.idxOf_cons_ne _ (Ne.symm huv)]
      omega

lemma length_firsts (l : List String) : (firsts l).length = l.toFinset.card := by
  have hsame : (firsts l).toFinset = l.toFinset := by
    ext t
    simp [mem_firsts]
  rw [← hsame, List.toFinset_card_of_nodup (nodup_firsts l)]

end Firsts

variable [Platform]

/-- The tags that are not empty, in the form in which they are stored. -/
def foldedTags (v : List String) : List String := (v.map foldTag).filter (· ≠ "")

namespace Tags

lemma foldTags_eq (v : List String) : foldTags v =
    if ∃ t ∈ foldedTags v, maxTagLength < t.length then
      .error (.invalidQuizDataError "Quiz tags must not exceed 30 characters")
    else .ok (foldedTags v) := by
  induction v with
  | nil => rfl
  | cons raw v ih =>
    rw [foldTags]
    by_cases hempty : foldTag raw = ""
    · have hskip : foldedTags (raw :: v) = foldedTags v := by simp [foldedTags, hempty]
      rw [if_pos hempty, hskip, ih]
    · have hkeep : foldedTags (raw :: v) = foldTag raw :: foldedTags v := by
        simp [foldedTags, hempty]
      rw [if_neg hempty, hkeep, ih]
      simp only [List.exists_mem_cons_iff]
      by_cases hlong : maxTagLength < (foldTag raw).length
      · rw [if_pos hlong, if_pos (.inl hlong)]
      · rw [if_neg hlong]
        by_cases hrest : ∃ t ∈ foldedTags v, maxTagLength < t.length
        · rw [if_pos hrest, if_pos (.inr hrest)]
          rfl
        · rw [if_neg hrest, if_neg (by simp [hlong, hrest])]
          rfl

lemma validateTags_eq (v : List String) : validateTags v =
    if ∃ t ∈ foldedTags v, maxTagLength < t.length then
      .error (.invalidQuizDataError "Quiz tags must not exceed 30 characters")
    else if maxTagsPerQuiz < (foldedTags v).toFinset.card then
      .error (.invalidQuizDataError "Maximum 5 tags allowed per quiz")
    else .ok (firsts (foldedTags v)) := by
  rw [validateTags, foldTags_eq, ← length_firsts]
  split <;> rfl

lemma firsts_foldedTags {v tags : List String} (h : validateTags v = .ok tags) :
    tags = firsts (foldedTags v) ∧ ∀ t ∈ foldedTags v, t.length ≤ maxTagLength := by
  rw [validateTags_eq] at h
  split_ifs at h with hlong hmany
  cases h
  push Not at hlong
  exact ⟨rfl, hlong⟩

lemma getOrCreateTags_alone (s : State) (created tagNames : List String)
    (hcreated : created.Nodup) :
    ∃ all, (getOrCreateTags created tagNames).alone exec s = (.ok all, s) ∧ all.Nodup ∧
      ∀ t, t ∈ all ↔ t ∈ created ∨ (t ∈ tagNames ∧ s.db.tags.get? t = none) := by
  induction tagNames generalizing created with
  | nil => exact ⟨created, rfl, hcreated, fun t => by simp⟩
  | cons name tagNames ih =>
    have hselect : exec (.selectTag name) s = (.ok (s.db.tags.get? name), s) := rfl
    rw [getOrCreateTags, alone_perform_bind hselect]
    cases hrow : s.db.tags.get? name with
    | some row =>
      obtain ⟨all, hall, hnodup, hmem⟩ := ih created hcreated
      refine ⟨all, hall, hnodup, fun t => ?_⟩
      rw [hmem]
      grind
    | none =>
      have hnext : (if name ∈ created then created else created ++ [name]).Nodup := by
        split
        · exact hcreated
        · next hnew => exact hcreated.append (List.nodup_singleton name) (by simpa using hnew)
      obtain ⟨all, hall, hnodup, hmem⟩ := ih _ hnext
      refine ⟨all, hall, hnodup, fun t => ?_⟩
      rw [hmem]
      grind

end Tags

/-- The elements of the list, each once and in the order in which they occur first. -/
structure OnceInOrder (l once : List String) : Prop where
  nodup : once.Nodup
  mem : ∀ t, t ∈ once ↔ t ∈ l
  order : once.Pairwise fun t u => l.idxOf t < l.idxOf u

/-- The validator refuses a list for one tag too long or for too many; what it returns is the list's
tags, each once, and has nothing left to be changed, created twice or refused by the column. -/
theorem validateTags_spec (v : List String) :
    ((∃ e, validateTags v = .error e) ↔ (∃ t ∈ foldedTags v, maxTagLength < t.length) ∨
        maxTagsPerQuiz < (foldedTags v).toFinset.card) ∧
      ∀ tags, validateTags v = .ok tags → OnceInOrder (foldedTags v) tags ∧
        validateTags tags = .ok tags ∧ (∀ t ∈ tags, TagName t) ∧
        ∀ s, ∃ created, (getOrCreateTags [] tags).alone exec s = (.ok created, s) ∧ created.Nodup ∧
          ∀ t ∈ created, t ∈ tags := by
  constructor
  · rw [Tags.validateTags_eq]
    split_ifs with hlong hmany
    · simp [hlong]
    · simp [hmany]
    · simp [hlong, hmany]
  · intro tags h
    obtain ⟨rfl, hshort⟩ := Tags.firsts_foldedTags h
    refine ⟨⟨nodup_firsts _, fun t => mem_firsts, pairwise_firsts _⟩, validateTags_idem h,
      fun t ht => hshort t (mem_firsts.mp ht), fun s => ?_⟩
    obtain ⟨created, halone, hnodup, hmem⟩ := Tags.getOrCreateTags_alone s [] _ List.nodup_nil
    exact ⟨created, halone, hnodup, fun t ht => (((hmem t).mp ht).resolve_left (by simp)).1⟩

end Askit.Quizzes

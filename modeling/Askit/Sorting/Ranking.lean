import Mathlib.Algebra.BigOperators.Group.List.Basic
import Mathlib.Data.List.Sort
import Mathlib.Tactic.Ring

/-! Where a stable sort puts the elements of a list: alone on its key an element is found at one
place whatever the order before, and two that tie are found as they stood. -/

namespace Askit.Sorting

variable {α β : Type*}

section Sorted

variable [LinearOrder β] {key : α → β} {l l' before after : List α} {x : α}

lemma pairwise_insertionSort_key (key : α → β) (l : List α) :
    (l.insertionSort fun a b => key b ≤ key a).Pairwise fun a b => key b ≤ key a := by
  have : IsTrans α fun a b => key b ≤ key a := ⟨fun _ _ _ h h' => h'.trans h⟩
  have : Std.Total fun a b : α => key b ≤ key a := ⟨fun a b => le_total (key b) (key a)⟩
  exact List.pairwise_insertionSort _ l

lemma length_eq_countP (hsorted : (before ++ x :: after).Pairwise fun a b => key b ≤ key a)
    (hties : ∀ y ∈ before ++ after, key y ≠ key x) :
    before.length = (before ++ x :: after).countP fun y => key x < key y := by
  rw [List.pairwise_append, List.pairwise_cons] at hsorted
  obtain ⟨-, ⟨hafter, -⟩, hbefore⟩ := hsorted
  have hall : before.countP (fun y => key x < key y) = before.length := by
    rw [List.countP_eq_length]
    intro y hy
    have hle := hbefore y hy x List.mem_cons_self
    have hne := hties y (List.mem_append_left _ hy)
    simpa using lt_of_le_of_ne hle (Ne.symm hne)
  have hnone : (x :: after).countP (fun y => key x < key y) = 0 := by
    rw [List.countP_eq_zero]
    intro y hy
    rcases List.mem_cons.mp hy with rfl | hy
    · simp
    · simpa using hafter y hy
  rw [List.countP_append, hall, hnone, Nat.add_zero]

lemma eq_of_perm_of_injOn (h : l.Perm l') (hl : l.Pairwise fun a b => key b ≤ key a)
    (hl' : l'.Pairwise fun a b => key b ≤ key a) (hinj : ∀ a ∈ l, ∀ b ∈ l, key a = key b → a = b) :
    l = l' := by
  apply h.eq_of_pairwise _ hl hl'
  intro a b ha hb hab hba
  exact hinj a ha b (h.mem_iff.mpr hb) (le_antisymm hba hab)

end Sorted

section Ties

variable [LinearOrder β] (key : α → β) {x y : α}

lemma orderedInsert_swap (hties : key x = key y) (z : α) (before after : List α) : ∃ before' after',
    (before ++ x :: y :: after).orderedInsert (fun a b => key b ≤ key a) z = before' ++
      x :: y :: after' ∧
      (before ++ y :: x :: after).orderedInsert (fun a b => key b ≤ key a) z = before' ++ y ::
        x :: after' := by
  induction before with
  | nil =>
    by_cases hz : key y ≤ key z
    · exact ⟨[z], after, by simp [hties, hz], by simp [hz]⟩
    · exact ⟨[], after.orderedInsert (fun a b => key b ≤ key a) z, by simp [hties, hz], by
        simp [hties, hz]⟩
  | cons b before ih =>
    by_cases hz : key b ≤ key z
    · exact ⟨z :: b :: before, after, by simp [hz], by simp [hz]⟩
    · obtain ⟨before', after', hx, hy⟩ := ih
      exact ⟨b :: before', after', by simp [hz, hx], by simp [hz, hy]⟩

lemma orderedInsert_ties (hties : key x = key y) (l : List α) : ∃ before after,
    (l.orderedInsert (fun a b => key b ≤ key a) y).orderedInsert (fun a b => key b ≤ key a) x =
        before ++ x :: y :: after ∧
      (l.orderedInsert (fun a b => key b ≤ key a) x).orderedInsert (fun a b => key b ≤ key a) y =
        before ++ y :: x :: after := by
  induction l with
  | nil => exact ⟨[], [], by simp [hties], by simp [hties]⟩
  | cons z l ih =>
    by_cases hz : key z ≤ key y
    · exact ⟨[], z :: l, by simp [hties, hz], by simp [hties, hz]⟩
    · obtain ⟨before, after, hx, hy⟩ := ih
      exact ⟨z :: before, after, by simp [hties, hz, hx], by simp [hties, hz, hy]⟩

lemma insertionSort_ties (hties : key x = key y) (front l : List α) : ∃ before after,
    (front ++ x :: y :: l).insertionSort (fun a b => key b ≤ key a) = before ++ x :: y :: after ∧
      (front ++ y :: x :: l).insertionSort (fun a b => key b ≤ key a) = before ++ y ::
        x :: after := by
  induction front with
  | nil => exact orderedInsert_ties key hties _
  | cons z front ih =>
    obtain ⟨before, after, hx, hy⟩ := ih
    obtain ⟨before', after', hx', hy'⟩ := orderedInsert_swap key hties z before after
    refine ⟨before', after', ?_, ?_⟩
    · rw [List.cons_append, List.insertionSort_cons, hx, hx']
    · rw [List.cons_append, List.insertionSort_cons, hy, hy']

end Ties

section Stable

variable [LinearOrder β] (key : α → β)

lemma filter_orderedInsert (b : β) (x : α) (l : List α) :
    (l.orderedInsert (fun a b => key b ≤ key a) x).filter (key · = b) =
      (x :: l).filter (key · = b) := by
  induction l with
  | nil => rfl
  | cons y l ih =>
    by_cases hxy : key y ≤ key x
    · rw [List.orderedInsert_cons, if_pos hxy]
    · have hne : key y ≠ key x := fun h => hxy h.le
      rw [List.orderedInsert_cons, if_neg hxy, List.filter_cons, ih]
      simp only [List.filter_cons, decide_eq_true_eq]
      by_cases hx : key x = b
      · have hy : key y ≠ b := fun h => hne (h.trans hx.symm)
        rw [if_pos hx, if_neg hy, if_neg hy, if_pos hx]
      · rw [if_neg hx, if_neg hx]

lemma filter_insertionSort (b : β) (l : List α) :
    (l.insertionSort fun a b => key b ≤ key a).filter (key · = b) = l.filter (key · = b) := by
  induction l with
  | nil => rfl
  | cons x l ih =>
    rw [List.insertionSort_cons, filter_orderedInsert, List.filter_cons, List.filter_cons, ih]

end Stable

section Places

variable {l l' : List α}

lemma map_idxOf [DecidableEq α] (h : l.Nodup) : l.map l.idxOf = List.range l.length := by
  apply List.ext_getElem
  · simp
  · intro i hi hi'
    rw [List.getElem_map, List.getElem_range, h.idxOf_getElem]

lemma sum_map_sub (f g : α → ℕ) (l : List α) :
    (l.map fun x => (f x : ℤ) - g x).sum = ((l.map f).sum : ℤ) - (l.map g).sum := by
  induction l with
  | nil => rfl
  | cons x l ih =>
    simp only [List.map_cons, List.sum_cons, ih]
    push_cast
    ring

lemma sum_moves [DecidableEq α] (h : l.Perm l') (hl : l.Nodup) :
    (l'.map fun x => (l.idxOf x : ℤ) - l'.idxOf x).sum = 0 := by
  have hsum : (l'.map l.idxOf).sum = (l'.map l'.idxOf).sum := by
    rw [← (h.map l.idxOf).sum_eq, map_idxOf hl, map_idxOf (h.nodup_iff.mp hl), h.length_eq]
  rw [sum_map_sub, hsum, sub_self]

end Places

end Askit.Sorting

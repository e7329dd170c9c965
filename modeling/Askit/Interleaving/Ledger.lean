import Askit.Interleaving.Trace
import Mathlib.Algebra.BigOperators.Group.Finset.Basic

/-! Sums over the processes of what each one's own events amount to. -/

namespace Askit.Interleaving

open Finset

variable {Op : Type → Type} {ε : Type} {μ : List (Event Op ε) → ℕ} {history : List (Event Op ε)}

/-- What the first `n` processes amount to. -/
def total (μ : List (Event Op ε) → ℕ) (history : List (Event Op ε)) (n : ℕ) : ℕ :=
  ∑ i ∈ range n, μ (own i history)

variable (μ history) in
lemma total_append {i n : ℕ} (hi : i < n) {β : Type} (o : Op β) (r : Except ε β) :
    total μ (history ++ [⟨i, o, r⟩]) n + μ (own i history) =
      total μ history n + μ (own i history ++ [⟨i, o, r⟩]) := by
  have hmem : i ∈ range n := mem_range.mpr hi
  have hrest : ∑ j ∈ (range n).erase i, μ (own j (history ++ [⟨i, o, r⟩])) =
      ∑ j ∈ (range n).erase i, μ (own j history) := by
    apply sum_congr rfl
    intro j hj
    rw [own_append_of_ne (ne_of_mem_erase hj).symm]
  rw [total, total, ← add_sum_erase _ _ hmem, ← add_sum_erase (range n)
    (fun j => μ (own j history)) hmem, hrest, own_append_self]
  omega

lemma total_succ {n : ℕ} (hμ : μ [] = 0) (h : ∀ ev ∈ history, ev.pid < n) :
    total μ history (n + 1) = total μ history n := by
  have hown : own n history = [] := own_eq_nil fun ev hev => Nat.ne_of_lt (h ev hev)
  rw [total, sum_range_succ, hown, hμ]
  rfl

lemma total_eq_zero {n : ℕ} (h : ∀ i < n, μ (own i history) = 0) : total μ history n = 0 :=
  sum_eq_zero fun i hi => h i (mem_range.mp hi)

end Askit.Interleaving

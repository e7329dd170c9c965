import Mathlib.Data.List.Nodup
import Mathlib.Tactic.Lemma
import Mathlib.Tactic.Tauto

/-! Python's dictionaries as lists of pairs: a key keeps the place at which it came first. -/

namespace Askit.Codec

variable {α β : Type} [DecidableEq α]

def store (d : List (α × β)) (p : α × β) : List (α × β) :=
  if p.1 ∈ d.map Prod.fst then d.map fun q => if q.1 = p.1 then p else q else d ++ [p]

namespace Dicts

variable {d l : List (α × β)} {p : α × β} {k : α} {v : β}

lemma map_fst_store (d : List (α × β)) (p : α × β) : (store d p).map Prod.fst =
    if p.1 ∈ d.map Prod.fst then d.map Prod.fst else d.map Prod.fst ++ [p.1] := by
  unfold store
  split
  · rw [List.map_map]
    apply List.map_congr_left
    intro q hq
    by_cases h : q.1 = p.1 <;> simp [h]
  · rw [List.map_append, List.map_singleton]

lemma nodup_store (h : (d.map Prod.fst).Nodup) : ((store d p).map Prod.fst).Nodup := by
  rw [map_fst_store]
  split
  · exact h
  · next hp => exact h.append (List.nodup_singleton _) (by simpa using hp)

lemma mem_store {q : α × β} : q ∈ store d p ↔ q = p ∨ (q ∈ d ∧ q.1 ≠ p.1) := by
  unfold store
  split
  · next hp =>
    rw [List.mem_map]
    constructor
    · rintro ⟨r, hr, rfl⟩
      by_cases hk : r.1 = p.1
      · exact .inl (if_pos hk)
      · rw [if_neg hk]
        exact .inr ⟨hr, hk⟩
    · rintro (rfl | ⟨hq, hk⟩)
      · obtain ⟨r, hr, hk⟩ := List.mem_map.mp hp
        exact ⟨r, hr, if_pos hk⟩
      · exact ⟨q, hq, if_neg hk⟩
  · next hp =>
    rw [List.mem_append, List.mem_singleton]
    constructor
    · rintro (hq | rfl)
      · exact .inr ⟨hq, fun hk => hp (hk ▸ List.mem_map_of_mem hq)⟩
      · exact .inl rfl
    · rintro (rfl | ⟨hq, -⟩)
      · exact .inr rfl
      · exact .inl hq

lemma foldl_store (h : ((d ++ l).map Prod.fst).Nodup) : l.foldl store d = d ++ l := by
  induction l generalizing d with
  | nil => rw [List.foldl_nil, List.append_nil]
  | cons p l ih =>
    have hnew : p.1 ∉ d.map Prod.fst := by
      rw [List.map_append, List.map_cons] at h
      exact fun hp => (List.nodup_append.mp h).2.2 p.1 hp p.1 List.mem_cons_self rfl
    rw [List.foldl_cons, store, if_neg hnew, ih (by simpa using h), List.append_assoc]
    rfl

lemma nodup_foldl (h : (d.map Prod.fst).Nodup) (l : List (α × β)) :
    ((l.foldl store d).map Prod.fst).Nodup := by
  induction l generalizing d with
  | nil => exact h
  | cons p l ih => exact ih (nodup_store h)

lemma mem_of_mem_foldl {q : α × β} (hq : q ∈ l.foldl store d) : q ∈ l ∨ q ∈ d := by
  induction l generalizing d with
  | nil => exact .inr hq
  | cons p l ih =>
    rcases ih hq with hq | hq
    · exact .inl (List.mem_cons_of_mem p hq)
    · rcases mem_store.mp hq with rfl | ⟨hq, -⟩
      · exact .inl List.mem_cons_self
      · exact .inr hq

lemma key_mem_foldl :
    k ∈ (l.foldl store d).map Prod.fst ↔ k ∈ l.map Prod.fst ∨ k ∈ d.map Prod.fst := by
  induction l generalizing d with
  | nil => simp
  | cons p l ih =>
    rw [List.foldl_cons, ih, map_fst_store, List.map_cons, List.mem_cons]
    split
    · next hp => exact ⟨by tauto, by rintro ((rfl | h) | h) <;> tauto⟩
    · rw [List.mem_append, List.mem_singleton]
      tauto

section Lookup

variable [BEq α] [LawfulBEq α]

lemma lookup_eq_some (h : (d.map Prod.fst).Nodup) : d.lookup k = some v ↔ (k, v) ∈ d := by
  induction d with
  | nil => simp
  | cons q d ih =>
    obtain ⟨k', w⟩ := q
    rw [List.map_cons, List.nodup_cons] at h
    rw [List.lookup_cons, List.mem_cons, Prod.mk.injEq]
    by_cases hk : k = k'
    · subst hk
      have hnew : (k, v) ∉ d := fun hv => h.1 (List.mem_map.mpr ⟨_, hv, rfl⟩)
      simp [hnew, eq_comm]
    · rw [beq_eq_false_iff_ne.mpr hk]
      simp only [hk, false_and, false_or]
      exact ih h.2

lemma lookup_eq_none : d.lookup k = none ↔ k ∉ d.map Prod.fst := by
  induction d with
  | nil => simp
  | cons q d ih =>
    rw [List.lookup_cons, List.map_cons, List.mem_cons]
    by_cases hk : k = q.1
    · simp [hk]
    · rw [beq_eq_false_iff_ne.mpr hk]
      simp only [hk, false_or]
      exact ih

lemma lookup_store (h : (d.map Prod.fst).Nodup) :
    (store d p).lookup k = if k = p.1 then some p.2 else d.lookup k := by
  split
  · next hk =>
    rw [lookup_eq_some (nodup_store h), mem_store]
    exact .inl (Prod.ext hk rfl)
  · next hk =>
    cases hv : d.lookup k with
    | none =>
      rw [lookup_eq_none] at hv ⊢
      rw [map_fst_store]
      split
      · exact hv
      · simp [hv, hk]
    | some v =>
      rw [lookup_eq_some h] at hv
      rw [lookup_eq_some (nodup_store h), mem_store]
      exact .inr ⟨hv, hk⟩

end Lookup

end Dicts

end Askit.Codec

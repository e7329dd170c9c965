import Mathlib.Data.List.Nodup
import Mathlib.Tactic.Lemma

/-! Tables with a unique key. The rows keep their order and no two of them share a key. -/

namespace Askit.Tables

structure Table {κ ρ : Type} (key : ρ → κ) where
  rows : List ρ
  unique : (rows.map key).Nodup

namespace Table

variable {κ ρ : Type} [DecidableEq κ] {key : ρ → κ}

def empty : Table key := ⟨[], List.nodup_nil⟩

def get? (t : Table key) (k : κ) : Option ρ := t.rows.find? fun r => key r = k

def insert (t : Table key) (r : ρ) : Option (Table key) :=
  if h : key r ∈ t.rows.map key then none
  else some ⟨t.rows ++ [r], by
    rw [List.map_append, List.map_singleton]
    exact t.unique.append (List.nodup_singleton _) (by simpa [List.disjoint_singleton] using h)⟩

def modify (t : Table key) (k : κ) (f : ρ → ρ) (hf : ∀ r, key (f r) = key r) : Table key :=
  ⟨t.rows.map fun r => if key r = k then f r else r, by
    have hk : t.rows.map (key ∘ fun r => if key r = k then f r else r) = t.rows.map key :=
      List.map_congr_left fun r _ => by
        by_cases h : key r = k
        · simp [h, hf]
        · simp [h]
    rw [List.map_map, hk]
    exact t.unique⟩

def map {ρ' : Type} {key' : ρ' → κ} (t : Table key) (f : ρ → ρ') (hf : ∀ r, key' (f r) = key r) :
    Table key' :=
  ⟨t.rows.map f, by
    rw [List.map_map, show key' ∘ f = key from funext hf]
    exact t.unique⟩

def remove (t : Table key) (gone : ρ → Bool) : Table key :=
  ⟨t.rows.filter fun r => !gone r, t.unique.sublist (List.filter_sublist.map key)⟩

def insertAll (t : Table key) : List ρ → Option (Table key)
  | [] => some t
  | r :: rows => (t.insert r).bind fun u => u.insertAll rows

omit [DecidableEq κ] in
@[simp] lemma rows_remove (t : Table key) (gone : ρ → Bool) :
    (t.remove gone).rows = t.rows.filter fun r => !gone r := rfl

lemma get?_eq_some {t : Table key} {k : κ} {r : ρ} :
    t.get? k = some r ↔ r ∈ t.rows ∧ key r = k := by
  constructor
  · intro h
    exact ⟨List.mem_of_find?_eq_some h, by simpa using List.find?_some h⟩
  · rintro ⟨hr, rfl⟩
    cases hf : t.get? (key r) with
    | none => simpa using List.find?_eq_none.mp hf r hr
    | some s =>
      have hk : key s = key r := by simpa using List.find?_some hf
      exact congrArg some (List.inj_on_of_nodup_map t.unique (List.mem_of_find?_eq_some hf) hr hk)

lemma get?_eq_none {t : Table key} {k : κ} : t.get? k = none ↔ k ∉ t.rows.map key := by
  simp [get?]

lemma key_get? {t : Table key} {k : κ} {r : ρ} (h : t.get? k = some r) : key r = k :=
  (get?_eq_some.mp h).2

lemma mem_get? {t : Table key} {k : κ} {r : ρ} (h : t.get? k = some r) : r ∈ t.rows :=
  (get?_eq_some.mp h).1

lemma get?_of_mem {t : Table key} {r : ρ} (h : r ∈ t.rows) : t.get? (key r) = some r :=
  get?_eq_some.mpr ⟨h, rfl⟩

@[simp] lemma rows_modify (t : Table key) (k : κ) (f : ρ → ρ) (hf : ∀ r, key (f r) = key r) :
    (t.modify k f hf).rows = t.rows.map fun r => if key r = k then f r else r := rfl

lemma get?_modify (t : Table key) (k j : κ) (f : ρ → ρ) (hf : ∀ r, key (f r) = key r) :
    (t.modify k f hf).get? j = (t.get? j).map fun r => if j = k then f r else r := by
  unfold get?
  rw [rows_modify, List.find?_map]
  have hp : ((fun r => decide (key r = j)) ∘ fun r => if key r = k then f r else r) =
      fun r => decide (key r = j) := by
    funext r
    by_cases h : key r = k
    · simp [h, hf]
    · simp [h]
  rw [hp]
  cases h : t.rows.find? fun r => decide (key r = j) with
  | none => rfl
  | some r =>
    have hr : key r = j := by simpa using List.find?_some h
    simp [hr]

@[simp] lemma get?_modify_self (t : Table key) (k : κ) (f : ρ → ρ) (hf : ∀ r, key (f r) = key r) :
    (t.modify k f hf).get? k = (t.get? k).map f := by
  simp [get?_modify]

lemma get?_modify_of_ne (t : Table key) {k j : κ} (f : ρ → ρ) (hf : ∀ r, key (f r) = key r)
    (h : j ≠ k) : (t.modify k f hf).get? j = t.get? j := by
  simp [get?_modify, h]

lemma get?_map {ρ' : Type} {key' : ρ' → κ} (t : Table key) (f : ρ → ρ')
    (hf : ∀ r, key' (f r) = key r) (k : κ) :
    (t.map f hf).get? k = (t.get? k).map f := by
  unfold get? map
  rw [List.find?_map]
  simp only [Function.comp_def, hf]

lemma filter_modify {t : Table key} {k : κ} {f : ρ → ρ} {hf : ∀ r, key (f r) = key r}
    {p : ρ → Bool} (hp : ∀ r, p (f r) = p r) :
    (t.modify k f hf).rows.filter p = (t.rows.filter p).map fun r => if key r = k then f
      r else r := by
  rw [rows_modify, List.filter_map]
  congr 1
  apply List.filter_congr
  intro r _
  by_cases h : key r = k <;> simp [h, hp]

lemma filter_modify_of_not {t : Table key} {k : κ} {f : ρ → ρ} {hf : ∀ r, key (f r) = key r}
    {p : ρ → Bool} (hp : ∀ r, p (f r) = p r) (h : ∀ r ∈ t.rows, key r = k → p r = false) :
    (t.modify k f hf).rows.filter p = t.rows.filter p := by
  rw [filter_modify hp]
  conv_rhs => rw [← List.map_id (t.rows.filter p)]
  apply List.map_congr_left
  intro r hr
  obtain ⟨hmem, hpr⟩ := List.mem_filter.mp hr
  refine if_neg fun hk => ?_
  rw [h r hmem hk] at hpr
  cases hpr

lemma insert_eq_none {t : Table key} {r : ρ} : t.insert r = none ↔ key r ∈ t.rows.map key := by
  by_cases h : key r ∈ t.rows.map key <;> simp [insert, h]

lemma exists_insert {t : Table key} {r : ρ} (h : key r ∉ t.rows.map key) :
    ∃ u, t.insert r = some u :=
  Option.ne_none_iff_exists'.mp fun hnone => h (insert_eq_none.mp hnone)

lemma rows_insert {t u : Table key} {r : ρ} (h : t.insert r = some u) : u.rows = t.rows ++ [r] := by
  unfold insert at h
  split at h
  · cases h
  · cases h
    rfl

lemma fresh_of_insert {t u : Table key} {r : ρ} (h : t.insert r = some u) :
    key r ∉ t.rows.map key := by
  intro hk
  rw [insert_eq_none.mpr hk] at h
  cases h

lemma get?_insert {t u : Table key} {r : ρ} (h : t.insert r = some u) (k : κ) :
    u.get? k = if k = key r then some r else t.get? k := by
  have hf := get?_eq_none.mpr (fresh_of_insert h)
  unfold get? at hf ⊢
  rw [rows_insert h, List.find?_append]
  split_ifs with hk
  · subst hk
    simp [hf]
  · simp [Ne.symm hk]

lemma mem_insert {t u : Table key} {r : ρ} (h : t.insert r = some u) (s : ρ) :
    s ∈ u.rows ↔ s ∈ t.rows ∨ s = r := by
  simp [rows_insert h]

lemma rows_insertAll {t u : Table key} {rows : List ρ} (h : t.insertAll rows = some u) :
    u.rows = t.rows ++ rows := by
  induction rows generalizing t with
  | nil =>
    cases h
    exact (List.append_nil _).symm
  | cons r rows ih =>
    obtain ⟨v, hv, hu⟩ := Option.bind_eq_some_iff.mp h
    rw [ih hu, rows_insert hv, List.append_assoc, List.singleton_append]

lemma exists_insertAll {t : Table key} {rows : List ρ} (hnodup : (rows.map key).Nodup)
    (hnew : ∀ r ∈ rows, key r ∉ t.rows.map key) : ∃ u, t.insertAll rows = some u := by
  induction rows generalizing t with
  | nil => exact ⟨t, rfl⟩
  | cons r rows ih =>
    obtain ⟨hfirst, hrest⟩ := List.nodup_cons.mp hnodup
    obtain ⟨u, hu⟩ := exists_insert (hnew r List.mem_cons_self)
    obtain ⟨v, hv⟩ := ih (t := u) hrest fun s hs => by
      rw [rows_insert hu, List.map_append, List.mem_append, not_or]
      refine ⟨hnew s (List.mem_cons_of_mem r hs), fun hk => hfirst ?_⟩
      rw [← List.mem_singleton.mp hk]
      exact List.mem_map_of_mem hs
    exact ⟨v, by rw [insertAll, hu]; exact hv⟩

omit [DecidableEq κ] in
lemma ext_rows {t u : Table key} (h : t.rows = u.rows) : t = u := by
  cases t
  cases u
  cases h
  rfl

lemma insertAll_eq {t u : Table key} {rows : List ρ} (h : u.rows = t.rows ++ rows) :
    t.insertAll rows = some u := by
  have hunique := u.unique
  rw [h, List.map_append, List.nodup_append] at hunique
  obtain ⟨-, hnodup, hfresh⟩ := hunique
  obtain ⟨v, hv⟩ := exists_insertAll hnodup fun r hr hk =>
    hfresh _ hk _ (List.mem_map_of_mem hr) rfl
  rw [hv, ext_rows ((rows_insertAll hv).trans h.symm)]

lemma insert_eq {t u : Table key} {r : ρ} (h : u.rows = t.rows ++ [r]) : t.insert r = some u := by
  have hunique := u.unique
  rw [h, List.map_append, List.nodup_append] at hunique
  obtain ⟨v, hv⟩ := exists_insert (t := t) (r := r) fun hk =>
    hunique.2.2 _ hk _ (List.mem_map_of_mem (List.mem_singleton_self r)) rfl
  rw [hv, ext_rows ((rows_insert hv).trans h.symm)]

end Table

end Askit.Tables

import Askit.Tables.KeyedTable

/-! Foreign keys between tables, and what inserts, updates and deletes keep of them. -/

namespace Askit.Tables

variable {κ κ' ρ ρ' : Type} {key : ρ → κ} {key' : ρ' → κ'}

namespace Table

def keys (t : Table key) : List κ := t.rows.map key

def add (t : Table key) (r : ρ) (h : key r ∉ t.keys) : Table key :=
  ⟨t.rows ++ [r], by
    rw [List.map_append, List.map_singleton]
    exact t.unique.append (List.nodup_singleton _) (List.disjoint_singleton.mpr h)⟩

@[simp] lemma rows_add (t : Table key) (r : ρ) (h : key r ∉ t.keys) :
    (t.add r h).rows = t.rows ++ [r] := rfl

@[simp] lemma keys_add (t : Table key) (r : ρ) (h : key r ∉ t.keys) :
    (t.add r h).keys = t.keys ++ [key r] := by
  simp [keys]

lemma key_mem_keys {t : Table key} {r : ρ} (h : r ∈ t.rows) : key r ∈ t.keys :=
    List.mem_map_of_mem h

variable [DecidableEq κ]

@[simp] lemma keys_modify (t : Table key) (k : κ) (f : ρ → ρ) (hf : ∀ r, key (f r) = key r) :
    (t.modify k f hf).keys = t.keys := by
  rw [keys, rows_modify, List.map_map]
  refine List.map_congr_left fun r _ => ?_
  by_cases hr : key r = k
  · simp [hr, hf]
  · simp [hr]

lemma isSome_get? {t : Table key} {k : κ} : (t.get? k).isSome ↔ k ∈ t.keys := by
  rw [Option.isSome_iff_ne_none, ne_eq, get?_eq_none, not_not]
  rfl

lemma filter_key (t : Table key) (k : κ) :
    (t.rows.filter fun r => key r = k) = (t.get? k).toList := by
  obtain ⟨rows, hunique⟩ := t
  unfold get?
  dsimp only
  induction rows with
  | nil => rfl
  | cons r rows ih =>
    obtain ⟨hr, hunique⟩ := List.nodup_cons.mp hunique
    by_cases hk : key r = k
    · have hnone : (rows.filter fun r => decide (key r = k)) = [] :=
        List.filter_eq_nil_iff.mpr fun s hs => by
          simpa using fun h : key s = k => hr (hk ▸ h ▸ List.mem_map_of_mem hs)
      simp [hk, hnone]
    · simp [hk, ih hunique]

lemma filterMap_get? (t : Table key) : t.keys.filterMap t.get? = t.rows := by
  have hfound : ∀ r ∈ t.rows, (t.get? ∘ key) r = some r := fun r hr => get?_of_mem hr
  rw [keys, List.filterMap_map, List.filterMap_congr hfound]
  exact List.filterMap_some

lemma ext_get? {t u : Table key} (hkeys : t.keys = u.keys) (h : ∀ k, t.get? k = u.get? k) :
    t = u := by
  refine ext_rows ?_
  rw [← filterMap_get? t, ← filterMap_get? u, hkeys, funext h]

def removed (t : Table key) (gone : ρ → Bool) : List κ := (t.rows.filter gone).map key

omit [DecidableEq κ] in
lemma mem_removed {t : Table key} {gone : ρ → Bool} {k : κ} :
    k ∈ t.removed gone ↔ ∃ r ∈ t.rows, gone r = true ∧ key r = k := by
  simp [removed, and_assoc]

omit [DecidableEq κ] in
lemma rows_remove_of {t : Table key} {gone : ρ → Bool} {P : ρ → Prop} [DecidablePred P]
    (h : ∀ r ∈ t.rows, gone r = true ↔ P r) :
    (t.remove gone).rows = t.rows.filter fun r => ¬P r := by
  rw [rows_remove]
  refine List.filter_congr fun r hr => ?_
  rw [decide_not]
  exact congrArg _ (Bool.eq_iff_iff.mpr ((h r hr).trans decide_eq_true_iff.symm))

omit [DecidableEq κ] in
lemma mem_keys_remove {t : Table key} {gone : ρ → Bool} {k : κ} :
    k ∈ (t.remove gone).keys ↔ k ∈ t.keys ∧ k ∉ t.removed gone := by
  simp only [keys, rows_remove, removed, List.mem_map, List.mem_filter, Bool.not_eq_true']
  constructor
  · rintro ⟨r, ⟨hr, hkept⟩, rfl⟩
    refine ⟨⟨r, hr, rfl⟩, ?_⟩
    rintro ⟨s, ⟨hs, hgone⟩, hk⟩
    obtain rfl := List.inj_on_of_nodup_map t.unique hs hr hk
    rw [hkept] at hgone
    cases hgone
  · rintro ⟨⟨r, hr, rfl⟩, hkept⟩
    refine ⟨r, ⟨hr, ?_⟩, rfl⟩
    by_contra hgone
    exact hkept ⟨r, ⟨hr, Bool.not_eq_false _ |>.mp hgone⟩, rfl⟩

end Table

open Table

/-- Every row names a key of the other table; a row whose reference is null names none. -/
def Refers (rows : List ρ) (fk : ρ → Option κ) (keys : List κ) :
    Prop := ∀ r ∈ rows, ∀ k, fk r = some k → k ∈ keys

namespace Refers

variable {rows rows' : List ρ} {fk : ρ → Option κ} {keys keys' : List κ}

lemma mono (h : Refers rows fk keys) (hrows : rows' ⊆ rows) (hkeys : keys ⊆ keys') :
    Refers rows' fk keys' :=
  fun r hr k hk => hkeys (h r (hrows hr) k hk)

lemma grow (h : Refers rows fk keys) (k : κ) : Refers rows fk (keys ++ [k]) :=
  h.mono (List.Subset.refl _) (List.subset_append_left _ _)

lemma shrink (h : Refers rows fk keys) (p : ρ → Bool) : Refers (rows.filter p) fk keys :=
  h.mono (List.filter_subset_self rows) (List.Subset.refl _)

lemma snoc {r : ρ} (h : Refers rows fk keys) (hr : ∀ k, fk r = some k → k ∈ keys) :
    Refers (rows ++ [r]) fk keys := by
  intro s hs k hk
  rcases List.mem_append.mp hs with hs | hs
  · exact h s hs k hk
  · obtain rfl := List.mem_singleton.mp hs
    exact hr k hk

lemma modified {t : Table key} [DecidableEq κ] {fk' : ρ → Option κ'} {keys : List κ'} {k : κ}
    {f : ρ → ρ} (h : Refers t.rows fk' keys) (hf : ∀ r, key (f r) = key r)
    (hfk : ∀ r, fk' (f r) = fk' r) :
    Refers (t.modify k f hf).rows fk' keys := by
  intro s hs j hj
  obtain ⟨r, hr, rfl⟩ := List.mem_map.mp hs
  by_cases hk : key r = k
  · rw [if_pos hk, hfk] at hj
    exact h r hr j hj
  · rw [if_neg hk] at hj
    exact h r hr j hj

lemma restrict {t : Table key'} {gone : ρ' → Bool} {fk : ρ → Option κ'}
    (h : Refers rows fk t.keys) (hkept : ∀ r ∈ rows, ∀ k, fk r = some k → k ∉ t.removed gone) :
    Refers rows fk (t.remove gone).keys :=
  fun r hr k hk => mem_keys_remove.mpr ⟨h r hr k hk, hkept r hr k hk⟩

/-- `ON DELETE CASCADE`: the rows that name a removed key go with it. -/
lemma cascade [DecidableEq κ'] {t : Table key'} {gone : ρ' → Bool} {fk : ρ → Option κ'}
    {p : ρ → Bool} (h : Refers rows fk t.keys)
    (hp : ∀ r k, p r = true → fk r = some k → k ∉ t.removed gone) :
    Refers (rows.filter p) fk (t.remove gone).keys :=
  (h.shrink p).restrict fun r hr k hk => hp r k (List.mem_filter.mp hr).2 hk

end Refers

section Children

variable {parents : List ρ'} {g : ρ' → κ} {children : ρ' → List ρ} {fk : ρ → κ} [DecidableEq κ]

lemma filter_children_of_notMem {k : κ} (hfk : ∀ r ∈ parents, ∀ c ∈ children r, fk c = g r)
    (hk : k ∉ parents.map g) :
    (parents.flatMap children).filter (fun c => decide (fk c = k)) = [] := by
  rw [List.filter_eq_nil_iff]
  intro c hc
  obtain ⟨r, hr, hc⟩ := List.mem_flatMap.mp hc
  simpa using fun h => hk (List.mem_map.mpr ⟨r, hr, (hfk r hr c hc).symm.trans h⟩)

lemma filter_children {r : ρ'} (hid : (parents.map g).Nodup)
    (hfk : ∀ r ∈ parents, ∀ c ∈ children r, fk c = g r) (hr : r ∈ parents) :
    (parents.flatMap children).filter (fun c => decide (fk c = g r)) =
      children r := by
  induction parents with
  | nil => cases hr
  | cons s parents ih =>
    obtain ⟨hs, hid⟩ := List.nodup_cons.mp hid
    obtain ⟨hfirst, hrest⟩ := List.forall_mem_cons.mp hfk
    rw [List.flatMap_cons, List.filter_append]
    rcases List.mem_cons.mp hr with rfl | hr
    · rw [filter_children_of_notMem hrest hs, List.append_nil]
      exact List.filter_eq_self.mpr fun c hc => decide_eq_true (hfirst c hc)
    · have hne : g r ≠ g s := fun h => hs (h ▸ List.mem_map_of_mem hr)
      have hnone : (children s).filter (fun c => decide (fk c = g r)) = [] :=
        List.filter_eq_nil_iff.mpr fun c hc => by simpa [hfirst c hc] using hne.symm
      rw [hnone, List.nil_append]
      exact ih hid hrest hr

end Children

end Askit.Tables

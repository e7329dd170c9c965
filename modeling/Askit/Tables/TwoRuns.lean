import Askit.Tables.Transactions

/-! Two runs that return the same. A relation holds between what the sessions see, another between
what they have committed, both at the state of what is not in the database. -/

namespace Askit.Tables

open Interleaving Coro

variable {δ ε σ α β : Type}

namespace Twin

/-- Both sessions see something, and this is related, or both have been refused with the same
error. -/
inductive Seen (P : δ → δ → Prop) : Except ε δ → Except ε δ → Prop
  | ok {d d' : δ} (h : P d d') : Seen P (.ok d) (.ok d')
  | error (e : ε) : Seen P (.error e) (.error e)

structure Views (C P : σ → δ → δ → Prop) (v v' : View δ ε σ) : Prop where
  world : v'.world = v.world
  committed : C v.world v.committed v'.committed
  seen : Seen (P v.world) v.seen v'.seen

inductive Outcomes (C : σ → δ → δ → Prop) (Q : α → σ → δ → δ → Prop) :
    Except ε α × View δ ε σ → Except ε α × View δ ε σ → Prop
  | ok {a : α} {v v' : View δ ε σ} (h : Views C (Q a) v v') : Outcomes C Q (.ok a, v) (.ok a, v')
  | error {e : ε} {v v' : View δ ε σ} (hworld : v'.world = v.world)
      (hcommitted : C v.world v.committed v'.committed) :
    Outcomes C Q (.error e, v) (.error e, v')

end Twin

/-- From sessions that `P` relates the programs return the same in sessions that `Q` relates, or
raise the same. -/
def Twin (C P : σ → δ → δ → Prop) (Q : α → σ → δ → δ → Prop) (x y : Coro (Action δ ε σ) ε α) :
    Prop :=
  ∀ v v', Twin.Views C P v v' → Twin.Outcomes C Q (x.alone View.exec v) (y.alone View.exec v')

namespace Twin

variable {C P P' : σ → δ → δ → Prop} {Q Q' : α → σ → δ → δ → Prop} {R : β → σ → δ → δ → Prop}

lemma Seen.mono {S T : δ → δ → Prop} {r r' : Except ε δ} (h : Seen S r r')
    (hST : ∀ d d', S d d' → T d d') :
    Seen T r r' := by
  cases h with
  | ok h => exact .ok (hST _ _ h)
  | error e => exact .error e

lemma Views.mono {v v' : View δ ε σ} (h : Views C P v v') (hP : ∀ w d d', P w d d' → P' w d d') :
    Views C P' v v' :=
  ⟨h.world, h.committed, h.seen.mono (hP _)⟩

lemma Outcomes.mono {r r' : Except ε α × View δ ε σ} (h : Outcomes C Q r r')
    (hQ : ∀ a w d d', Q a w d d' → Q' a w d d') : Outcomes C Q' r r' := by
  cases h with
  | ok h => exact .ok (h.mono (hQ _))
  | error hworld hcommitted => exact .error hworld hcommitted

section Rules

variable {x y : Coro (Action δ ε σ) ε α}

lemma conseq (h : Twin C P Q x y) (hP : ∀ w d d', P' w d d' → P w d d')
    (hQ : ∀ a w d d', Q a w d d' → Q' a w d d') : Twin C P' Q' x y :=
  fun v v' hv => (h v v' (hv.mono hP)).mono hQ

lemma bind {f g : α → Coro (Action δ ε σ) ε β} (h : Twin C P Q x y)
    (hf : ∀ a, Twin C (Q a) R (f a) (g a)) :
    Twin C P R (x >>= f) (y >>= g) := by
  intro v v' hv
  have hxy := h v v' hv
  rcases hx : x.alone View.exec v with ⟨r, u⟩
  rcases hy : y.alone View.exec v' with ⟨r', u'⟩
  rw [hx, hy] at hxy
  cases hxy with
  | ok hu =>
    rw [alone_bind_ok hx, alone_bind_ok hy]
    exact hf _ _ _ hu
  | error hworld hcommitted =>
    rw [alone_bind_error hx, alone_bind_error hy]
    exact .error hworld hcommitted

lemma pure (a : α) (hP : ∀ w d d', P w d d' → Q a w d d') :
    Twin C P Q (Pure.pure a : Coro (Action δ ε σ) ε α) (Pure.pure a) :=
  fun _ _ hv => .ok (hv.mono hP)

lemma throw (e : ε) :
    Twin C P Q (MonadExcept.throw e : Coro (Action δ ε σ) ε α) (MonadExcept.throw e) :=
  fun _ _ hv => .error hv.world hv.committed

lemma done (r : Except ε α) (hP : ∀ a w d d', P w d d' → Q a w d d') :
    Twin C P Q (Coro.done r : Coro (Action δ ε σ) ε α) (Coro.done r) := by
  cases r with
  | ok a => exact pure a (hP a)
  | error e => exact throw e

lemma require (c : Prop) [Decidable c] (e : ε) :
    Twin C P (fun _ => P) (Coro.require c e : Coro (Action δ ε σ) ε Unit) (Coro.require c e) := by
  unfold Coro.require
  split
  · exact pure () fun _ _ _ h => h
  · exact throw e

lemma select_bind {γ : Type} {query : δ → γ} {f g : γ → Coro (Action δ ε σ) ε α}
    (h : ∀ w d d', P w d d' → Twin C (fun w₁ d₁ d₁' => w₁ = w ∧ d₁ = d ∧ d₁' = d') Q (f (query d))
      (g (query d'))) :
    Twin C P Q (select query >>= f) (select query >>= g) := by
  rintro ⟨c, seen, w⟩ ⟨c', seen', w'⟩ hv
  obtain rfl : w' = w := hv.world
  cases hv.seen with
  | ok hd => exact h _ _ _ hd _ _ ⟨rfl, hv.committed, .ok ⟨rfl, rfl, rfl⟩⟩
  | error e => exact .error rfl hv.committed

lemma select {query : δ → α} (h : ∀ w d d', P w d d' → query d' = query d) :
    Twin C P (fun a w d d' => P w d d' ∧ a = query d)
      (Tables.select query : Coro (Action δ ε σ) ε α) (Tables.select query) := by
  rintro ⟨c, seen, w⟩ ⟨c', seen', w'⟩ hv
  obtain rfl : w' = w := hv.world
  cases hv.seen with
  | ok hd =>
    rename_i d d'
    change Outcomes C _ (.ok (query d), _) (.ok (query d'), _)
    rw [h _ _ _ hd]
    exact .ok ⟨rfl, hv.committed, .ok ⟨hd, rfl⟩⟩
  | error e => exact .error rfl hv.committed

lemma stage {write : Write δ ε} {P' : σ → δ → δ → Prop}
    (h : ∀ w d d', P w d d' → Seen (P' w) (write d) (write d')) :
    Twin C P (fun _ => P') (Tables.stage write : Coro (Action δ ε σ) ε Unit)
      (Tables.stage write) := by
  rintro ⟨c, seen, w⟩ ⟨c', seen', w'⟩ hv
  obtain rfl : w' = w := hv.world
  refine .ok ⟨rfl, hv.committed, ?_⟩
  cases hv.seen with
  | ok hd => exact h _ _ _ hd
  | error e => exact .error e

lemma execute {write : Write δ ε} {P' : σ → δ → δ → Prop}
    (h : ∀ w d d', P w d d' → Seen (P' w) (write d) (write d')) :
    Twin C P (fun _ => P') (Tables.execute write : Coro (Action δ ε σ) ε Unit)
      (Tables.execute write) := by
  rintro ⟨c, seen, w⟩ ⟨c', seen', w'⟩ hv
  obtain rfl : w' = w := hv.world
  cases hv.seen with
  | ok hd =>
    rename_i d d'
    have hwrite := h _ _ _ hd
    rw [alone_perform, alone_perform, View.exec, View.exec, Except.bind, Except.bind]
    rcases hr : write d with e | e <;> rcases hr' : write d' with e' | e' <;>
      rw [hr, hr'] at hwrite <;> cases hwrite
    · exact .error rfl hv.committed
    · exact .ok ⟨rfl, hv.committed, .ok ‹_›⟩
  | error e => exact .error rfl hv.committed

lemma flush : Twin C P (fun _ => P) (Tables.flush : Coro (Action δ ε σ) ε Unit) Tables.flush := by
  rintro ⟨c, seen, w⟩ ⟨c', seen', w'⟩ hv
  obtain rfl : w' = w := hv.world
  cases hv.seen with
  | ok hd => exact .ok ⟨rfl, hv.committed, .ok hd⟩
  | error e => exact .error rfl hv.committed

lemma commit (h : ∀ w d d', P w d d' → C w d d') :
    Twin C P (fun _ => P) (Tables.commit : Coro (Action δ ε σ) ε Unit) Tables.commit := by
  rintro ⟨c, seen, w⟩ ⟨c', seen', w'⟩ hv
  obtain rfl : w' = w := hv.world
  cases hv.seen with
  | ok hd => exact .ok ⟨rfl, h _ _ _ hd, .ok hd⟩
  | error e => exact .error rfl hv.committed

lemma world {f : σ → α × σ} (hC : ∀ w d d', C w d d' → C (f w).2 d d')
    (hP : ∀ w d d', P w d d' → Q (f w).1 (f w).2 d d') :
    Twin C P Q (perform (.world f) : Coro (Action δ ε σ) ε α) (perform (.world f)) := by
  rintro ⟨c, seen, w⟩ ⟨c', seen', w'⟩ hv
  obtain rfl : w' = w := hv.world
  exact .ok ⟨rfl, hC _ _ _ hv.committed, hv.seen.mono (hP w')⟩

lemma serve (h : Twin C P Q x y) {d d' : δ} {w : σ} (hC : C w d d') (hP : P w d d') :
    (Tables.serve x d w).1 = (Tables.serve y d' w).1 ∧ (Tables.serve y d' w).2.2 =
      (Tables.serve x d w).2.2 ∧
      C (Tables.serve x d w).2.2 (Tables.serve x d w).2.1 (Tables.serve y d' w).2.1 := by
  have hrun := h ⟨d, .ok d, w⟩ ⟨d', .ok d', w⟩ ⟨rfl, hC, .ok hP⟩
  rw [serve_eq, serve_eq]
  generalize x.alone View.exec ⟨d, .ok d, w⟩ = r at hrun ⊢
  generalize y.alone View.exec ⟨d', .ok d', w⟩ = r' at hrun ⊢
  cases hrun with
  | ok hv => exact ⟨rfl, hv.world, hv.committed⟩
  | error hworld hcommitted => exact ⟨rfl, hworld, hcommitted⟩

end Rules

end Twin

end Askit.Tables

import Askit.Interleaving.Machine

/-! Coroutines that come to a rest at certain operations, and what is left of them there. -/

namespace Askit.Interleaving

namespace Coro

variable {Op : Type → Type} {ε α β : Type} {V : ∀ {β : Type}, Op β → β → Prop}

/-- Wherever the coroutine comes to an operation in `B`, what is left of it satisfies `S`. -/
def AtEach (V : ∀ {β : Type}, Op β → β → Prop) (B : ∀ {β : Type}, Op β → Prop)
    (S : Coro Op ε α → Prop) :
    Coro Op ε α → Prop
  | done _ => True
  | await o k => (B o → S (await o k)) ∧ (∀ a, V o a → (k (.ok a)).AtEach V B S) ∧ ∀ e,
      (k (.error e)).AtEach V B S

variable {B : ∀ {β : Type}, Op β → Prop} {S : Coro Op ε α → Prop}

lemma AtEach.of_all {x : Coro Op ε α} (hx : x.All V fun o => ¬B o) : x.AtEach V B S := by
  induction x with
  | done r => trivial
  | await o k ih => exact ⟨fun ho => absurd ho hx.1, fun a ha => ih _ (hx.2.1 a ha), fun e =>
    ih _ (hx.2.2 e)⟩

lemma AtEach.bind_of_all {S : Coro Op ε β → Prop} {x : Coro Op ε α} {f : α → Coro Op ε β}
    (hx : x.All V fun o => ¬B o) (hf : ∀ a, (f a).AtEach V B S) : (x >>= f).AtEach V B S := by
  induction x with
  | done r =>
    cases r with
    | ok a => exact hf a
    | error e => trivial
  | await o k ih => exact ⟨fun ho => absurd ho hx.1, fun a ha => ih _ (hx.2.1 a ha), fun e =>
    ih _ (hx.2.2 e)⟩

lemma All.answers {W : ∀ {β : Type}, Op β → β → Prop} {P : ∀ {β : Type}, Op β → Prop}
    {x : Coro Op ε α} (hx : x.All V P) (h : ∀ {β : Type} (o : Op β) (a : β), W o a → V o a) :
    x.All W P := by
  induction x with
  | done r => trivial
  | await o k ih => exact ⟨hx.1, fun a ha => ih _ (hx.2.1 a (h o a ha)), fun e => ih _ (hx.2.2 e)⟩

end Coro

namespace Machine

variable {Op : Type → Type} {ε α : Type} {M : Machine Op ε α} {c : M.Config}

/-- Every process has something left to do that satisfies `Φ`. -/
def Config.Left (Φ : M.Call → Coro Op ε α → Prop) (c : M.Config) : Prop :=
  ∀ (i : ℕ) (p : M.Proc), c.procs[i]? = some p → Φ p.call p.rest

lemma left_start (Φ : M.Call → Coro Op ε α → Prop) (s : M.State) : (start s).Left Φ := by
  intro i p h
  cases h

variable {Φ : M.Call → Coro Op ε α → Prop}

lemma Config.Left.set (h : c.Left Φ) {i : ℕ} {call : M.Call} {x y : Coro Op ε α}
    (pending : c.procs[i]? = some ⟨call, x⟩) (hy : Φ call y) {w : M.World} :
    Config.Left Φ ⟨w, c.procs.set i ⟨call, y⟩⟩ := by
  intro j p hj
  by_cases hij : i = j
  · subst hij
    rw [List.getElem?_set_self (List.getElem?_eq_some_iff.mp pending).1] at hj
    cases hj
    exact hy
  · rw [List.getElem?_set_ne hij] at hj
    exact h j p hj

lemma Config.Left.step (h : c.Left Φ) (hcode : ∀ call, Φ call (M.code call))
    (hrun : ∀ {call : M.Call} {β : Type} {o : Op β} {k : Except ε β → Coro Op ε α},
      Φ call (.await o k) →
      Φ call (k (M.exec o c.world.state).1))
    (hfault : ∀ {call : M.Call} {β : Type} {o : Op β} {k : Except ε β → Coro Op ε α},
      Φ call (.await o k) →
      ∀ e, Φ call (k (.error e))) (a : M.Act) : (Machine.step a c).Left Φ := by
  have hm := step_moves a c
  generalize Machine.step a c = d at hm
  cases hm with
  | idle => exact h
  | env e => exact h
  | spawn call s admitted =>
    intro i p hi
    rcases Nat.lt_trichotomy i c.procs.length with hlt | rfl | hgt
    · rw [List.getElem?_append_left hlt] at hi
      exact h i p hi
    · rw [List.getElem?_concat_length] at hi
      cases hi
      exact hcode call
    · rw [List.getElem?_eq_none (by simp; omega)] at hi
      cases hi
  | run i call o k pending ready => exact h.set pending (hrun (h i _ pending))
  | fault i e call o k pending => exact h.set pending (hfault (h i _ pending) e)

end Machine

end Askit.Interleaving

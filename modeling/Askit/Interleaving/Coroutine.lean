import Mathlib.Control.Basic
import Mathlib.Tactic.Lemma

/-! Coroutines over an interface of operations. Between two awaits a coroutine runs alone; an
operation that fails raises in the coroutine that awaits it. -/

namespace Askit.Interleaving

/-- A coroutine has returned or raised, or is suspended at the operation it awaits. -/
inductive Coro (Op : Type → Type) (ε α : Type) : Type 1
  | done : Except ε α → Coro Op ε α
  | await {β : Type} : Op β → (Except ε β → Coro Op ε α) → Coro Op ε α

namespace Coro

variable {Op : Type → Type} {ε α β γ : Type}

def bind : Coro Op ε α → (α → Coro Op ε β) → Coro Op ε β
  | done (.ok a), f => f a
  | done (.error e), _ => done (.error e)
  | await o k, f => await o fun r => (k r).bind f

def catching : Coro Op ε α → (ε → Coro Op ε α) → Coro Op ε α
  | done (.ok a), _ => done (.ok a)
  | done (.error e), f => f e
  | await o k, f => await o fun r => (k r).catching f

def perform (o : Op α) : Coro Op ε α := await o done

instance (x : Coro Op ε α) : Decidable (∃ r, x = done r) :=
  match x with
  | done r => isTrue ⟨r, rfl⟩
  | await _ _ => isFalse (by simp)

instance : Monad (Coro Op ε) where
  pure a := done (.ok a)
  bind := bind

instance : MonadExceptOf ε (Coro Op ε) where
  throw e := done (.error e)
  tryCatch := catching

@[simp] lemma done_ok_bind (a : α) (f : α → Coro Op ε β) : (done (.ok a) >>= f) = f a := rfl

@[simp] lemma done_error_bind (e : ε) (f : α → Coro Op ε β) :
    (done (.error e) >>= f) = done (.error e) := rfl

@[simp] lemma throw_bind (e : ε) (f : α → Coro Op ε β) : (throw e >>= f) = throw e := rfl

@[simp] lemma await_bind (o : Op γ) (k : Except ε γ → Coro Op ε α) (f : α → Coro Op ε β) :
    (await o k >>= f) = await o fun r => k r >>= f := rfl

@[simp] lemma perform_bind (o : Op α) (f : α → Coro Op ε β) :
    (perform o >>= f) = await o fun r => done r >>= f := rfl

@[simp] lemma tryCatch_done_ok (a : α) (f : ε → Coro Op ε α) :
    tryCatch (done (.ok a)) f = done (.ok a) := rfl

@[simp] lemma tryCatch_done_error (e : ε) (f : ε → Coro Op ε α) :
    tryCatch (done (.error e)) f = f e := rfl

@[simp] lemma tryCatch_await (o : Op γ) (k : Except ε γ → Coro Op ε α) (f : ε → Coro Op ε α) :
    tryCatch (await o k) f = await o fun r => tryCatch (k r) f := rfl

lemma id_map_coro (x : Coro Op ε α) : id <$> x = x := by
  induction x with
  | done r => cases r <;> rfl
  | await o k ih => exact congrArg (await o) (funext ih)

lemma bind_assoc_coro (x : Coro Op ε α) (f : α → Coro Op ε β) (g : β → Coro Op ε γ) :
    x >>= f >>= g = x >>= fun a => f a >>= g := by
  induction x with
  | done r => cases r <;> rfl
  | await o k ih => exact congrArg (await o) (funext ih)

instance : LawfulMonad (Coro Op ε) :=
  LawfulMonad.mk' (Coro Op ε) id_map_coro (fun _ _ => rfl) bind_assoc_coro

def require (c : Prop) [Decidable c] (e : ε) : Coro Op ε Unit :=
  if c then pure () else throw e

/-- Every operation that the coroutine can come to await satisfies `P`, when each operation is
answered within `V` or fails. -/
def All (V : ∀ {β : Type}, Op β → β → Prop) (P : ∀ {β : Type}, Op β → Prop) : Coro Op ε α → Prop
  | done _ => True
  | await o k => P o ∧ (∀ a, V o a → (k (.ok a)).All V P) ∧ ∀ e, (k (.error e)).All V P

/-- What the coroutine returns, if it does, satisfies `R`. -/
def Returns (V : ∀ {β : Type}, Op β → β → Prop) (R : α → Prop) : Coro Op ε α → Prop
  | done (.ok a) => R a
  | done (.error _) => True
  | await o k => (∀ a, V o a → (k (.ok a)).Returns V R) ∧ ∀ e, (k (.error e)).Returns V R

section All

variable {V : ∀ {β : Type}, Op β → β → Prop} {P Q : ∀ {β : Type}, Op β → Prop}

@[simp] lemma all_pure (a : α) : (pure a : Coro Op ε α).All V P := trivial

@[simp] lemma all_throw (e : ε) : (throw e : Coro Op ε α).All V P := trivial

@[simp] lemma all_perform (o : Op α) : (perform o : Coro Op ε α).All V P ↔ P o := by
  simp [perform, All]

@[simp] lemma all_require (c : Prop) [Decidable c] (e : ε) :
    (require c e : Coro Op ε Unit).All V P := by
  unfold require
  split <;> trivial

lemma all_true (x : Coro Op ε α) : x.All V fun _ => True := by
  induction x with
  | done r => trivial
  | await o k ih => exact ⟨trivial, fun a _ => ih _, fun e => ih _⟩

lemma All.bind {x : Coro Op ε α} {f : α → Coro Op ε β} (hx : x.All V P)
    (hf : ∀ a, (f a).All V P) : (x >>= f).All V P := by
  induction x with
  | done r =>
    cases r with
    | ok a => exact hf a
    | error e => trivial
  | await o k ih => exact ⟨hx.1, fun a ha => ih _ (hx.2.1 a ha), fun e => ih _ (hx.2.2 e)⟩

@[simp] lemma returns_pure {R : α → Prop} (a : α) :
    (pure a : Coro Op ε α).Returns V R ↔ R a := Iff.rfl

lemma Returns.perform_bind {R : β → Prop} {o : Op α} {f : α → Coro Op ε β}
    (hf : ∀ a, V o a → (f a).Returns V R) : (perform o >>= f).Returns V R :=
  ⟨hf, fun _ => trivial⟩

lemma Returns.bind {R : β → Prop} {x : Coro Op ε α} {f : α → Coro Op ε β}
    (hf : ∀ a, (f a).Returns V R) : (x >>= f).Returns V R := by
  induction x with
  | done r =>
    cases r with
    | ok a => exact hf a
    | error e => trivial
  | await o k ih => exact ⟨fun a _ => ih _, fun e => ih _⟩

lemma Returns.bind_of_returns {R : α → Prop} {S : β → Prop} {x : Coro Op ε α} {f : α → Coro Op ε β}
    (hx : x.Returns V R) (hf : ∀ a, R a → (f a).Returns V S) : (x >>= f).Returns V S := by
  induction x with
  | done r =>
    cases r with
    | ok a => exact hf a hx
    | error e => trivial
  | await o k ih => exact ⟨fun a ha => ih _ (hx.1 a ha), fun e => ih _ (hx.2 e)⟩

lemma Returns.tryCatch {R : α → Prop} {x : Coro Op ε α} {f : ε → Coro Op ε α} (hx : x.Returns V R)
    (hf : ∀ e, (f e).Returns V R) : (tryCatch x f).Returns V R := by
  induction x with
  | done r =>
    cases r with
    | ok a => exact hx
    | error e => exact hf e
  | await o k ih => exact ⟨fun a ha => ih _ (hx.1 a ha), fun e => ih _ (hx.2 e)⟩

lemma All.bind_of_returns {R : α → Prop} {x : Coro Op ε α} {f : α → Coro Op ε β} (hx : x.All V P)
    (hr : x.Returns V R) (hf : ∀ a, R a → (f a).All V P) : (x >>= f).All V P := by
  induction x with
  | done r =>
    cases r with
    | ok a => exact hf a hr
    | error e => trivial
  | await o k ih =>
    exact ⟨hx.1, fun a ha => ih _ (hx.2.1 a ha) (hr.1 a ha), fun e => ih _ (hx.2.2 e) (hr.2 e)⟩

lemma All.perform_bind {o : Op α} {f : α → Coro Op ε β} (ho : P o)
    (hf : ∀ a, V o a → (f a).All V P) : (perform o >>= f).All V P :=
  ⟨ho, hf, fun _ => trivial⟩

lemma All.require_bind {c : Prop} [Decidable c] {e : ε} {f : Unit → Coro Op ε α}
    (hf : c → (f ()).All V P) : (require c e >>= f).All V P := by
  unfold require
  split
  · exact hf ‹_›
  · trivial

lemma All.tryCatch {x : Coro Op ε α} {f : ε → Coro Op ε α} (hx : x.All V P)
    (hf : ∀ e, (f e).All V P) : (tryCatch x f).All V P := by
  induction x with
  | done r =>
    cases r with
    | ok a => trivial
    | error e => exact hf e
  | await o k ih => exact ⟨hx.1, fun a ha => ih _ (hx.2.1 a ha), fun e => ih _ (hx.2.2 e)⟩

lemma All.map {x : Coro Op ε α} (hx : x.All V P) (f : α → β) : (f <$> x).All V P := by
  rw [map_eq_pure_bind]
  exact hx.bind fun a => all_pure (f a)

lemma All.ite {c : Prop} [Decidable c] {x y : Coro Op ε α} (hx : c → x.All V P)
    (hy : ¬c → y.All V P) : (if c then x else y).All V P := by
  split
  · exact hx ‹_›
  · exact hy ‹_›

lemma All.mono {x : Coro Op ε α} (hx : x.All V P) (h : ∀ {β : Type} (o : Op β), P o → Q o) :
    x.All V Q := by
  induction x with
  | done r => trivial
  | await o k ih => exact ⟨h o hx.1, fun a ha => ih _ (hx.2.1 a ha), fun e => ih _ (hx.2.2 e)⟩

lemma All.and {x : Coro Op ε α} (hx : x.All V P) (hy : x.All V Q) :
    x.All V fun o => P o ∧ Q o := by
  induction x with
  | done r => trivial
  | await o k ih =>
    exact ⟨⟨hx.1, hy.1⟩, fun a ha => ih _ (hx.2.1 a ha) (hy.2.1 a ha),
      fun e => ih _ (hx.2.2 e) (hy.2.2 e)⟩

lemma All.forM {l : List α} {f : α → Coro Op ε Unit} (h : ∀ a ∈ l, (f a).All V P) :
    (l.forM f).All V P := by
  induction l with
  | nil => trivial
  | cons a l ih => exact (h a (by simp)).bind fun _ => ih fun b hb => h b (by simp [hb])

end All

end Coro

end Askit.Interleaving

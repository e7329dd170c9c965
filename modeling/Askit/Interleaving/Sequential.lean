import Askit.Interleaving.Contract

/-! Coroutines that run alone: from the first operation to the last, nothing else happens to the
state. -/

namespace Askit.Interleaving

namespace Coro

variable {Op : Type → Type} {ε α β σ : Type}

/-- What the coroutine returns, and the state it leaves. -/
def alone (exec : ∀ {β : Type}, Op β → σ → Except ε β × σ) : Coro Op ε α → σ → Except ε α × σ
  | done r, s => (r, s)
  | await o k, s => (k (exec o s).1).alone exec (exec o s).2

variable {exec : ∀ {β : Type}, Op β → σ → Except ε β × σ} {s t : σ}

@[simp] lemma alone_done (r : Except ε α) : (done r : Coro Op ε α).alone exec s = (r, s) := rfl

@[simp] lemma alone_pure (a : α) : (pure a : Coro Op ε α).alone exec s = (.ok a, s) := rfl

@[simp] lemma alone_throw (e : ε) : (throw e : Coro Op ε α).alone exec s = (.error e, s) := rfl

@[simp] lemma alone_perform (o : Op α) : (perform o : Coro Op ε α).alone exec s = exec o s := rfl

lemma alone_bind_ok {x : Coro Op ε α} {f : α → Coro Op ε β} {a : α}
    (h : x.alone exec s = (.ok a, t)) : (x >>= f).alone exec s = (f a).alone exec t := by
  induction x generalizing s with
  | done r =>
    cases h
    rfl
  | await o k ih => exact ih _ h

lemma alone_bind_error {x : Coro Op ε α} {f : α → Coro Op ε β} {e : ε}
    (h : x.alone exec s = (.error e, t)) : (x >>= f).alone exec s = (.error e, t) := by
  induction x generalizing s with
  | done r =>
    cases h
    rfl
  | await o k ih => exact ih _ h

lemma alone_bind (x : Coro Op ε α) (f : α → Coro Op ε β) :
    (x >>= f).alone exec s =
      match x.alone exec s with
      | (.ok a, t) => (f a).alone exec t
      | (.error e, t) => (.error e, t) := by
  rcases h : x.alone exec s with ⟨e | a, t⟩
  · exact alone_bind_error h
  · exact alone_bind_ok h

lemma alone_tryCatch (x : Coro Op ε α) (f : ε → Coro Op ε α) :
    (tryCatch x f).alone exec s =
      match x.alone exec s with
      | (.ok a, t) => (.ok a, t)
      | (.error e, t) => (f e).alone exec t := by
  induction x generalizing s with
  | done r => cases r <;> rfl
  | await o k ih => exact ih _

lemma alone_of_tryCatch {x : Coro Op ε α} {f : ε → Coro Op ε α} {a : α}
    (hf : ∀ e s, ((f e).alone exec s).1 ≠ .ok a) (h : (tryCatch x f).alone exec s = (.ok a, t)) :
    x.alone exec s = (.ok a, t) := by
  rw [alone_tryCatch] at h
  rcases hx : x.alone exec s with ⟨e | b, u⟩
  · rw [hx] at h
    exact absurd (congrArg Prod.fst h) (hf e u)
  · rw [hx] at h
    exact h

lemma alone_perform_bind {o : Op α} {f : α → Coro Op ε β} {a : α} (h : exec o s = (.ok a, t)) :
    (perform o >>= f).alone exec s = (f a).alone exec t := by
  rw [perform_bind, alone, h, done_ok_bind]

lemma alone_perform_bind_error {o : Op α} {f : α → Coro Op ε β} {e : ε}
    (h : exec o s = (.error e, t)) :
    (perform o >>= f).alone exec s = (.error e, t) :=
  alone_bind_error h

lemma alone_require_bind (c : Prop) [Decidable c] (e : ε) (f : Unit → Coro Op ε α) :
    (require c e >>= f).alone exec s = if c then (f ()).alone exec s else (.error e, s) := by
  unfold require
  split <;> rfl

lemma alone_ite (c : Prop) [Decidable c] (x y : Coro Op ε α) :
    (if c then x else y).alone exec s = if c then x.alone exec s else y.alone exec s := by
  split <;> rfl

lemma alone_of_all {V : ∀ {β : Type}, Op β → β → Prop} {P : ∀ {β : Type}, Op β → Prop}
    {A : σ → Prop} {x : Coro Op ε α}
    (hV : ∀ {β : Type} (o : Op β) (s : σ) (a : β), (exec o s).1 = .ok a → V o a)
    (hP : ∀ {β : Type} (o : Op β) (s : σ), P o → A s → A (exec o s).2) (hx : x.All V P) (hs : A s) :
    A (x.alone exec s).2 := by
  induction x generalizing s with
  | done r => exact hs
  | await o k ih =>
    apply ih _ _ (hP o s hx.1 hs)
    cases h : (exec o s).1 with
    | ok a => exact hx.2.1 a (hV o s a h)
    | error e => exact hx.2.2 e

lemma Returns.alone {V : ∀ {β : Type}, Op β → β → Prop} {R : α → Prop} {x : Coro Op ε α} {a : α}
    (hV : ∀ {β : Type} (o : Op β) (s : σ) (a : β), (exec o s).1 = .ok a → V o a)
    (hx : x.Returns V R) (ha : (x.alone exec s).1 = .ok a) : R a := by
  induction x generalizing s with
  | done r =>
    obtain rfl : r = .ok a := ha
    exact hx
  | await o k ih =>
    apply ih _ _ ha
    cases h : (exec o s).1 with
    | ok b => exact hx.1 b (hV o s b h)
    | error e => exact hx.2 e

end Coro

namespace Machine

variable {Op : Type → Type} {ε α : Type} {M : Machine Op ε α}

lemma run_runs_await {w : M.World} {ps : List M.Proc} {call : M.Call} {β : Type} {o : Op β}
    {k : Except ε β → Coro Op ε α} (n : ℕ) (hready : M.ready o w.state = true) :
    run (runs ps.length (n + 1)) ⟨w, ps ++ [⟨call, .await o k⟩]⟩ =
      run (runs ps.length n)
        ⟨(w.perform ps.length o).2, ps ++ [⟨call, k (w.perform ps.length o).1⟩]⟩ := by
  have hpending : (ps ++ [⟨call, .await o k⟩])[ps.length]? = some (⟨call, .await o k⟩ : M.Proc) :=
    List.getElem?_concat_length
  have hstep := @step_run Op ε α M ⟨w, ps ++ [⟨call, .await o k⟩]⟩ _ _ _ _ _ hpending hready
  rw [runs, List.replicate_succ, run_cons, hstep, List.set_append_right _ _
    (Nat.le_refl _), Nat.sub_self]
  rfl

lemma run_runs_perform_bind {w : M.World} {ps : List M.Proc} {call : M.Call} {β : Type} {o : Op β}
    {f : β → Coro Op ε α} {a : β} {t : M.State} (n : ℕ) (hready : M.ready o w.state = true)
    (h : M.exec o w.state = (.ok a, t)) :
    run (runs ps.length (n + 1)) ⟨w, ps ++ [⟨call, Coro.perform o >>= f⟩]⟩ =
      run (runs ps.length n) ⟨⟨t, w.history ++ [⟨ps.length, o, .ok a⟩]⟩, ps ++ [⟨call, f a⟩]⟩ := by
  rw [Coro.perform_bind, run_runs_await n hready]
  simp only [World.perform, h]
  rfl

lemma run_runs_done {w : M.World} {ps : List M.Proc} {call : M.Call} {r : Except ε α} (n : ℕ) :
    run (runs ps.length n) ⟨w, ps ++ [⟨call, .done r⟩]⟩ = ⟨w, ps ++ [⟨call, .done r⟩]⟩ := by
  induction n with
  | zero => rfl
  | succ n ih =>
    have hstep : step (.run ps.length) (⟨w, ps ++ [⟨call, .done r⟩]⟩ : M.Config) =
        ⟨w, ps ++ [⟨call, .done r⟩]⟩ := by
      simp [step]
    rw [runs, List.replicate_succ, run_cons, hstep]
    exact ih

lemma exists_runs_of_ready {c : M.Config} {i : ℕ} {call : M.Call} {rest : Coro Op ε α}
    (hready : rest.All M.Answers fun o => ∀ s, M.ready o s = true)
    (h : c.procs[i]? = some ⟨call, rest⟩) :
    ∃ n, (run (runs i n) c).world.state = (rest.alone M.exec c.world.state).2 ∧
      (run (runs i n) c).procs = c.procs.set i
        ⟨call, .done (rest.alone M.exec c.world.state).1⟩ := by
  induction rest generalizing c with
  | done r =>
    obtain ⟨hi, hp⟩ := List.getElem?_eq_some_iff.mp h
    refine ⟨0, rfl, ?_⟩
    simp [runs, ← hp]
  | await o k ih =>
    have hi : i < c.procs.length := (List.getElem?_eq_some_iff.mp h).1
    have hstep := step_run h (hready.1 c.world.state)
    have hrest : (k (c.world.perform i o).1).All M.Answers fun o => ∀ s, M.ready o s = true := by
      cases hr : (c.world.perform i o).1 with
      | ok a => exact hready.2.1 a ⟨_, hr⟩
      | error e => exact hready.2.2 e
    obtain ⟨n, hs, hp⟩ := @ih (c.world.perform i o).1 (step (.run i) c) hrest (by simp [hstep, hi])
    refine ⟨n + 1, ?_⟩
    rw [runs, List.replicate_succ, run_cons]
    rw [hstep] at hs hp ⊢
    exact ⟨hs, hp.trans (List.set_set ..)⟩

lemma exists_runs_alone (hready : ∀ {β : Type} (o : Op β) (s : M.State), M.ready o s = true)
    {c : M.Config} {i : ℕ} {call : M.Call} {rest : Coro Op ε α}
    (h : c.procs[i]? = some ⟨call, rest⟩) :
    ∃ n, (run (runs i n) c).world.state = (rest.alone M.exec c.world.state).2 ∧
      (run (runs i n) c).procs = c.procs.set i ⟨call, .done (rest.alone M.exec c.world.state).1⟩ :=
  exists_runs_of_ready (Coro.All.mono (Coro.all_true rest) fun o _ => hready o) h

end Machine

end Askit.Interleaving

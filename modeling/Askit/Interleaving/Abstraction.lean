import Askit.Interleaving.Machine

/-! Several machines over one abstract state: what each of them shows of its own state follows the
changes in its history, and the coroutines that make these changes are alike. -/

namespace Askit.Interleaving

variable {Op Op' : Type → Type} {ε α β γ : Type}

namespace Machine

variable {M : Machine Op ε α} {V C : Type}

/-- In the states with `I`, `view` goes from one state to the next as the event of the step says. -/
structure Shows (M : Machine Op ε α) (I : M.State → Prop) (view : M.State → V) (apply : V → C → V)
    (change : Event Op ε → Option C) : Prop where
  exec : ∀ (i : ℕ) {β : Type} (o : Op β) (s : M.State), I s → I (M.exec o s).2 ∧
    view (M.exec o s).2 = ((change ⟨i, o, (M.exec o s).1⟩).map (apply (view s))).getD (view s)
  fail : ∀ (i : ℕ) {β : Type} (o : Op β) (e : ε), change ⟨i, o, .error e⟩ = none
  enter : ∀ call s t, I s → M.enter call s = some t → I t ∧ view t = view s
  env : ∀ e s, I s → I (M.env e s) ∧ view (M.env e s) = view s

variable {I : M.State → Prop} {view : M.State → V} {apply : V → C → V}
    {change : Event Op ε → Option C}

/-- The state shows what the changes so far have made of `v`. -/
def Config.Shown (I : M.State → Prop) (view : M.State → V) (apply : V → C → V)
    (change : Event Op ε → Option C) (v : V) (c : M.Config) : Prop :=
  I c.world.state ∧ view c.world.state = (c.world.history.filterMap change).foldl apply v

lemma Config.Shown.step (h : Shows M I view apply change) {v : V} {c : M.Config}
    (hc : c.Shown I view apply change v) (a : M.Act) :
    (Machine.step a c).Shown I view apply change v := by
  obtain ⟨hI, hview⟩ := hc
  have hm := step_moves a c
  generalize Machine.step a c = d at hm
  cases hm with
  | idle => exact ⟨hI, hview⟩
  | spawn call s admitted =>
    obtain ⟨hs, heq⟩ := h.enter call _ s hI admitted
    exact ⟨hs, heq.trans hview⟩
  | run i call o k pending ready =>
    obtain ⟨hs, heq⟩ := h.exec i o c.world.state hI
    refine ⟨hs, heq.trans ?_⟩
    rw [World.perform_history, List.filterMap_append, List.foldl_append, ← hview]
    cases hev : change ⟨i, o, (M.exec o c.world.state).1⟩ <;> simp [hev]
  | fault i e call o k pending =>
    refine ⟨hI, hview.trans ?_⟩
    rw [World.fail_history, List.filterMap_append]
    simp [h.fail i o e]
  | env e =>
    obtain ⟨hs, heq⟩ := h.env e _ hI
    exact ⟨hs, heq.trans hview⟩

lemma Shows.run (h : Shows M I view apply change) {s : M.State} (hs : I s) (acts : List M.Act) :
    (run acts (start s)).Shown I view apply change (view s) := by
  suffices hrun : ∀ c : M.Config, c.Shown I view apply change (view s) →
      (Machine.run acts c).Shown I view apply change (view s) from hrun _ ⟨hs, rfl⟩
  induction acts with
  | nil => exact fun _ hc => hc
  | cons a acts ih => exact fun c hc => ih _ (hc.step h a)

end Machine

namespace Coro

/-- The two go on alike as long as they get answers that correspond. -/
inductive Alike (R : ∀ β γ : Type, Op β → Op' γ → (β → γ → Prop) → Prop) :
    Coro Op ε α → Coro Op' ε α → Prop
  | done (r : Except ε α) : Alike R (.done r) (.done r)
  | await {β γ : Type} {o : Op β} {o' : Op' γ} {V : β → γ → Prop} {k : Except ε β → Coro Op ε α}
      {k' : Except ε γ → Coro Op' ε α} (h : R _ _ o o' V)
      (hok : ∀ a b, V a b → Alike R (k (.ok a)) (k' (.ok b)))
      (herror : ∀ e, Alike R (k (.error e)) (k' (.error e))) : Alike R (.await o k) (.await o' k')

variable {R : ∀ β γ : Type, Op β → Op' γ → (β → γ → Prop) → Prop}

namespace Alike

lemma bind {x : Coro Op ε β} {y : Coro Op' ε β} {f : β → Coro Op ε γ} {g : β → Coro Op' ε γ}
    (hx : Alike R x y) (hf : ∀ a, Alike R (f a) (g a)) : Alike R (x >>= f) (y >>= g) := by
  induction hx with
  | done r =>
    cases r with
    | ok a => exact hf a
    | error e => exact .done _
  | await h _ _ hok herror => exact .await h hok herror

lemma tryCatch {x : Coro Op ε β} {y : Coro Op' ε β} {f : ε → Coro Op ε β} {g : ε → Coro Op' ε β}
    (hx : Alike R x y) (hf : ∀ e, Alike R (f e) (g e)) : Alike R (tryCatch x f) (tryCatch y g) := by
  induction hx with
  | done r =>
    cases r with
    | ok a => exact .done _
    | error e => exact hf e
  | await h _ _ hok herror => exact .await h hok herror

lemma perform_bind {δ : Type} {o : Op β} {o' : Op' γ} {V : β → γ → Prop} {f : β → Coro Op ε δ}
    {g : γ → Coro Op' ε δ} (h : R _ _ o o' V) (hf : ∀ a b, V a b → Alike R (f a) (g b)) :
    Alike R (Coro.perform o >>= f) (Coro.perform o' >>= g) :=
  .await h hf fun _ => .done _

lemma perform {o : Op β} {o' : Op' β} (h : R _ _ o o' Eq) :
    Alike R (Coro.perform o : Coro Op ε β) (Coro.perform o') := by
  refine .await h (fun a b hab => ?_) fun _ => .done _
  subst hab
  exact .done _

lemma forM {δ : Type} {f : δ → Coro Op ε PUnit} {g : δ → Coro Op' ε PUnit} {l : List δ}
    (h : ∀ a ∈ l, Alike R (f a) (g a)) : Alike R (l.forM f) (l.forM g) := by
  induction l with
  | nil => exact .done _
  | cons a l ih => exact (h a (by simp)).bind fun _ => ih fun b hb => h b (by simp [hb])

end Alike

end Coro

end Askit.Interleaving

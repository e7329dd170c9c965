import Askit.Interleaving.Machine

/-! Rely-guarantee contracts for the processes of a machine: what one process may assume of the
steps between its own, and what each of its own steps keeps. -/

namespace Askit.Interleaving

open Machine

variable {Op : Type → Type} {ε α : Type}

/-- The contract of one process. `allowed` restricts the runs considered to those in which the
process performs an operation only in such a world, `faults` says which operations may fail. -/
structure Contract (M : Machine Op ε α) (inv : M.World → Prop) where
  rely : M.World → M.World → Prop
  guar : M.World → M.World → Prop
  allowed {β : Type} : Op β → M.World → Prop
  faults {β : Type} : Op β → ε → Prop
  refl (w : M.World) : rely w w
  trans {u v w : M.World} : rely u v → rely v w → rely u w

namespace Contract

variable {M : Machine Op ε α} {inv : M.World → Prop} (K : Contract M inv) (i : ℕ)
variable {β γ : Type}

/-- From the world `w` on, whatever the others do within `rely`, the coroutine steps within `guar`,
keeps `inv`, and ends in `Q`. -/
def Ensures (Q : Except ε β → M.World → Prop) : Coro Op ε β → M.World → Prop
  | .done r, w => Q r w
  | .await o k, w => ∀ w₁, K.rely w w₁ → inv w₁ → K.allowed o w₁ →
      (M.ready o w₁.state = true → inv (w₁.perform i o).2 ∧ K.guar w₁ (w₁.perform i o).2 ∧
        Ensures Q (k (w₁.perform i o).1) (w₁.perform i o).2) ∧
      ∀ e, K.faults o e → inv (w₁.fail i o e) ∧ K.guar w₁ (w₁.fail i o e) ∧
        Ensures Q (k (.error e)) (w₁.fail i o e)

def Faultless : Prop := ∀ {β : Type} (o : Op β) (e : ε), ¬K.faults o e

def Stable (A : M.World → Prop) : Prop := ∀ {v w : M.World}, A v → K.rely v w → A w

/-- Where `A` holds, performing the operation is within what the process relies on itself. -/
def Silent (A : M.World → Prop) (o : Op β) : Prop :=
  ∀ w, inv w → A w → K.allowed o w →
    inv (w.perform i o).2 ∧ K.guar w (w.perform i o).2 ∧ K.rely w (w.perform i o).2

variable {K i} {Q R : Except ε β → M.World → Prop} {w : M.World}

@[simp] lemma ensures_done (r : Except ε β) : K.Ensures i Q (.done r) w ↔ Q r w := Iff.rfl

@[simp] lemma ensures_pure (a : β) : K.Ensures i Q (pure a) w ↔ Q (.ok a) w := Iff.rfl

@[simp] lemma ensures_throw (e : ε) : K.Ensures i Q (throw e) w ↔ Q (.error e) w := Iff.rfl

namespace Ensures

lemma await {o : Op γ} {k : Except ε γ → Coro Op ε β} (hK : K.Faultless)
    (h : ∀ w₁, K.rely w w₁ → inv w₁ → K.allowed o w₁ → M.ready o w₁.state = true →
      inv (w₁.perform i o).2 ∧ K.guar w₁ (w₁.perform i o).2 ∧
        K.Ensures i Q (k (w₁.perform i o).1) (w₁.perform i o).2) :
    K.Ensures i Q (.await o k) w :=
  fun w₁ hr hi ha => ⟨h w₁ hr hi ha, fun e he => (hK o e he).elim⟩

lemma perform {o : Op β} (hK : K.Faultless)
    (h : ∀ w₁, K.rely w w₁ → inv w₁ → K.allowed o w₁ → M.ready o w₁.state = true →
      inv (w₁.perform i o).2 ∧ K.guar w₁ (w₁.perform i o).2 ∧
        Q (w₁.perform i o).1 (w₁.perform i o).2) :
    K.Ensures i Q (Coro.perform o) w :=
  await hK h

lemma op_bind {o : Op γ} {f : γ → Coro Op ε β}
    (h : ∀ w₁, K.rely w w₁ → inv w₁ → K.allowed o w₁ →
      (M.ready o w₁.state = true → inv (w₁.perform i o).2 ∧ K.guar w₁ (w₁.perform i o).2 ∧
        (∀ a, (w₁.perform i o).1 = .ok a → K.Ensures i Q (f a) (w₁.perform i o).2) ∧
        ∀ e, (w₁.perform i o).1 = .error e → Q (.error e) (w₁.perform i o).2) ∧
      ∀ e, K.faults o e → inv (w₁.fail i o e) ∧ K.guar w₁ (w₁.fail i o e) ∧
        Q (.error e) (w₁.fail i o e)) :
    K.Ensures i Q (Coro.perform o >>= f) w := by
  intro w₁ hr hi ha
  obtain ⟨hrun, hfault⟩ := h w₁ hr hi ha
  refine ⟨fun hready => ?_, hfault⟩
  obtain ⟨h₁, h₂, hok, herr⟩ := hrun hready
  refine ⟨h₁, h₂, ?_⟩
  cases hx : (w₁.perform i o).1 with
  | ok a => exact hok a hx
  | error e => exact herr e hx

lemma perform_bind {o : Op γ} {f : γ → Coro Op ε β} (hK : K.Faultless)
    (h : ∀ w₁, K.rely w w₁ → inv w₁ → K.allowed o w₁ → M.ready o w₁.state = true →
      inv (w₁.perform i o).2 ∧ K.guar w₁ (w₁.perform i o).2 ∧
        (∀ a, (w₁.perform i o).1 = .ok a → K.Ensures i Q (f a) (w₁.perform i o).2) ∧
        ∀ e, (w₁.perform i o).1 = .error e → Q (.error e) (w₁.perform i o).2) :
    K.Ensures i Q (Coro.perform o >>= f) w :=
  op_bind fun w₁ hr hi ha => ⟨h w₁ hr hi ha, fun e he => (hK o e he).elim⟩

lemma mono {c : Coro Op ε β} (h : K.Ensures i Q c w) (hQ : ∀ r v, Q r v → R r v) :
    K.Ensures i R c w := by
  induction c generalizing w with
  | done r => exact hQ r w h
  | await o k ih =>
    intro w₁ hr hi ha
    obtain ⟨hrun, hfault⟩ := h w₁ hr hi ha
    refine ⟨fun hready => ?_, fun e he => ?_⟩
    · obtain ⟨h₁, h₂, h₃⟩ := hrun hready
      exact ⟨h₁, h₂, ih _ h₃⟩
    · obtain ⟨h₁, h₂, h₃⟩ := hfault e he
      exact ⟨h₁, h₂, ih _ h₃⟩

lemma bind {x : Coro Op ε γ} {f : γ → Coro Op ε β} {S : Except ε γ → M.World → Prop}
    (hx : K.Ensures i S x w) (hf : ∀ a v, S (.ok a) v → K.Ensures i Q (f a) v)
    (he : ∀ e v, S (.error e) v → Q (.error e) v) : K.Ensures i Q (x >>= f) w := by
  induction x generalizing w with
  | done r =>
    cases r with
    | ok a => exact hf a w hx
    | error e => exact he e w hx
  | await o k ih =>
    intro w₁ hr hi ha
    obtain ⟨hrun, hfault⟩ := hx w₁ hr hi ha
    refine ⟨fun hready => ?_, fun e hf' => ?_⟩
    · obtain ⟨h₁, h₂, h₃⟩ := hrun hready
      exact ⟨h₁, h₂, ih _ h₃⟩
    · obtain ⟨h₁, h₂, h₃⟩ := hfault e hf'
      exact ⟨h₁, h₂, ih _ h₃⟩

lemma tryCatch {x : Coro Op ε β} {f : ε → Coro Op ε β} {S : Except ε β → M.World → Prop}
    (hx : K.Ensures i S x w) (hf : ∀ a v, S (.ok a) v → Q (.ok a) v)
    (he : ∀ e v, S (.error e) v → K.Ensures i Q (f e) v) : K.Ensures i Q (tryCatch x f) w := by
  induction x generalizing w with
  | done r =>
    cases r with
    | ok a => exact hf a w hx
    | error e => exact he e w hx
  | await o k ih =>
    intro w₁ hr hi ha
    obtain ⟨hrun, hfault⟩ := hx w₁ hr hi ha
    refine ⟨fun hready => ?_, fun e he' => ?_⟩
    · obtain ⟨h₁, h₂, h₃⟩ := hrun hready
      exact ⟨h₁, h₂, ih _ h₃⟩
    · obtain ⟨h₁, h₂, h₃⟩ := hfault e he'
      exact ⟨h₁, h₂, ih _ h₃⟩

lemma require {c : Prop} [Decidable c] {e : ε} {f : Unit → Coro Op ε β}
    (hf : c → K.Ensures i Q (f ()) w) (he : ¬c → Q (.error e) w) :
    K.Ensures i Q (Coro.require c e >>= f) w := by
  unfold Coro.require
  split
  · exact hf ‹_›
  · exact he ‹_›

lemma ite {c : Prop} [Decidable c] {x y : Coro Op ε β} (hx : c → K.Ensures i Q x w)
    (hy : ¬c → K.Ensures i Q y w) : K.Ensures i Q (if c then x else y) w := by
  split
  · exact hx ‹_›
  · exact hy ‹_›

lemma returns {R : β → Prop} {c : Coro Op ε β} (hc : c.Returns M.Answers R)
    (h : K.Ensures i Q c w) :
    K.Ensures i (fun r v => Q r v ∧ ∀ a, r = .ok a → R a) c w := by
  induction c generalizing w with
  | done r =>
    refine ⟨h, fun a ha => ?_⟩
    subst ha
    exact hc
  | await o k ih =>
    intro w₁ hr hi ha
    obtain ⟨hrun, hfault⟩ := h w₁ hr hi ha
    refine ⟨fun hready => ?_, fun e he => ?_⟩
    · obtain ⟨h₁, h₂, h₃⟩ := hrun hready
      refine ⟨h₁, h₂, ih _ ?_ h₃⟩
      cases hx : (w₁.perform i o).1 with
      | ok a => exact hc.1 a ⟨w₁.state, hx⟩
      | error e => exact hc.2 e
    · obtain ⟨h₁, h₂, h₃⟩ := hfault e he
      exact ⟨h₁, h₂, ih _ (hc.2 e) h₃⟩

lemma rely {c : Coro Op ε β} (hQ : ∀ r, K.Stable (Q r)) (h : K.Ensures i Q c w) {v : M.World}
    (hr : K.rely w v) : K.Ensures i Q c v := by
  cases c with
  | done r => exact hQ r h hr
  | await o k => exact fun w₁ hv => h w₁ (K.trans hr hv)

lemma of_all {P : ∀ {β : Type}, Op β → Prop} {A : M.World → Prop} {c : Coro Op ε β}
    (hA : K.Stable A)
    (hrun : ∀ {β : Type} (o : Op β) (v : M.World), P o → inv v → A v → K.allowed o v →
      M.ready o v.state = true →
      inv (v.perform i o).2 ∧ K.guar v (v.perform i o).2 ∧ A (v.perform i o).2)
    (hfault : ∀ {β : Type} (o : Op β) (e : ε) (v : M.World), P o → inv v → A v → K.allowed o v →
      K.faults o e → inv (v.fail i o e) ∧ K.guar v (v.fail i o e) ∧ A (v.fail i o e))
    (hc : c.All M.Answers P) (hw : A w) : K.Ensures i (fun _ => A) c w := by
  induction c generalizing w with
  | done r => exact hw
  | await o k ih =>
    intro w₁ hr hi ha
    have hA₁ : A w₁ := hA hw hr
    refine ⟨fun hready => ?_, fun e he => ?_⟩
    · obtain ⟨h₁, h₂, h₃⟩ := hrun o w₁ hc.1 hi hA₁ ha hready
      refine ⟨h₁, h₂, ih _ ?_ h₃⟩
      cases hx : (w₁.perform i o).1 with
      | ok a => exact hc.2.1 a ⟨w₁.state, hx⟩
      | error e => exact hc.2.2 e
    · obtain ⟨h₁, h₂, h₃⟩ := hfault o e w₁ hc.1 hi hA₁ ha he
      exact ⟨h₁, h₂, ih _ (hc.2.2 e) h₃⟩

lemma silent_bind {A : M.World → Prop} {o : Op γ} {f : γ → Coro Op ε β} (hK : K.Faultless)
    (hA : K.Stable A) (ho : K.Silent i A o) (hw : A w)
    (hf : ∀ v a s, K.rely w v → inv v → M.exec o s = (.ok a, v.state) → K.Ensures i Q (f a) v)
    (he : ∀ e v s, K.rely w v → M.exec o s = (.error e, v.state) → Q (.error e) v) :
    K.Ensures i Q (Coro.perform o >>= f) w := by
  apply perform_bind hK
  intro v hr hi ha _
  obtain ⟨hi', hg, hr'⟩ := ho v hi (hA hw hr) ha
  refine ⟨hi', hg, fun a hx => ?_, fun e hx => ?_⟩
  · exact hf _ a v.state (K.trans hr hr') hi' (Prod.ext hx rfl)
  · exact he e _ v.state (K.trans hr hr') (Prod.ext hx rfl)

lemma silent {P : ∀ {β : Type}, Op β → Prop} {A : M.World → Prop} {c : Coro Op ε β}
    (hK : K.Faultless) (hA : K.Stable A)
    (ho : ∀ {β : Type} (o : Op β), P o → K.Silent i A o) (hc : c.All M.Answers P) (hw : A w) :
    K.Ensures i (fun _ v => K.rely w v) c w := by
  have hrun : ∀ {β : Type} (o : Op β) (v : M.World), P o → inv v → K.rely w v → K.allowed o v →
      M.ready o v.state = true →
      inv (v.perform i o).2 ∧ K.guar v (v.perform i o).2 ∧ K.rely w (v.perform i o).2 := by
    intro β o v hP hi hv ha _
    obtain ⟨hi', hg, hr⟩ := ho o hP v hi (hA hw hv) ha
    exact ⟨hi', hg, K.trans hv hr⟩
  apply of_all (P := P) _ hrun _ hc (K.refl w)
  · exact fun h hr => K.trans h hr
  · exact fun o e v _ _ _ _ hf => (hK o e hf).elim

end Ensures

end Contract

structure Discipline (M : Machine Op ε α) (inv : M.World → Prop) where
  contract : ℕ → M.Call → Contract M inv
  post : ℕ → M.Call → Except ε α → M.World → Prop
  stable (i : ℕ) (call : M.Call) (r : Except ε α) : (contract i call).Stable (post i call r)

namespace Discipline

variable {M : Machine Op ε α} {inv : M.World → Prop} (D : Discipline M inv)

structure Kept (c : M.Config) : Prop where
  inv : inv c.world
  ensures : ∀ i p, c.procs[i]? = some p →
    (D.contract i p.call).Ensures i (D.post i p.call) p.rest c.world

/-- The step from `v` to `w` is within what every process but the `i`-th relies on. -/
def Respects (c : M.Config) (i : Option ℕ) (w : M.World) : Prop :=
  ∀ j p, some j ≠ i → c.procs[j]? = some p → (D.contract j p.call).rely c.world w

/-- What a step has to satisfy for the contracts of all processes to survive it. -/
structure Permits (t : M.Transition) : Prop where
  spawn : ∀ call s, t.act = .spawn call → M.enter call t.before.world.state = some s →
    inv t.before.world →
    inv { t.before.world with state := s } ∧ D.Respects t.before none
      { t.before.world with state := s } ∧
    (D.contract t.before.procs.length call).Ensures t.before.procs.length
      (D.post t.before.procs.length call) (M.code call) { t.before.world with state := s }
  env : ∀ e, t.act = .env e → inv t.before.world →
    inv { t.before.world with state := M.env e t.before.world.state } ∧
    D.Respects t.before none { t.before.world with state := M.env e t.before.world.state }
  allowed : ∀ i call {β : Type} (o : Op β) (k : Except ε β → Coro Op ε α),
    t.act = .run i ∨ (∃ e, t.act = .fault i e) → t.before.procs[i]? = some ⟨call, .await o k⟩ →
    (D.contract i call).allowed o t.before.world
  faults : ∀ i e call {β : Type} (o : Op β) (k : Except ε β → Coro Op ε α),
    t.act = .fault i e → t.before.procs[i]? = some ⟨call, .await o k⟩ →
    (D.contract i call).faults o e
  compatible : ∀ i p w, t.before.procs[i]? = some p → inv t.before.world → inv w →
    (D.contract i p.call).guar t.before.world w → D.Respects t.before (some i) w

variable {D}

lemma Kept.respected {c : M.Config} (h : D.Kept c) {i : Option ℕ} {w : M.World}
    (hr : D.Respects c i w) (j : ℕ) (p : M.Proc) (hj : some j ≠ i) (hp : c.procs[j]? = some p) :
    (D.contract j p.call).Ensures j (D.post j p.call) p.rest w :=
  (h.ensures j p hp).rely (fun r => D.stable j p.call r) (hr j p hj hp)

lemma Kept.resume {c : M.Config} (h : D.Kept c) {i : ℕ} {call : M.Call} {rest : Coro Op ε α}
    {w : M.World} (hi : inv w) (hr : D.Respects c (some i) w)
    (he : (D.contract i call).Ensures i (D.post i call) rest w) :
    D.Kept ⟨w, c.procs.set i ⟨call, rest⟩⟩ := by
  refine ⟨hi, fun j p hp => ?_⟩
  by_cases hj : j = i
  · subst hj
    rw [List.getElem?_set_self'] at hp
    cases hc : c.procs[j]? with
    | none => simp [hc] at hp
    | some q =>
      simp only [hc, Option.map_eq_map, Option.map_some, Function.const, Option.some.injEq] at hp
      exact hp ▸ he
  · rw [List.getElem?_set_ne (Ne.symm hj)] at hp
    exact h.respected hr j p (by simpa using hj) hp

lemma Kept.step {t : M.Transition} (h : D.Kept t.before) (hp : D.Permits t) : D.Kept t.after := by
  obtain ⟨c, a⟩ := t
  change D.Kept (Machine.step a c)
  have hm := step_moves a c
  generalize Machine.step a c = d at hm
  cases hm with
  | idle => exact h
  | spawn call s admitted =>
    obtain ⟨hi, hr, he⟩ := hp.spawn call s rfl admitted h.inv
    refine ⟨hi, fun j p hj => ?_⟩
    rcases Nat.lt_trichotomy j c.procs.length with hlt | rfl | hgt
    · rw [List.getElem?_append_left hlt] at hj
      exact h.respected hr j p (by simp) hj
    · simp only [List.getElem?_concat_length, Option.some.injEq] at hj
      exact hj ▸ he
    · rw [List.getElem?_eq_none (by simp; omega)] at hj
      cases hj
  | run i call o k pending ready =>
    have hw := h.ensures i _ pending _ ((D.contract i call).refl _) h.inv
      (hp.allowed i call o k (.inl rfl) pending)
    obtain ⟨hi, hg, he⟩ := hw.1 ready
    exact h.resume hi (hp.compatible i _ _ pending h.inv hi hg) he
  | fault i e call o k pending =>
    have hw := h.ensures i _ pending _ ((D.contract i call).refl _) h.inv
      (hp.allowed i call o k (.inr ⟨e, rfl⟩) pending)
    obtain ⟨hi, hg, he⟩ := hw.2 e (hp.faults i e call o k rfl pending)
    exact h.resume hi (hp.compatible i _ _ pending h.inv hi hg) he
  | env e =>
    obtain ⟨hi, hr⟩ := hp.env e rfl h.inv
    exact ⟨hi, fun j p hj => h.respected hr j p (by simp) hj⟩

lemma Kept.guar {t : M.Transition} (h : D.Kept t.before) (hp : D.Permits t) :
    (∃ i p, (t.act = .run i ∨ ∃ e, t.act = .fault i e) ∧ t.before.procs[i]? = some p ∧
      (D.contract i p.call).guar t.before.world t.after.world) ∨
    ∃ s, t.after.world = { t.before.world with state := s } ∧
      (s = t.before.world.state ∨ (∃ call, M.enter call t.before.world.state = some s) ∨
        ∃ e, t.act = .env e ∧ s = M.env e t.before.world.state) := by
  obtain ⟨c, a⟩ := t
  change (∃ i p, (a = .run i ∨ ∃ e, a = .fault i e) ∧ c.procs[i]? = some p ∧
    (D.contract i p.call).guar c.world (Machine.step a c).world) ∨
    ∃ s, (Machine.step a c).world = { c.world with state := s } ∧
      (s = c.world.state ∨ (∃ call, M.enter call c.world.state = some s) ∨
        ∃ e, a = .env e ∧ s = M.env e c.world.state)
  have hm := step_moves a c
  generalize Machine.step a c = d at hm
  cases hm with
  | idle => exact .inr ⟨_, rfl, .inl rfl⟩
  | spawn call s admitted => exact .inr ⟨s, rfl, .inr (.inl ⟨call, admitted⟩)⟩
  | run i call o k pending ready =>
    have hw := h.ensures i _ pending _ ((D.contract i call).refl _) h.inv
      (hp.allowed i call o k (.inl rfl) pending)
    exact .inl ⟨i, _, .inl rfl, pending, (hw.1 ready).2.1⟩
  | fault i e call o k pending =>
    have hw := h.ensures i _ pending _ ((D.contract i call).refl _) h.inv
      (hp.allowed i call o k (.inr ⟨e, rfl⟩) pending)
    exact .inl ⟨i, _, .inr ⟨e, rfl⟩, pending, (hw.2 e (hp.faults i e call o k rfl pending)).2.1⟩
  | env e => exact .inr ⟨_, rfl, .inr (.inr ⟨e, rfl, rfl⟩)⟩

lemma Kept.guar_run {t : M.Transition} (h : D.Kept t.before) (hp : D.Permits t)
    (hf : ∀ i e, t.act ≠ .fault i e) :
    (∃ i p, t.act = .run i ∧ t.before.procs[i]? = some p ∧
      (D.contract i p.call).guar t.before.world t.after.world) ∨
    ∃ s, t.after.world = { t.before.world with state := s } ∧
      (s = t.before.world.state ∨ (∃ call, M.enter call t.before.world.state = some s) ∨
        ∃ e, t.act = .env e ∧ s = M.env e t.before.world.state) := by
  rcases h.guar hp with ⟨i, p, hact | ⟨e, hact⟩, hi, hg⟩ | hs
  · exact .inl ⟨i, p, hact, hi, hg⟩
  · exact (hf i e hact).elim
  · exact .inr hs

end Discipline

end Askit.Interleaving

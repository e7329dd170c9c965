import Askit.Interleaving.Machine

/-! Properties of a process that its own events decide: each event satisfies a predicate of what the
process has done and seen before, whatever the others do. -/

namespace Askit.Interleaving

/-- The events of the `i`-th process. -/
def own {Op : Type → Type} {ε : Type} (i : ℕ) (history : List (Event Op ε)) : List (Event Op ε) :=
  history.filter fun ev => ev.pid = i

section

variable {Op : Type → Type} {ε : Type} {i : ℕ} {history : List (Event Op ε)} {ev : Event Op ε}

lemma mem_own : ev ∈ own i history ↔ ev ∈ history ∧ ev.pid = i := by
  simp [own]

lemma own_append_self {β : Type} (o : Op β) (r : Except ε β) :
    own i (history ++ [⟨i, o, r⟩]) = own i history ++ [⟨i, o, r⟩] := by
  simp [own]

lemma own_append_of_ne {j : ℕ} (h : j ≠ i) {β : Type} (o : Op β) (r : Except ε β) :
    own i (history ++ [⟨j, o, r⟩]) = own i history := by
  simp [own, h]

lemma own_eq_nil (h : ∀ ev ∈ history, ev.pid ≠ i) : own i history = [] := by
  simpa [own] using h

lemma exists_of_own {l r : List (Event Op ε)} (h : own i history = l ++ ev :: r) :
    ∃ before after, history = before ++ ev :: after ∧ own i before = l ∧ ev.pid = i := by
  obtain ⟨before, rest, rfl, hl, hrest⟩ := List.filter_eq_append_iff.mp h
  obtain ⟨between, after, rfl, hbetween, hev, -⟩ := List.filter_eq_cons_iff.mp hrest
  refine ⟨before ++ between, after, by simp, ?_, by simpa using hev⟩
  have hnone : own i between = [] := own_eq_nil fun ev' h' => by simpa using hbetween ev' h'
  rw [own, List.filter_append, hl]
  simpa [own] using hnone

section Gather

variable {γ : Type} (f : List (Event Op ε) → Event Op ε → Option γ)

/-- What `f` makes of each event and of those before it. -/
def gather (history : List (Event Op ε)) : List γ :=
  (history.foldl (fun l ev => (l.1 ++ [ev], l.2 ++ (f l.1 ev).toList)) ([], [])).2

lemma gather_append (history : List (Event Op ε)) (ev : Event Op ε) :
    gather f (history ++ [ev]) = gather f history ++ (f history ev).toList := by
  have hseen (history : List (Event Op ε)) :
      (history.foldl (fun l ev => (l.1 ++ [ev], l.2 ++ (f l.1 ev).toList)) ([], [])).1
        = history := by
    induction history using List.reverseRecOn with
    | nil => rfl
    | append_singleton history ev ih => rw [List.foldl_concat, ih]
  rw [gather, gather, List.foldl_concat, hseen]

lemma gather_grows {before after : List (Event Op ε)} (h : before <+: after) :
    gather f before <+: gather f after := by
  obtain ⟨rest, rfl⟩ := h
  induction rest using List.reverseRecOn with
  | nil => simp
  | append_singleton rest ev ih =>
    rw [← List.append_assoc, gather_append]
    exact ih.trans (List.prefix_append _ _)

end Gather

/-- Each event satisfies `P` of what has come before it. -/
def Recorded (P : List (Event Op ε) → Event Op ε → Prop) (history : List (Event Op ε)) : Prop :=
  ∀ before ev after, history = before ++ ev :: after → P before ev

variable {P : List (Event Op ε) → Event Op ε → Prop}

lemma recorded_nil : Recorded P [] := by
  intro before ev after h
  simp at h

lemma Recorded.append (h : Recorded P history) (hev : P history ev) :
    Recorded P (history ++ [ev]) := by
  intro before ev' after heq
  rcases List.eq_nil_or_concat after with rfl | ⟨after, last, rfl⟩
  · obtain ⟨rfl, h'⟩ := List.append_inj' heq rfl
    obtain rfl : ev = ev' := by simpa using h'
    exact hev
  · rw [List.concat_eq_append, ← List.cons_append, ← List.append_assoc] at heq
    exact h before ev' after (List.append_inj_left' heq rfl)

lemma Recorded.of_append {rest : List (Event Op ε)} (h : Recorded P (history ++ rest)) :
    Recorded P history := by
  intro before ev after heq
  exact h before ev (after ++ rest) (by simp [heq])

lemma recorded_append_iff : Recorded P (history ++ [ev]) ↔ Recorded P history ∧ P history ev :=
  ⟨fun h => ⟨h.of_append, h history ev [] rfl⟩, fun h => h.1.append h.2⟩

lemma gather_congr {γ : Type} {f g : List (Event Op ε) → Event Op ε → Option γ}
    (h : Recorded (fun before ev => f before ev = g before ev) history) :
    gather f history = gather g history := by
  induction history using List.reverseRecOn with
  | nil => rfl
  | append_singleton history ev ih =>
    obtain ⟨hhistory, hev⟩ := recorded_append_iff.mp h
    rw [gather_append, gather_append, ih hhistory, hev]

lemma Recorded.own {Q : List (Event Op ε) → Event Op ε → Prop} (h : Recorded P history)
    (hPQ : ∀ before ev, P before ev → Q (own i before) ev) : Recorded Q (own i history) := by
  intro before ev after heq
  obtain ⟨front, rest, hsplit, rfl, -⟩ := exists_of_own heq
  exact hPQ front ev (h front ev rest hsplit)

/-- The events after the first ones satisfy `P`. -/
def recordedAfter (P : List (Event Op ε) → Event Op ε → Prop) [∀ l ev, Decidable (P l ev)] :
    List (Event Op ε) → List (Event Op ε) → Bool
  | _, [] => true
  | before, ev :: after => decide (P before ev) && recordedAfter P (before ++ [ev]) after

lemma recordedAfter_iff [∀ l ev, Decidable (P l ev)] (before : List (Event Op ε))
    (h : Recorded P before) (after : List (Event Op ε)) :
    recordedAfter P before after = true ↔ Recorded P (before ++ after) := by
  induction after generalizing before with
  | nil => simpa [recordedAfter] using h
  | cons ev after ih =>
    rw [recordedAfter, Bool.and_eq_true, decide_eq_true_iff]
    constructor
    · rintro ⟨hev, hafter⟩
      simpa using (ih _ (h.append hev)).mp hafter
    · intro hall
      have hev : P before ev := hall before ev after rfl
      exact ⟨hev, (ih _ (h.append hev)).mpr (by simpa using hall)⟩

instance [∀ l ev, Decidable (P l ev)] : Decidable (Recorded P history) :=
  decidable_of_iff (recordedAfter P [] history = true) (recordedAfter_iff [] recorded_nil history)

lemma Recorded.of_mem (h : Recorded P history) (hev : ev ∈ history) :
    ∃ before, before <+: history ∧ P before ev := by
  obtain ⟨before, after, rfl⟩ := List.append_of_mem hev
  exact ⟨before, List.prefix_append _ _, h before ev after rfl⟩

end

namespace Coro

variable {Op : Type → Type} {ε α β γ : Type}

/-- As the `i`-th process, having done `l` before, the coroutine adds only events that satisfy `P`
of what it has done before them, and ends in `Q`. -/
def Follows (V : ∀ {β : Type}, Op β → β → Prop) (i : ℕ)
    (P : List (Event Op ε) → Event Op ε → Prop) (Q : Except ε α → List (Event Op ε) → Prop) :
    Coro Op ε α → List (Event Op ε) → Prop
  | done r, l => Q r l
  | await o k, l => ∀ r, (∀ a, r = .ok a → V o a) →
      P l ⟨i, o, r⟩ ∧ (k r).Follows V i P Q (l ++ [⟨i, o, r⟩])

variable {V : ∀ {β : Type}, Op β → β → Prop} {i : ℕ} {P : List (Event Op ε) → Event Op ε → Prop}
variable {l : List (Event Op ε)}

namespace Follows

lemma perform {o : Op α} {Q : Except ε α → List (Event Op ε) → Prop}
    (h : ∀ r, (∀ a, r = .ok a → V o a) → P l ⟨i, o, r⟩ ∧ Q r (l ++ [⟨i, o, r⟩])) :
    (perform o : Coro Op ε α).Follows V i P Q l := h

lemma perform_bind {o : Op α} {f : α → Coro Op ε β} {Q : Except ε β → List (Event Op ε) → Prop}
    (hP : ∀ r, (∀ a, r = .ok a → V o a) → P l ⟨i, o, r⟩)
    (hf : ∀ a, V o a → (f a).Follows V i P Q (l ++ [⟨i, o, .ok a⟩]))
    (he : ∀ e, Q (.error e) (l ++ [⟨i, o, .error e⟩])) :
    (Coro.perform o >>= f).Follows V i P Q l := by
  intro r hr
  refine ⟨hP r hr, ?_⟩
  cases r with
  | ok a => exact hf a (hr a rfl)
  | error e => exact he e

lemma bind {x : Coro Op ε α} {f : α → Coro Op ε β} {S : Except ε α → List (Event Op ε) → Prop}
    {Q : Except ε β → List (Event Op ε) → Prop} (hx : x.Follows V i P S l)
    (hf : ∀ a l, S (.ok a) l → (f a).Follows V i P Q l)
    (he : ∀ e l, S (.error e) l → Q (.error e) l) : (x >>= f).Follows V i P Q l := by
  induction x generalizing l with
  | done r =>
    cases r with
    | ok a => exact hf a l hx
    | error e => exact he e l hx
  | await o k ih => exact fun r hr => ⟨(hx r hr).1, ih r (hx r hr).2⟩

lemma tryCatch {x : Coro Op ε α} {f : ε → Coro Op ε α}
    {S Q : Except ε α → List (Event Op ε) → Prop} (hx : x.Follows V i P S l)
    (hf : ∀ a l, S (.ok a) l → Q (.ok a) l)
    (he : ∀ e l, S (.error e) l → (f e).Follows V i P Q l) :
    (tryCatch x f).Follows V i P Q l := by
  induction x generalizing l with
  | done r =>
    cases r with
    | ok a => exact hf a l hx
    | error e => exact he e l hx
  | await o k ih => exact fun r hr => ⟨(hx r hr).1, ih r (hx r hr).2⟩

lemma require_bind {c : Prop} [Decidable c] {e : ε} {f : Unit → Coro Op ε α}
    {Q : Except ε α → List (Event Op ε) → Prop} (hf : c → (f ()).Follows V i P Q l)
    (he : ¬c → Q (.error e) l) : (require c e >>= f).Follows V i P Q l := by
  unfold require
  split
  · exact hf ‹_›
  · exact he ‹_›

lemma ite {c : Prop} [Decidable c] {x y : Coro Op ε α}
    {Q : Except ε α → List (Event Op ε) → Prop} (hx : c → x.Follows V i P Q l)
    (hy : ¬c → y.Follows V i P Q l) : (if c then x else y).Follows V i P Q l := by
  split
  · exact hx ‹_›
  · exact hy ‹_›

lemma mono {x : Coro Op ε α} {Q R : Except ε α → List (Event Op ε) → Prop}
    (h : x.Follows V i P Q l) (hQ : ∀ r l, Q r l → R r l) : x.Follows V i P R l := by
  induction x generalizing l with
  | done r => exact hQ r l h
  | await o k ih => exact fun r hr => ⟨(h r hr).1, ih r (h r hr).2⟩

lemma weaken {P' : List (Event Op ε) → Event Op ε → Prop} {x : Coro Op ε α}
    {Q : Except ε α → List (Event Op ε) → Prop} (h : x.Follows V i P Q l)
    (hP : ∀ l ev, P l ev → P' l ev) : x.Follows V i P' Q l := by
  induction x generalizing l with
  | done r => exact h
  | await o k ih => exact fun r hr => ⟨hP _ _ (h r hr).1, ih r (h r hr).2⟩

lemma and_returns {R : α → Prop} {x : Coro Op ε α} {Q : Except ε α → List (Event Op ε) → Prop}
    (h : x.Follows V i P Q l) (hr : x.Returns V R) :
    x.Follows V i P (fun r l => Q r l ∧ ∀ a, r = .ok a → R a) l := by
  induction x generalizing l with
  | done r =>
    refine ⟨h, ?_⟩
    rintro a rfl
    exact hr
  | await o k ih =>
    intro r hv
    refine ⟨(h r hv).1, ih r (h r hv).2 ?_⟩
    cases r with
    | ok a => exact hr.1 a (hv a rfl)
    | error e => exact hr.2 e

/-- A coroutine all of whose operations are harmless where `A` holds, and keep it. -/
lemma of_all {S : ∀ {β : Type}, Op β → Prop} {A : List (Event Op ε) → Prop} {x : Coro Op ε α}
    (hx : x.All V S)
    (hS : ∀ {β : Type} (o : Op β) (r : Except ε β) (l : List (Event Op ε)), S o →
      (∀ a, r = .ok a → V o a) → A l → P l ⟨i, o, r⟩ ∧ A (l ++ [⟨i, o, r⟩])) (hl : A l) :
    x.Follows V i P (fun _ => A) l := by
  induction x generalizing l with
  | done r => exact hl
  | await o k ih =>
    intro r hr
    obtain ⟨hP, hA⟩ := hS o r l hx.1 hr hl
    refine ⟨hP, ih r ?_ hA⟩
    cases r with
    | ok a => exact hx.2.1 a (hr a rfl)
    | error e => exact hx.2.2 e

lemma of_not_recorded {R : List (Event Op ε) → Event Op ε → Prop} {x : Coro Op ε α}
    {Q : Except ε α → List (Event Op ε) → Prop} (h : ¬Recorded R l) :
    x.Follows V i (fun _ _ => True) (fun r l' => Recorded R l' → Q r l') l := by
  induction x generalizing l with
  | done r => exact fun hr => absurd hr h
  | await o k ih => exact fun r _ => ⟨trivial, ih r fun hr => h hr.of_append⟩

lemma forM {A : List (Event Op ε) → Prop} {as : List α} {f : α → Coro Op ε Unit}
    (hf : ∀ a ∈ as, ∀ l, A l → (f a).Follows V i P (fun _ => A) l) (hl : A l) :
    (as.forM f).Follows V i P (fun _ => A) l := by
  induction as generalizing l with
  | nil => exact hl
  | cons a as ih =>
    refine (hf a List.mem_cons_self l hl).bind (fun _ l' h => ?_) fun _ _ h => h
    exact ih (fun b hb => hf b (List.mem_cons_of_mem a hb)) h

lemma reify {x : Coro Op ε α} {S : Except ε α → List (Event Op ε) → Prop}
    (h : x.Follows V i P S l) :
    (MonadExcept.tryCatch (Except.ok <$> x) fun e => pure (.error e)).Follows V i P
      (fun r l' => ∃ v, r = .ok v ∧ S v l') l := by
  apply Follows.tryCatch (S := fun r l' => match r with
    | .ok v => S v l'
    | .error e => S (.error e) l')
  · rw [map_eq_pure_bind]
    exact h.bind (fun a l' hs => hs) fun e l' hs => hs
  · exact fun v l' hs => ⟨v, rfl, hs⟩
  · exact fun e l' hs => ⟨.error e, rfl, hs⟩

end Follows

/-- The coroutine raises only what an operation in `T` has just raised. -/
def Raises (T : ∀ {β : Type}, Op β → Prop) : Coro Op ε α → Prop
  | done (.ok _) => True
  | done (.error _) => False
  | await o k => (∀ a, (k (.ok a)).Raises T) ∧
      ∀ e, (T o ∧ k (.error e) = done (.error e)) ∨ (k (.error e)).Raises T

namespace Raises

variable {T : ∀ {β : Type}, Op β → Prop}

lemma perform {o : Op α} (ho : T o) : (Coro.perform o : Coro Op ε α).Raises T :=
  ⟨fun _ => trivial, fun _ => .inl ⟨ho, rfl⟩⟩

lemma bind {x : Coro Op ε α} {f : α → Coro Op ε β} (hx : x.Raises T) (hf : ∀ a, (f a).Raises T) :
    (x >>= f).Raises T := by
  induction x with
  | done r =>
    cases r with
    | ok a => exact hf a
    | error e => exact hx.elim
  | await o k ih =>
    refine ⟨fun a => ih _ (hx.1 a), fun e => ?_⟩
    rcases hx.2 e with ⟨ho, hk⟩ | hk
    · exact .inl ⟨ho, congrArg (· >>= f) hk⟩
    · exact .inr (ih _ hk)

lemma tryCatch_perform {o : Op α} {f : ε → Coro Op ε α} (hf : ∀ e, (f e).Raises T) :
    (tryCatch (Coro.perform o) f).Raises T :=
  ⟨fun _ => trivial, fun e => .inr (hf e)⟩

lemma forM {l : List α} {f : α → Coro Op ε Unit} (h : ∀ a ∈ l, (f a).Raises T) :
    (l.forM f).Raises T := by
  induction l with
  | nil => trivial
  | cons a l ih =>
    exact (h a List.mem_cons_self).bind fun _ => ih fun b hb => h b (List.mem_cons_of_mem a hb)

end Raises

/-- Where such a coroutine raises, an operation in `T` has raised last. -/
lemma Follows.of_raises {S T : ∀ {β : Type}, Op β → Prop} {A : List (Event Op ε) → Prop}
    {x : Coro Op ε α} (hx : x.All V S) (hr : x.Raises T)
    (hS : ∀ {β : Type} (o : Op β) (r : Except ε β) (l : List (Event Op ε)), S o →
      (∀ a, r = .ok a → V o a) → A l → P l ⟨i, o, r⟩ ∧ A (l ++ [⟨i, o, r⟩])) (hl : A l) :
    x.Follows V i P (fun r l' => A l' ∧ ∀ e, r = .error e →
      ∃ (before : List (Event Op ε)) (β : Type) (o : Op β),
      A before ∧ T o ∧ l' = before ++ [⟨i, o, .error e⟩]) l := by
  induction x generalizing l with
  | done r =>
    cases r with
    | ok a => exact ⟨hl, fun e h => (by cases h)⟩
    | error e => exact hr.elim
  | await o k ih =>
    intro r hv
    obtain ⟨hP, hA⟩ := hS o r l hx.1 hv hl
    refine ⟨hP, ?_⟩
    cases r with
    | ok a => exact ih _ (hx.2.1 a (hv a rfl)) (hr.1 a) hA
    | error e =>
      rcases hr.2 e with ⟨ho, hk⟩ | hk
      · rw [hk]
        refine ⟨hA, fun e' h => ?_⟩
        cases h
        exact ⟨l, _, o, hl, ho, rfl⟩
      · exact ih _ (hx.2.2 e) hk hA

end Coro

namespace Machine

variable {Op : Type → Type} {ε α : Type} {M : Machine Op ε α}

structure Config.Traced (P : M.Call → List (Event Op ε) → Event Op ε → Prop)
    (Q : M.Call → Except ε α → List (Event Op ε) → Prop) (c : M.Config) : Prop where
  rest : ∀ (i : ℕ) (p : M.Proc), c.procs[i]? = some p →
    p.rest.Follows M.Answers i (P p.call) (Q p.call) (own i c.world.history)
  history : Recorded (fun before ev => ∃ call, c.calls[ev.pid]? = some call ∧
    P call (own ev.pid before) ev) c.world.history

variable {P : M.Call → List (Event Op ε) → Event Op ε → Prop}
variable {Q : M.Call → Except ε α → List (Event Op ε) → Prop}

lemma traced_start (s : M.State) : (start s).Traced P Q where
  rest i p h := by cases h
  history := recorded_nil

lemma Config.Traced.resume {c : M.Config} (h : c.Traced P Q) {i : ℕ} {call : M.Call} {β : Type}
    {o : Op β} {k : Except ε β → Coro Op ε α} (pending : c.procs[i]? = some ⟨call, .await o k⟩)
    {w : M.World} {r : Except ε β} (hw : w.history = c.world.history ++ [⟨i, o, r⟩])
    (hr : ∀ a, r = .ok a → M.Answers o a) :
    Config.Traced P Q ⟨w, c.procs.set i ⟨call, k r⟩⟩ := by
  have hcalls := calls_set (s := k r) pending
  obtain ⟨hev, hk⟩ := h.rest i _ pending r hr
  constructor
  · intro j p hj
    by_cases hij : i = j
    · subst hij
      obtain ⟨hlt, -⟩ := List.getElem?_eq_some_iff.mp pending
      rw [List.getElem?_set_self hlt] at hj
      cases hj
      rw [hw, own_append_self]
      exact hk
    · rw [List.getElem?_set_ne hij] at hj
      rw [hw, own_append_of_ne hij]
      exact h.rest j p hj
  · have hcalls' : Config.calls ⟨w, c.procs.set i ⟨call, k r⟩⟩ = c.calls := hcalls
    simp only [hcalls', hw]
    exact h.history.append ⟨call, getElem?_calls pending, hev⟩

lemma Config.Traced.step {c : M.Config} (h : c.Traced P Q) (hl : c.Labelled)
    (hcode : ∀ i call, (M.code call).Follows M.Answers i (P call) (Q call) []) (a : M.Act) :
    (Machine.step a c).Traced P Q := by
  have hm := step_moves a c
  generalize Machine.step a c = d at hm
  cases hm with
  | idle => exact h
  | spawn call s admitted =>
    constructor
    · intro i p hi
      rcases Nat.lt_trichotomy i c.procs.length with hlt | rfl | hgt
      · rw [List.getElem?_append_left hlt] at hi
        exact h.rest i p hi
      · rw [List.getElem?_concat_length] at hi
        cases hi
        rw [own_eq_nil fun ev hev => Nat.ne_of_lt (hl ev hev)]
        exact hcode _ call
      · rw [List.getElem?_eq_none (by simp; omega)] at hi
        cases hi
    · intro before ev after heq
      obtain ⟨call', hc, hp⟩ := h.history before ev after heq
      refine ⟨call', ?_, hp⟩
      rw [Config.calls, List.map_append]
      exact (List.getElem?_append_left (List.getElem?_eq_some_iff.mp hc).1).trans hc
  | run i call o k pending ready =>
    exact h.resume pending (World.perform_history _ _ _) fun a ha => ⟨_, ha⟩
  | fault i e call o k pending =>
    exact h.resume pending (World.fail_history _ _ _ _) fun a ha => (by cases ha)
  | env e => exact ⟨h.rest, h.history⟩

/-- Each event satisfies `R` of its call and of all that has come before it. -/
def Config.Noted (R : M.Call → List (Event Op ε) → Event Op ε → Prop) (c : M.Config) : Prop :=
  Recorded (fun before ev => ∃ call, c.calls[ev.pid]? = some call ∧ R call before ev)
    c.world.history

variable {R : M.Call → List (Event Op ε) → Event Op ε → Prop}

lemma noted_start (s : M.State) : (start s).Noted R := recorded_nil

lemma Config.Noted.resume {c d : M.Config} (h : c.Noted R) (hcalls : d.calls = c.calls) {i : ℕ}
    {call : M.Call} (pending : c.calls[i]? = some call) {β : Type} {o : Op β} {r : Except ε β}
    (hd : d.world.history = c.world.history ++ [⟨i, o, r⟩])
    (hR : R call c.world.history ⟨i, o, r⟩) : d.Noted R := by
  rw [Config.Noted, hcalls, hd]
  exact Recorded.append h ⟨call, pending, hR⟩

lemma Config.Noted.step {c : M.Config} (h : c.Noted R) (a : M.Act)
    (hrun : ∀ (i : ℕ) (call : M.Call) {β : Type} (o : Op β) (k : Except ε β → Coro Op ε α),
      a = .run i →
      c.procs[i]? = some ⟨call, .await o k⟩ → R call c.world.history
      ⟨i, o, (M.exec o c.world.state).1⟩)
    (hfault : ∀ (i : ℕ) (e : ε) (call : M.Call) {β : Type} (o : Op β), a = .fault i e →
      R call c.world.history ⟨i, o, .error e⟩) : (Machine.step a c).Noted R := by
  have hm := step_moves a c
  generalize Machine.step a c = d at hm
  cases hm with
  | idle | env => exact h
  | spawn call s admitted =>
    intro before ev after heq
    obtain ⟨call', hc, hR⟩ := h before ev after heq
    refine ⟨call', ?_, hR⟩
    rw [Config.calls, List.map_append]
    exact (List.getElem?_append_left (List.getElem?_eq_some_iff.mp hc).1).trans hc
  | run i call o k pending ready =>
    exact h.resume (calls_set pending) (getElem?_calls pending) (World.perform_history _ _ _)
      (hrun i call o k rfl pending)
  | fault i e call o k pending =>
    exact h.resume (calls_set pending) (getElem?_calls pending) (World.fail_history _ _ _ _)
      (hfault i e call o rfl)

end Machine

end Askit.Interleaving

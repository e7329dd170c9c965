import Askit.Interleaving.Machine

/-! Operations that a coroutine has to earn: each one that costs is preceded, in the same process,
by one of its own that has earned it. -/

namespace Askit.Interleaving

variable {Op : Type → Type} {ε α β γ : Type}

namespace Coro

variable (V : ∀ {β : Type}, Op β → β → Prop) (earns : ∀ {β : Type}, Op β → Except ε β → Bool)
  (costs : ∀ {β : Type}, Op β → Bool)

/-- With `n` in hand the coroutine can pay for all it will do. -/
def Pays : ℕ → Coro Op ε α → Prop
  | _, done _ => True
  | n, await o k => (costs o = true → 0 < n) ∧
      (∀ a, V o a → Pays (n - (costs o).toNat + (earns o (.ok a)).toNat) (k (.ok a))) ∧
      ∀ e, Pays (n - (costs o).toNat + (earns o (.error e)).toNat) (k (.error e))

namespace Pays

variable {V earns costs} {m n : ℕ}

lemma mono {x : Coro Op ε α} (h : Pays V earns costs m x) (hmn : m ≤ n) :
    Pays V earns costs n x := by
  induction x generalizing m n with
  | done r => trivial
  | await o k ih =>
    obtain ⟨hc, hok, he⟩ := h
    refine ⟨fun ho => Nat.lt_of_lt_of_le (hc ho) hmn, fun a ha => ih _ (hok a ha) ?_, fun e =>
      ih _ (he e) ?_⟩
    · omega
    · omega

lemma bind {x : Coro Op ε α} {f : α → Coro Op ε β} (hx : Pays V earns costs n x)
    (hf : ∀ a, Pays V earns costs 0 (f a)) : Pays V earns costs n (x >>= f) := by
  induction x generalizing n with
  | done r =>
    cases r with
    | ok a => exact (hf a).mono (Nat.zero_le n)
    | error e => trivial
  | await o k ih => exact ⟨hx.1, fun a ha => ih _ (hx.2.1 a ha), fun e => ih _ (hx.2.2 e)⟩

lemma perform_bind {o : Op γ} {f : γ → Coro Op ε β} (hc : costs o = true → 0 < n)
    (hf : ∀ a, V o a → Pays V earns costs (n - (costs o).toNat + (earns o (.ok a)).toNat) (f a)) :
    Pays V earns costs n (perform o >>= f) :=
  ⟨hc, hf, fun _ => trivial⟩

lemma require_bind {c : Prop} [Decidable c] {e : ε} {f : Unit → Coro Op ε α}
    (hf : c → Pays V earns costs n (f ())) : Pays V earns costs n (require c e >>= f) := by
  unfold require
  split
  · exact hf ‹_›
  · trivial

lemma tryCatch {x : Coro Op ε α} {f : ε → Coro Op ε α} (hx : Pays V earns costs n x)
    (hf : ∀ e, Pays V earns costs 0 (f e)) : Pays V earns costs n (tryCatch x f) := by
  induction x generalizing n with
  | done r =>
    cases r with
    | ok a => trivial
    | error e => exact (hf e).mono (Nat.zero_le n)
  | await o k ih => exact ⟨hx.1, fun a ha => ih _ (hx.2.1 a ha), fun e => ih _ (hx.2.2 e)⟩

lemma of_all {P : ∀ {β : Type}, Op β → Prop} {x : Coro Op ε α} (hx : x.All V P)
    (hP : ∀ {β : Type} (o : Op β), P o → costs o = false) : Pays V earns costs n x := by
  induction x generalizing n with
  | done r => trivial
  | await o k ih =>
    refine ⟨fun ho => ?_, fun a ha => ih _ (hx.2.1 a ha), fun e => ih _ (hx.2.2 e)⟩
    have ho : costs o = true := ho
    rw [hP o hx.1] at ho
    cases ho

end Pays

end Coro

namespace Machine

variable {M : Machine Op ε α} (earns : ∀ {β : Type}, Op β → Except ε β → Bool)
  (costs : ∀ {β : Type}, Op β → Bool)

def earned (i : ℕ) (history : List (Event Op ε)) : ℕ :=
  history.countP fun ev => decide (ev.pid = i) && earns ev.op ev.outcome

def spent (i : ℕ) (history : List (Event Op ε)) : ℕ :=
  history.countP fun ev => decide (ev.pid = i) && costs ev.op

structure Config.Solvent (c : M.Config) : Prop where
  rest : ∀ (i : ℕ) (p : M.Proc), c.procs[i]? = some p →
    ∃ n, p.rest.Pays M.Answers earns costs n ∧ spent costs i c.world.history + n ≤ earned earns i
      c.world.history
  total : ∀ i, spent costs i c.world.history ≤ earned earns i c.world.history

variable {earns costs}

lemma Config.Solvent.resume {c : M.Config} (h : c.Solvent earns costs) {i : ℕ} {call : M.Call}
    {β : Type} {o : Op β} {k : Except ε β → Coro Op ε α}
    (pending : c.procs[i]? = some ⟨call, .await o k⟩) {w : M.World} {r : Except ε β}
    (hw : w.history = c.world.history ++ [⟨i, o, r⟩]) (hr : ∀ a, r = .ok a → M.Answers o a) :
    Config.Solvent earns costs ⟨w, c.procs.set i ⟨call, k r⟩⟩ := by
  have hspent : ∀ j, spent costs j w.history =
      spent costs j c.world.history + if i = j then (costs o).toNat else 0 := by
    intro j
    rw [hw, spent, spent, List.countP_append, List.countP_singleton]
    by_cases hij : i = j <;> cases hc : costs o <;> simp [hij]
  have hearned : ∀ j, earned earns j w.history =
      earned earns j c.world.history + if i = j then (earns o r).toNat else 0 := by
    intro j
    rw [hw, earned, earned, List.countP_append, List.countP_singleton]
    by_cases hij : i = j <;> cases he : earns o r <;> simp [hij]
  obtain ⟨n, ⟨hcost, hok, herror⟩, hn⟩ := h.rest i _ pending
  have hpaid : spent costs i c.world.history + (costs o).toNat +
      (n - (costs o).toNat + (earns o r).toNat) ≤
        earned earns i c.world.history + (earns o r).toNat := by
    cases hc : costs o with
    | false => simp; omega
    | true =>
      have := hcost hc
      simp only [Bool.toNat_true]
      omega
  constructor
  · intro j p hj
    by_cases hij : i = j
    · subst hij
      rw [List.getElem?_set_self (List.getElem?_eq_some_iff.mp pending).1] at hj
      cases hj
      refine ⟨n - (costs o).toNat + (earns o r).toNat, ?_, ?_⟩
      · cases r with
        | ok a => exact hok a (hr a rfl)
        | error e => exact herror e
      · simpa [hspent, hearned] using hpaid
    · rw [List.getElem?_set_ne hij] at hj
      obtain ⟨m, hm, hle⟩ := h.rest j p hj
      exact ⟨m, hm, by simpa [hspent, hearned, hij] using hle⟩
  · intro j
    have := h.total j
    by_cases hij : i = j
    · subst hij
      simp only [hspent, hearned, if_true]
      omega
    · simpa [hspent, hearned, hij] using this

lemma Config.Solvent.step (hcode : ∀ call, (M.code call).Pays M.Answers earns costs 0)
    {c : M.Config} (h : c.Solvent earns costs) (a : M.Act) :
    (Machine.step a c).Solvent earns costs := by
  have hm := step_moves a c
  generalize Machine.step a c = d at hm
  cases hm with
  | idle => exact h
  | spawn call s admitted =>
    refine ⟨fun i p hi => ?_, h.total⟩
    rcases Nat.lt_trichotomy i c.procs.length with hlt | rfl | hgt
    · rw [List.getElem?_append_left hlt] at hi
      exact h.rest i p hi
    · rw [List.getElem?_concat_length] at hi
      cases hi
      exact ⟨0, hcode call, h.total _⟩
    · rw [List.getElem?_eq_none (by simp; omega)] at hi
      cases hi
  | run i call o k pending ready =>
    exact h.resume pending (World.perform_history _ _ _) fun a ha => ⟨_, ha⟩
  | fault i e call o k pending => exact h.resume pending (World.fail_history _ _ _ _) (by simp)
  | env e => exact ⟨h.rest, h.total⟩

lemma Config.Solvent.unspent {c : M.Config} (h : c.Solvent earns costs)
    (hone : c.world.history.countP (fun ev => earns ev.op ev.outcome) ≤ 1) {i : ℕ} {call : M.Call}
    {β : Type} {o : Op β} {k : Except ε β → Coro Op ε α}
    (pending : c.procs[i]? = some ⟨call, .await o k⟩) (ho : costs o = true) :
    ∀ ev ∈ c.world.history, costs ev.op = false := by
  obtain ⟨n, ⟨hcost, -⟩, hn⟩ := h.rest i _ pending
  have hn' : 0 < n := hcost ho
  have hle : earned earns i c.world.history ≤ 1 := by
    refine Nat.le_trans (List.countP_mono_left fun ev _ hev => ?_) hone
    simp only [Bool.and_eq_true] at hev
    exact hev.2
  intro ev hev
  by_contra hne
  rw [Bool.not_eq_false] at hne
  have hspent : 0 < spent costs ev.pid c.world.history :=
    List.countP_pos_iff.mpr ⟨ev, hev, by simp [hne]⟩
  have hearned := h.total ev.pid
  -- the two processes have both earned, so they are one, which has earned twice
  obtain ⟨a, ha, hai⟩ := List.countP_pos_iff.mp (show 0 < earned earns i c.world.history by omega)
  obtain ⟨b, hb, hbi⟩ := List.countP_pos_iff.mp
    (show 0 < earned earns ev.pid c.world.history by omega)
  simp only [Bool.and_eq_true, decide_eq_true_eq] at hai hbi
  have heq := eq_of_countP_le_one hone ha hb hai.2 hbi.2
  have hpid : i = ev.pid := by rw [← hai.1, heq, hbi.1]
  rw [← hpid] at hspent
  omega

end Machine

end Askit.Interleaving

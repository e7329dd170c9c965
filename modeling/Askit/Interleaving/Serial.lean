import Askit.Interleaving.Sequential

/-! Handlers that run one at a time: each runs from where it rests to where it rests again or to its
end, and nothing else happens meanwhile. -/

namespace Askit.Interleaving.Machine

open Coro

variable {Op : Type → Type} {ε α : Type} {M : Machine Op ε α} {β γ δ : Type}

variable (M) in
inductive Turn
  | serve (call : M.Call)
  | resume (i : ℕ)
  | env (e : M.Env)

section

variable (rests : ∀ {β : Type}, Op β → Bool)

variable (M) in
def Halts (o : Op β) (s : M.State) : Bool := rests o || !M.ready o s

def settle (i : ℕ) : Coro Op ε α → M.World → Coro Op ε α × M.World
  | .done r, w => (.done r, w)
  | .await o k, w =>
    if M.Halts rests o w.state then (.await o k, w)
    else settle i (k (w.perform i o).1) (w.perform i o).2

def turn : M.Turn → M.Config → M.Config
  | .serve call, c =>
    match M.enter call c.world.state with
    | some s =>
      let p := settle rests c.procs.length (M.code call) { c.world with state := s }
      ⟨p.2, c.procs ++ [⟨call, p.1⟩]⟩
    | none => c
  | .resume i, c =>
    match c.procs[i]? with
    | some ⟨call, .await o k⟩ =>
      if M.ready o c.world.state then
        let p := settle rests i (k (c.world.perform i o).1) (c.world.perform i o).2
        ⟨p.2, c.procs.set i ⟨call, p.1⟩⟩
      else c
    | _ => c
  | .env e, c => step (.env e) c

def inTurn (l : List M.Turn) (c : M.Config) : M.Config := l.foldl (fun c t => turn rests t c) c

@[simp] lemma inTurn_nil (c : M.Config) : inTurn rests [] c = c := rfl

@[simp] lemma inTurn_cons (t : M.Turn) (l : List M.Turn) (c : M.Config) :
    inTurn rests (t :: l) c = inTurn rests l (turn rests t c) := rfl

/-- What `note` says of a call that is served, in the state in which it is served. -/
def noted (note : M.Call → M.State → Option γ) (c : M.Config) : M.Turn → List γ
  | .serve call => ((M.enter call c.world.state).bind fun _ => note call c.world.state).toList
  | .resume _ | .env _ => []

def notes (note : M.Call → M.State → Option γ) : List M.Turn → M.Config → List γ
  | [], _ => []
  | t :: l, c => noted note c t ++ notes note l (turn rests t c)

/-- Wherever the coroutine halts it has `I`, and it is resumed only where `I` holds again, whatever
has been noted meanwhile; where it ends it has `Q`. -/
def Serves (i : ℕ) (I : List γ → M.World → Prop) (Q : List γ → Except ε β → M.World → Prop) :
    Coro Op ε β → List γ → M.World → Prop
  | .done r, g, w => Q g r w
  | .await o k, g, w =>
    (M.Halts rests o w.state = true → I g w ∧ ∀ g' v, I g' v → M.ready o v.state = true →
      Serves i I Q (k (v.perform i o).1) g' (v.perform i o).2) ∧
    (M.Halts rests o w.state = false → Serves i I Q (k (w.perform i o).1) g (w.perform i o).2)

end

namespace Serves

variable {rests : ∀ {β : Type}, Op β → Bool} {i : ℕ} {I : List γ → M.World → Prop}
variable {g : List γ} {w : M.World}

lemma bind {x : Coro Op ε β} {f : β → Coro Op ε δ} {S : List γ → Except ε β → M.World → Prop}
    {Q : List γ → Except ε δ → M.World → Prop} (hx : Serves rests i I S x g w)
    (hf : ∀ a g w, S g (.ok a) w → Serves rests i I Q (f a) g w)
    (he : ∀ e g w, S g (.error e) w → Q g (.error e) w) : Serves rests i I Q (x >>= f) g w := by
  induction x generalizing g w with
  | done r =>
    cases r with
    | ok a => exact hf a g w hx
    | error e => exact he e g w hx
  | await o k ih =>
    exact ⟨fun hh => ⟨(hx.1 hh).1, fun g' v hv hr => ih _ ((hx.1 hh).2 g' v hv hr)⟩,
      fun hh => ih _ (hx.2 hh)⟩

lemma tryCatch {x : Coro Op ε β} {f : ε → Coro Op ε β} {S Q : List γ → Except ε β → M.World → Prop}
    (hx : Serves rests i I S x g w) (hf : ∀ a g w, S g (.ok a) w → Q g (.ok a) w)
    (he : ∀ e g w, S g (.error e) w → Serves rests i I Q (f e) g w) :
    Serves rests i I Q (MonadExcept.tryCatch x f) g w := by
  induction x generalizing g w with
  | done r =>
    cases r with
    | ok a => exact hf a g w hx
    | error e => exact he e g w hx
  | await o k ih =>
    exact ⟨fun hh => ⟨(hx.1 hh).1, fun g' v hv hr => ih _ ((hx.1 hh).2 g' v hv hr)⟩,
      fun hh => ih _ (hx.2 hh)⟩

lemma mono {x : Coro Op ε β} {S Q : List γ → Except ε β → M.World → Prop}
    (hx : Serves rests i I S x g w) (hQ : ∀ g r w, S g r w → Q g r w) :
    Serves rests i I Q x g w := by
  induction x generalizing g w with
  | done r => exact hQ g r w hx
  | await o k ih =>
    exact ⟨fun hh => ⟨(hx.1 hh).1, fun g' v hv hr => ih _ ((hx.1 hh).2 g' v hv hr)⟩,
      fun hh => ih _ (hx.2 hh)⟩

lemma forM {A : List γ → M.World → Prop} {f : β → Coro Op ε Unit} {l : List β}
    (hf : ∀ a ∈ l, ∀ g w, A g w → Serves rests i I (fun g _ w => A g w) (f a) g w) (hw : A g w) :
    Serves rests i I (fun g _ w => A g w) (l.forM f) g w := by
  induction l generalizing g w with
  | nil => exact hw
  | cons a l ih =>
    exact bind (hf a List.mem_cons_self g w hw)
      (fun _ g w hw => ih (fun b hb => hf b (List.mem_cons_of_mem a hb)) hw) fun _ _ _ hw => hw

lemma perform {o : Op β} {a : β} {t : M.State} {Q : List γ → Except ε β → M.World → Prop}
    (hh : M.Halts rests o w.state = false) (hx : M.exec o w.state = (.ok a, t))
    (hQ : ∀ v : M.World, v.state = t → Q g (.ok a) v) :
    Serves rests i I Q (Coro.perform o) g w := by
  refine ⟨fun h => absurd h (by simp [hh]), fun _ => ?_⟩
  have ha : (w.perform i o).1 = .ok a := congrArg Prod.fst hx
  rw [ha]
  exact hQ _ (congrArg Prod.snd hx)

variable {Q : List γ → Except ε δ → M.World → Prop}

lemma perform_bind {o : Op β} {f : β → Coro Op ε δ} {a : β} {t : M.State}
    (hh : M.Halts rests o w.state = false) (hx : M.exec o w.state = (.ok a, t))
    (hf : ∀ v : M.World, v.state = t → Serves rests i I Q (f a) g v) :
    Serves rests i I Q (Coro.perform o >>= f) g w := by
  apply bind (S := fun g' r v => g' = g ∧ r = .ok a ∧ v.state = t)
  · exact perform hh hx fun v hv => ⟨rfl, rfl, hv⟩
  · rintro _ _ v ⟨rfl, ⟨⟩, hv⟩
    exact hf v hv
  · rintro e g v ⟨-, he, -⟩
    cases he

lemma require_bind {c : Prop} [Decidable c] {e : ε} {f : Unit → Coro Op ε δ}
    (hf : c → Serves rests i I Q (f ()) g w) (he : ¬c → Q g (.error e) w) :
    Serves rests i I Q (require c e >>= f) g w := by
  unfold require
  split
  · exact hf ‹_›
  · exact he ‹_›

lemma ite {c : Prop} [Decidable c] {x y : Coro Op ε δ} (hx : c → Serves rests i I Q x g w)
    (hy : ¬c → Serves rests i I Q y g w) : Serves rests i I Q (if c then x else y) g w := by
  split
  · exact hx ‹_›
  · exact hy ‹_›

lemma of_alone {x : Coro Op ε β} (hx : x.All M.Answers fun o => ∀ s, M.Halts rests o s = false)
    {Q : List γ → Except ε β → M.World → Prop}
    (hQ : ∀ v : M.World, v.state = (x.alone M.exec w.state).2 → Q g (x.alone M.exec w.state).1 v) :
    Serves rests i I Q x g w := by
  induction x generalizing w with
  | done r => exact hQ w rfl
  | await o k ih =>
    refine ⟨fun h => absurd h (by simp [hx.1 w.state]), fun _ => ih _ ?_ fun v hv => ?_⟩
    · cases ha : (M.exec o w.state).1 with
      | ok a => simpa [ha] using hx.2.1 a ⟨_, ha⟩
      | error e => simpa [ha] using hx.2.2 e
    · exact hQ v hv

lemma of_all {x : Coro Op ε β} {P : ∀ {β : Type}, Op β → Prop} (hx : x.All M.Answers P)
    (hP : ∀ {β : Type} (o : Op β) (g : List γ) (w : M.World), P o → I g w → I g (w.perform i o).2)
    (hw : I g w) : Serves rests i I (fun g _ w => I g w) x g w := by
  induction x generalizing g w with
  | done r => exact hw
  | await o k ih =>
    have hk (g : List γ) (v : M.World) (hv : I g v) :
        Serves rests i I (fun g _ w => I g w) (k (v.perform i o).1) g (v.perform i o).2 := by
      apply ih _ _ (hP o g v hx.1 hv)
      cases ha : (M.exec o v.state).1 with
      | ok a => simpa [ha] using hx.2.1 a ⟨_, ha⟩
      | error e => simpa [ha] using hx.2.2 e
    exact ⟨fun _ => ⟨hw, fun g' v hv _ => hk g' v hv⟩, fun _ => hk g w hw⟩

end Serves

section Settled

variable (rests : ∀ {β : Type}, Op β → Bool) (I : List γ → M.World → Prop)

/-- The process has ended, or it can be resumed wherever `I` holds. -/
def Resting (i : ℕ) : Coro Op ε α → Prop
  | .done _ => True
  | .await o k => ∀ g v, I g v → M.ready o v.state = true →
      Serves rests i I (fun g _ w => I g w) (k (v.perform i o).1) g (v.perform i o).2

structure Config.Settled (g : List γ) (c : M.Config) : Prop where
  inv : I g c.world
  rest : ∀ i p, c.procs[i]? = some p → Resting rests I i p.rest

variable {rests I}

lemma settle_serves {i : ℕ} {x : Coro Op ε α} {g : List γ} {w : M.World}
    (h : Serves rests i I (fun g _ w => I g w) x g w) :
    Resting rests I i (settle rests i x w).1 ∧ I g (settle rests i x w).2 := by
  induction x generalizing w with
  | done r => exact ⟨trivial, h⟩
  | await o k ih =>
    unfold settle
    split
    · next hh => exact ⟨(h.1 hh).2, (h.1 hh).1⟩
    · next hh => exact ih _ (h.2 (by simpa using hh))

/-- What each call keeps that is served and what the environment keeps, every run of turns keeps. -/
theorem settled_inTurn (note : M.Call → M.State → Option γ)
    (hcode : ∀ (i : ℕ) (g : List γ) (w : M.World) (call : M.Call) (s : M.State), I g w →
      M.enter call w.state = some s → Serves rests i I (fun g _ w => I g w) (M.code call)
        (g ++ (note call w.state).toList) { w with state := s })
    (henv : ∀ g w e, I g w → I g { w with state := M.env e w.state }) {g : List γ} {c : M.Config}
    (hc : c.Settled rests I g) (l : List M.Turn) :
    (inTurn rests l c).Settled rests I (g ++ notes rests note l c) := by
  induction l generalizing g c with
  | nil => simpa [notes] using hc
  | cons t l ih =>
    rw [inTurn_cons, notes, ← List.append_assoc]
    apply ih
    cases t with
    | serve call =>
      cases h : M.enter call c.world.state with
      | none => simpa [turn, noted, h] using hc
      | some s =>
        obtain ⟨hrest, hinv⟩ := settle_serves (hcode c.procs.length g c.world call s hc.inv h)
        simp only [turn, noted, h, Option.bind_some]
        refine ⟨hinv, fun i p hp => ?_⟩
        rcases Nat.lt_trichotomy i c.procs.length with hlt | rfl | hgt
        · rw [List.getElem?_append_left hlt] at hp
          exact hc.rest i p hp
        · rw [List.getElem?_concat_length] at hp
          cases hp
          exact hrest
        · rw [List.getElem?_eq_none (by simp; omega)] at hp
          cases hp
    | resume i =>
      rw [noted, List.append_nil]
      cases h : c.procs[i]? with
      | none => simpa [turn, h] using hc
      | some p =>
        obtain ⟨call, rest⟩ := p
        cases rest with
        | done r => simpa [turn, h] using hc
        | await o k =>
          cases hr : M.ready o c.world.state with
          | false => simpa [turn, h, hr] using hc
          | true =>
            obtain ⟨hrest, hinv⟩ := settle_serves (hc.rest i _ h g c.world hc.inv hr)
            simp only [turn, h, hr, if_true]
            refine ⟨hinv, fun j p hp => ?_⟩
            by_cases hij : i = j
            · subst hij
              rw [List.getElem?_set_self (List.getElem?_eq_some_iff.mp h).1] at hp
              cases hp
              exact hrest
            · rw [List.getElem?_set_ne hij] at hp
              exact hc.rest j p hp
    | env e =>
      rw [noted, List.append_nil]
      exact ⟨henv g c.world e hc.inv, hc.rest⟩

lemma settled_start {s : M.State} (h : I [] ⟨s, []⟩) : (start s).Settled rests I [] :=
  ⟨h, fun i p hp => by cases hp⟩

end Settled

end Askit.Interleaving.Machine

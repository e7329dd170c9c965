import Askit.Interleaving.Serial
import Askit.Interleaving.Trace

/-! Two machines that take their turns together: the second does what the first does, up to a
relation of their worlds, until the first has done something that parts them. -/

namespace Askit.Interleaving

namespace Coro

variable {Op Op' : Type → Type} {ε α β : Type}

def translate (t : ∀ {β : Type}, Op β → Op' β) : Coro Op ε α → Coro Op' ε α
  | done r => done r
  | await o k => await (t o) fun r => (k r).translate t

section Translate

variable {t : ∀ {β : Type}, Op β → Op' β}

@[simp] lemma translate_done (r : Except ε α) : (done r : Coro Op ε α).translate t = done r := rfl

@[simp] lemma translate_pure (a : α) : (pure a : Coro Op ε α).translate t = pure a := rfl

@[simp] lemma translate_perform (o : Op α) :
    (perform o : Coro Op ε α).translate t = perform (t o) := rfl

@[simp] lemma translate_bind (x : Coro Op ε α) (f : α → Coro Op ε β) :
    (x >>= f).translate t = x.translate t >>= fun a => (f a).translate t := by
  induction x with
  | done r => cases r <;> rfl
  | await o k ih => exact congrArg (await (t o)) (funext ih)

@[simp] lemma translate_tryCatch (x : Coro Op ε α) (f : ε → Coro Op ε α) :
    (tryCatch x f).translate t = tryCatch (x.translate t) fun e => (f e).translate t := by
  induction x with
  | done r => cases r <;> rfl
  | await o k ih => exact congrArg (await (t o)) (funext ih)

end Translate

end Coro

namespace Machine

open Coro

variable {Op Op' : Type → Type} {ε α β γ : Type} {M : Machine Op ε α} {N : Machine Op' ε α}

/-- The same turn of another machine. -/
def Turn.map (f : M.Call → N.Call) (g : M.Env → N.Env) : M.Turn → N.Turn
  | .serve call => .serve (f call)
  | .resume i => .resume i
  | .env e => .env (g e)

section

variable (rests : ∀ {β : Type}, Op β → Bool) (rests' : ∀ {β : Type}, Op' β → Bool)
variable (Lost : List (Event Op ε) → Prop) (I : M.World → N.World → Prop) (i : ℕ)

/-- Both come to their ends with one result, or they halt together and have `I` there; a step that
only one of them makes is no matter. -/
inductive Tracks (Q : Except ε β → M.World → N.World → Prop) :
    Coro Op ε β → Coro Op' ε β → M.World → N.World → Prop
  | done {r : Except ε β} {w : M.World} {v : N.World} (h : Q r w v) :
    Tracks Q (.done r) (.done r) w v
  | lost {x : Coro Op ε β} {y : Coro Op' ε β} {w : M.World} {v : N.World} (h : Lost w.history) :
      Tracks Q x y w v
  | left {δ : Type} {o : Op δ} {k : Except ε δ → Coro Op ε β} {y : Coro Op' ε β} {w : M.World}
      {v : N.World} (hh : M.Halts rests o w.state = false)
      (h : Tracks Q (k (w.perform i o).1) y (w.perform i o).2 v) : Tracks Q (.await o k) y w v
  | right {δ : Type} {o : Op' δ} {x : Coro Op ε β} {k : Except ε δ → Coro Op' ε β} {w : M.World}
      {v : N.World} (hh : N.Halts rests' o v.state = false)
      (h : Tracks Q x (k (v.perform i o).1) w (v.perform i o).2) : Tracks Q x (.await o k) w v
  | rest {δ : Type} {o : Op δ} {o' : Op' δ} {k : Except ε δ → Coro Op ε β}
      {k' : Except ε δ → Coro Op' ε β} {w : M.World} {v : N.World}
      (hh : M.Halts rests o w.state = true) (hh' : N.Halts rests' o' v.state = true) (hI : I w v)
      (hready : ∀ w v, I w v → M.ready o w.state = N.ready o' v.state)
      (h : ∀ w v, I w v → Tracks Q (k (w.perform i o).1) (k' (v.perform i o').1)
        (w.perform i o).2 (v.perform i o').2) : Tracks Q (.await o k) (.await o' k') w v

inductive Twins : Coro Op ε α → Coro Op' ε α → Prop
  | done (r : Except ε α) : Twins (.done r) (.done r)
  | rest {δ : Type} {o : Op δ} {o' : Op' δ} {k : Except ε δ → Coro Op ε α}
      {k' : Except ε δ → Coro Op' ε α}
      (hready : ∀ w v, I w v → M.ready o w.state = N.ready o' v.state)
      (h : ∀ w v, I w v → Tracks rests rests' Lost I i (fun _ => I) (k (w.perform i o).1)
        (k' (v.perform i o').1) (w.perform i o).2 (v.perform i o').2) :
      Twins (.await o k) (.await o' k')

end

section Twin

variable (rests : ∀ {β : Type}, Op β → Bool) (rests' : ∀ {β : Type}, Op' β → Bool)
variable (Lost : List (Event Op ε) → Prop) (I : M.World → N.World → Prop)

structure Config.Matches (c : M.Config) (d : N.Config) : Prop where
  inv : I c.world d.world
  length : c.procs.length = d.procs.length
  twins : ∀ i p q, c.procs[i]? = some p → d.procs[i]? = some q →
    Twins rests rests' Lost I i p.rest q.rest

structure Simulates (f : M.Call → N.Call) (g : M.Env → N.Env) : Prop where
  serve : ∀ i w v call s, I w v → M.enter call w.state = some s → ∃ t,
    N.enter (f call) v.state = some t ∧ Tracks rests rests' Lost I i (fun _ => I) (M.code call)
      (N.code (f call)) { w with state := s } { v with state := t }
  refuse : ∀ w v call, I w v → M.enter call w.state = none → N.enter (f call) v.state = none
  env : ∀ w v e, I w v → I { w with state := M.env e w.state }
    { v with state := N.env (g e) v.state }

end Twin

variable {rests : ∀ {β : Type}, Op β → Bool} {rests' : ∀ {β : Type}, Op' β → Bool}
variable {Lost : List (Event Op ε) → Prop} {I : M.World → N.World → Prop}

namespace Tracks

variable {i : ℕ} {w : M.World} {v : N.World}

lemma bind {x : Coro Op ε β} {y : Coro Op' ε β} {f : β → Coro Op ε γ} {g : β → Coro Op' ε γ}
    {S : Except ε β → M.World → N.World → Prop} {Q : Except ε γ → M.World → N.World → Prop}
    (hx : Tracks rests rests' Lost I i S x y w v)
    (hf : ∀ a w v, S (.ok a) w v → Tracks rests rests' Lost I i Q (f a) (g a) w v)
    (he : ∀ e w v, S (.error e) w v → Q (.error e) w v) :
    Tracks rests rests' Lost I i Q (x >>= f) (y >>= g) w v := by
  induction hx with
  | @done r w v h =>
    cases r with
    | ok a => exact hf a w v h
    | error e => exact .done (he e w v h)
  | lost h => exact .lost h
  | left hh _ ih => exact .left hh ih
  | right hh _ ih => exact .right hh ih
  | rest hh hh' hI hready _ ih => exact .rest hh hh' hI hready ih

end Tracks

lemma twins_append {c : M.Config} {d : N.Config} (h : c.Matches rests rests' Lost I d)
    {p : M.Proc} {q : N.Proc} (hpq : Twins rests rests' Lost I c.procs.length p.rest q.rest)
    (i : ℕ) (p' : M.Proc) (q' : N.Proc) (hp : (c.procs ++ [p])[i]? = some p')
    (hq : (d.procs ++ [q])[i]? = some q') :
    Twins rests rests' Lost I i p'.rest q'.rest := by
  rcases Nat.lt_trichotomy i c.procs.length with hlt | rfl | hgt
  · rw [List.getElem?_append_left hlt] at hp
    rw [List.getElem?_append_left (h.length ▸ hlt)] at hq
    exact h.twins i p' q' hp hq
  · rw [List.getElem?_concat_length] at hp
    rw [h.length, List.getElem?_concat_length] at hq
    cases hp
    cases hq
    exact hpq
  · rw [List.getElem?_eq_none (by simp; omega)] at hp
    cases hp

lemma twins_set {c : M.Config} {d : N.Config} (h : c.Matches rests rests' Lost I d) {j : ℕ}
    {p : M.Proc} {q : N.Proc} (hpq : Twins rests rests' Lost I j p.rest q.rest) (i : ℕ)
    (p' : M.Proc) (q' : N.Proc) (hp : (c.procs.set j p)[i]? = some p')
    (hq : (d.procs.set j q)[i]? = some q') :
    Twins rests rests' Lost I i p'.rest q'.rest := by
  by_cases hij : j = i
  · subst hij
    have hlt : j < c.procs.length := by simpa using (List.getElem?_eq_some_iff.mp hp).1
    rw [List.getElem?_set_self hlt] at hp
    rw [List.getElem?_set_self (h.length ▸ hlt)] at hq
    cases hp
    cases hq
    exact hpq
  · rw [List.getElem?_set_ne hij] at hp hq
    exact h.twins i p' q' hp hq

section Settle

variable (hlost : ∀ history ev, Lost history → Lost (history ++ [ev]))
variable {f : M.Call → N.Call} {g : M.Env → N.Env}

include hlost

lemma settle_lost {i : ℕ} {x : Coro Op ε α} {w : M.World} (h : Lost w.history) :
    Lost (settle rests i x w).2.history := by
  induction x generalizing w with
  | done r => exact h
  | await o k ih =>
    unfold settle
    split
    · exact h
    · exact ih _ (hlost _ _ h)

lemma settle_tracks {i : ℕ} {x : Coro Op ε α} {y : Coro Op' ε α} {w : M.World} {v : N.World}
    (h : Tracks rests rests' Lost I i (fun _ => I) x y w v) :
    Lost (settle rests i x w).2.history ∨
      (I (settle rests i x w).2 (settle rests' i y v).2 ∧
        Twins rests rests' Lost I i (settle rests i x w).1 (settle rests' i y v).1) := by
  induction h with
  | done h => exact .inr ⟨h, .done _⟩
  | lost h => exact .inl (settle_lost hlost h)
  | left hh _ ih => simpa only [settle, hh, Bool.false_eq_true, if_false] using ih
  | right hh _ ih => simpa only [settle, hh, Bool.false_eq_true, if_false] using ih
  | rest hh hh' hI hready h _ =>
    right
    simp only [settle, hh, hh', if_true]
    exact ⟨hI, .rest hready h⟩

lemma turn_lost {t : M.Turn} {c : M.Config} (h : Lost c.world.history) :
    Lost (turn rests t c).world.history := by
  cases t with
  | serve call =>
    cases hs : M.enter call c.world.state with
    | none => simpa [turn, hs] using h
    | some s => simpa [turn, hs] using settle_lost hlost (w := ⟨s, c.world.history⟩) h
  | resume i =>
    cases hp : c.procs[i]? with
    | none => simpa [turn, hp] using h
    | some p =>
      obtain ⟨call, rest⟩ := p
      cases rest with
      | done r => simpa [turn, hp] using h
      | await o k =>
        cases hr : M.ready o c.world.state with
        | false => simpa [turn, hp, hr] using h
        | true => simpa [turn, hp, hr] using settle_lost hlost (hlost _ _ h)
  | env e => exact h

lemma matches_turn (hsim : Simulates rests rests' Lost I f g) {c : M.Config} {d : N.Config}
    (h : c.Matches rests rests' Lost I d) (t : M.Turn) :
    Lost (turn rests t c).world.history ∨
      (turn rests t c).Matches rests rests' Lost I (turn rests' (t.map f g) d) := by
  cases t with
  | serve call =>
    cases hs : M.enter call c.world.state with
    | none => exact .inr (by simpa [turn, Turn.map, hs, hsim.refuse _ _ _ h.inv hs] using h)
    | some s =>
      obtain ⟨t, ht, htracks⟩ := hsim.serve c.procs.length c.world d.world call s h.inv hs
      rcases settle_tracks hlost htracks with hl | ⟨hI, htwins⟩
      · exact .inl (by simpa only [turn, hs] using hl)
      · right
        simp only [turn, Turn.map, hs, ht, ← h.length]
        exact ⟨hI, by simp [h.length], twins_append h htwins⟩
  | resume i =>
    cases hp : c.procs[i]? with
    | none =>
      have hq : d.procs[i]? = none := by
        rw [List.getElem?_eq_none_iff] at hp ⊢
        exact h.length ▸ hp
      exact .inr (by simpa [turn, Turn.map, hp, hq] using h)
    | some p =>
      obtain ⟨q, hq⟩ : ∃ q, d.procs[i]? = some q := by
        obtain ⟨hlt, -⟩ := List.getElem?_eq_some_iff.mp hp
        exact ⟨_, List.getElem?_eq_getElem (h.length ▸ hlt)⟩
      have htwins := h.twins i p q hp hq
      obtain ⟨call, rest⟩ := p
      obtain ⟨call', rest'⟩ := q
      cases htwins with
      | done r => exact .inr (by simpa [turn, Turn.map, hp, hq] using h)
      | @rest _ o o' k k' hready hk =>
        cases hr : M.ready o c.world.state with
        | false =>
          have hr' : N.ready o' d.world.state = false := (hready _ _ h.inv).symm.trans hr
          exact .inr (by simpa [turn, Turn.map, hp, hq, hr, hr'] using h)
        | true =>
          have hr' : N.ready o' d.world.state = true := (hready _ _ h.inv).symm.trans hr
          rcases settle_tracks hlost (hk _ _ h.inv) with hl | ⟨hI, htwins⟩
          · exact .inl (by simpa only [turn, hp, hr, if_true] using hl)
          · right
            simp only [turn, Turn.map, hp, hq, hr, hr', if_true]
            exact ⟨hI, by simp [h.length], twins_set h htwins⟩
  | env e => exact .inr ⟨hsim.env _ _ e h.inv, h.length, h.twins⟩

lemma inTurn_lost {l : List M.Turn} {c : M.Config} (h : Lost c.world.history) :
    Lost (inTurn rests l c).world.history := by
  induction l generalizing c with
  | nil => exact h
  | cons t l ih => exact ih (turn_lost hlost h)

/-- What follows call by call follows run by run. -/
theorem matches_inTurn (hsim : Simulates rests rests' Lost I f g) {c : M.Config} {d : N.Config}
    (h : c.Matches rests rests' Lost I d) (l : List M.Turn) :
    Lost (inTurn rests l c).world.history ∨
      (inTurn rests l c).Matches rests rests' Lost I (inTurn rests' (l.map (Turn.map f g)) d) := by
  induction l generalizing c d with
  | nil => exact .inr h
  | cons t l ih =>
    rcases matches_turn hlost hsim h t with hl | hm
    · left
      rw [inTurn_cons]
      exact inTurn_lost hlost hl
    · exact ih hm

end Settle

end Machine

end Askit.Interleaving

import Askit.Interleaving.Sequential
import Mathlib.Order.Defs.PartialOrder
import Mathlib.Order.Defs.Unbundled

/-! Transactions of a session that keeps writes back until it flushes them. A query flushes what is
pending first, so that a program cannot tell a pending write from one that is flushed, but for the
moment at which a write that is refused raises. -/

namespace Askit.Tables

open Interleaving Coro

variable {δ ε σ α β : Type}

abbrev Write (δ ε : Type) := δ → Except ε δ

/-- What a program does in its session: `stage` hands over a write, and `world` is what is not in
the database. -/
inductive Action (δ ε σ β : Type)
  | select (query : δ → β)
  | stage (write : Write δ ε) (result : β)
  | execute (write : Write δ ε) (result : β)
  | flush (result : β)
  | commit (result : β)
  | world (f : σ → β × σ)

/-- `work` is what the transaction has flushed. -/
structure Session (δ ε σ : Type) where
  committed : δ
  work : δ
  pending : List (Write δ ε)
  world : σ

/-- A session whose transaction is at the point that a flush would bring it to. -/
structure View (δ ε σ : Type) where
  committed : δ
  seen : Except ε δ
  world : σ

namespace Session

/-- A new session, on a database that nothing else writes meanwhile. -/
def begin (d : δ) (w : σ) : Session δ ε σ := ⟨d, d, [], w⟩

def flushed (s : Session δ ε σ) : Except ε δ := s.pending.foldlM (fun d write => write d) s.work

def view (s : Session δ ε σ) : View δ ε σ := ⟨s.committed, s.flushed, s.world⟩

/-- What is done once the pending writes are flushed; one that is refused leaves the session to its
end. -/
def flushThen (s : Session δ ε σ) (f : δ → Except ε β × Session δ ε σ) :
    Except ε β × Session δ ε σ :=
  match s.flushed with
  | .ok d => f d
  | .error e => (.error e, s)

def exec {β : Type} : Action δ ε σ β → Session δ ε σ → Except ε β × Session δ ε σ
  | .select query, s => s.flushThen fun d => (.ok (query d), { s with work := d, pending := [] })
  | .stage write b, s => (.ok b, { s with pending := s.pending ++ [write] })
  | .execute write b, s => s.flushThen fun d =>
    match write d with
    | .ok e => (.ok b, { s with work := e, pending := [] })
    | .error e => (.error e, { s with work := d, pending := [] })
  | .flush b, s => s.flushThen fun d => (.ok b, { s with work := d, pending := [] })
  | .commit b, s => s.flushThen fun d =>
    (.ok b, { s with committed := d, work := d, pending := [] })
  | .world f, s => (.ok (f s.world).1, { s with world := (f s.world).2 })

end Session

namespace View

def exec {β : Type} : Action δ ε σ β → View δ ε σ → Except ε β × View δ ε σ
  | .select query, v => (v.seen.map query, v)
  | .stage write b, v => (.ok b, { v with seen := v.seen.bind write })
  | .execute write b, v =>
    match v.seen.bind write with
    | .ok d => (.ok b, { v with seen := .ok d })
    | .error e => (.error e, v)
  | .flush b, v => (v.seen.map fun _ => b, v)
  | .commit b, v =>
    match v.seen with
    | .ok d => (.ok b, { v with committed := d })
    | .error e => (.error e, v)
  | .world f, v => (.ok (f v.world).1, { v with world := (f v.world).2 })

end View

namespace Session

lemma view_exec (o : Action δ ε σ β) (s : Session δ ε σ) :
    ((exec o s).1, (exec o s).2.view) = View.exec o s.view := by
  cases o with
  | stage write b =>
    simp only [exec, View.exec, view, flushed, List.foldlM_append]
    congr 2
    cases s.pending.foldlM (fun d write => write d) s.work with
    | error e => rfl
    | ok d => exact bind_pure (write d)
  | world f => rfl
  | select query =>
    cases h : s.flushed with
    | error e => simp [exec, flushThen, View.exec, view, h, Except.map]
    | ok d =>
      simp only [exec, flushThen, View.exec, view, h, Except.map]
      rfl
  | execute write b =>
    cases h : s.flushed with
    | error e => simp [exec, flushThen, View.exec, view, h, Except.bind]
    | ok d =>
      simp only [exec, flushThen, View.exec, view, h, Except.bind]
      cases write d <;> rfl
  | flush b =>
    cases h : s.flushed with
    | error e => simp [exec, flushThen, View.exec, view, h, Except.map]
    | ok d =>
      simp only [exec, flushThen, View.exec, view, h, Except.map]
      rfl
  | commit b =>
    cases h : s.flushed with
    | error e => simp [exec, flushThen, View.exec, view, h]
    | ok d =>
      simp only [exec, flushThen, View.exec, view, h]
      rfl

/-- A program cannot tell a session from its view. -/
theorem view_alone (x : Coro (Action δ ε σ) ε α) (s : Session δ ε σ) :
    ((x.alone exec s).1, (x.alone exec s).2.view) = x.alone View.exec s.view := by
  induction x generalizing s with
  | done r => rfl
  | await o k ih =>
    have hexec := view_exec o s
    rw [alone, alone, ← hexec]
    exact ih _ _

end Session

/-- A request: it has a session of its own, and what it has not committed at its end is rolled
back. -/
def serve (x : Coro (Action δ ε σ) ε α) (d : δ) (w : σ) : Except ε α × δ × σ :=
  let r := x.alone Session.exec (.begin d w)
  (r.1, r.2.committed, r.2.world)

lemma serve_eq (x : Coro (Action δ ε σ) ε α) (d : δ) (w : σ) :
    serve x d w = ((x.alone View.exec ⟨d, .ok d, w⟩).1,
      (x.alone View.exec ⟨d, .ok d, w⟩).2.committed,
      (x.alone View.exec ⟨d, .ok d, w⟩).2.world) := by
  have h := Session.view_alone x (.begin d w)
  change _ = x.alone View.exec ⟨d, .ok d, w⟩ at h
  rw [← h]
  rfl

section Programs

abbrev select (query : δ → β) : Coro (Action δ ε σ) ε β := perform (.select query)

abbrev stage (write : Write δ ε) : Coro (Action δ ε σ) ε Unit := perform (.stage write ())

abbrev execute (write : Write δ ε) : Coro (Action δ ε σ) ε Unit := perform (.execute write ())

abbrev flush : Coro (Action δ ε σ) ε Unit := perform (.flush ())

abbrev commit : Coro (Action δ ε σ) ε Unit := perform (.commit ())

end Programs

structure Point (δ σ : Type) where
  committed : δ
  seen : δ
  world : σ

def Point.view (p : Point δ σ) : View δ ε σ := ⟨p.committed, .ok p.seen, p.world⟩

/-- Run from the point, the program returns, and none of its writes is refused. -/
def Yields (x : Coro (Action δ ε σ) ε α) (p : Point δ σ) (a : α) (q : Point δ σ) : Prop :=
  x.alone View.exec p.view = (.ok a, q.view)

lemma doomed (x : Coro (Action δ ε σ) ε α) {c : δ} {e : ε} {w : σ} :
    ∃ w', (x.alone View.exec ⟨c, .error e, w⟩).2 = ⟨c, .error e, w'⟩ := by
  induction x generalizing w with
  | done r => exact ⟨w, rfl⟩
  | await o k ih => cases o <;> exact ih _

def Action.Quiet [LE σ] : Action δ ε σ β → Prop
  | .commit _ => False
  | .world f => ∀ w, w ≤ (f w).2
  | _ => True

/-- The program does not commit, and what is not in the database only advances. -/
def Uncommitted [LE σ] (x : Coro (Action δ ε σ) ε α) : Prop := x.All (fun _ _ => True) Action.Quiet

lemma Uncommitted.kept [Preorder σ] {x : Coro (Action δ ε σ) ε α} (h : Uncommitted x)
    (v : View δ ε σ) :
    (x.alone View.exec v).2.committed = v.committed ∧ v.world ≤ (x.alone View.exec v).2.world := by
  refine alone_of_all (A := fun u : View δ ε σ => u.committed = v.committed ∧ v.world ≤ u.world)
    (fun _ _ _ _ => trivial) ?_ h ⟨rfl, le_rfl⟩
  intro β o u ho hu
  cases o with
  | commit b => exact ho.elim
  | world f => exact ⟨hu.1, le_trans hu.2 (ho u.world)⟩
  | execute write b =>
    simp only [View.exec]
    split <;> exact hu
  | _ => exact hu

namespace Uncommitted

variable [LE σ]

lemma bind {x : Coro (Action δ ε σ) ε α} {f : α → Coro (Action δ ε σ) ε β} (hx : Uncommitted x)
    (hf : ∀ a, Uncommitted (f a)) : Uncommitted (x >>= f) := All.bind hx hf

lemma perform {o : Action δ ε σ α} (h : o.Quiet) :
    Uncommitted (perform o : Coro (Action δ ε σ) ε α) :=
  (all_perform o).mpr h

lemma done (r : Except ε α) : Uncommitted (Coro.done r : Coro (Action δ ε σ) ε α) := trivial

lemma require (c : Prop) [Decidable c] (e : ε) :
    Uncommitted (Coro.require c e : Coro (Action δ ε σ) ε Unit) :=
  all_require c e

end Uncommitted

namespace Yields

variable {f : α → Coro (Action δ ε σ) ε β} {p q : Point δ σ} {a b : α}

lemma bind_iff {x : Coro (Action δ ε σ) ε α} {b : β} :
    Yields (x >>= f) p b q ↔ ∃ a r, Yields x p a r ∧ Yields (f a) r b q := by
  constructor
  · intro h
    unfold Yields at h ⊢
    rcases hx : x.alone View.exec p.view with ⟨e | a, c, e | d, w⟩
    · rw [alone_bind_error hx] at h
      cases h
    · rw [alone_bind_error hx] at h
      cases h
    · rw [alone_bind_ok hx] at h
      obtain ⟨w', hw⟩ := doomed (f a) (c := c) (e := e) (w := w)
      rw [h] at hw
      cases hw
    · rw [alone_bind_ok hx] at h
      exact ⟨a, ⟨c, d, w⟩, rfl, h⟩
  · rintro ⟨a, r, hx, hf⟩
    exact (alone_bind_ok hx).trans hf

lemma view_inj (h : (p.view : View δ ε σ) = q.view) : p = q := by
  cases p
  cases q
  cases h
  rfl

lemma pure_iff : Yields (pure a : Coro (Action δ ε σ) ε α) p b q ↔ b = a ∧ q = p := by
  constructor
  · intro h
    exact ⟨(Except.ok.inj (congrArg Prod.fst h)).symm, (view_inj (congrArg Prod.snd h)).symm⟩
  · rintro ⟨rfl, rfl⟩
    rfl

lemma done_iff {r : Except ε α} : Yields (done r : Coro (Action δ ε σ) ε α) p a q ↔
    r = .ok a ∧ q = p := by
  cases r with
  | error e => exact ⟨fun h => (by cases congrArg Prod.fst h), fun h => (by cases h.1)⟩
  | ok b => exact pure_iff.trans (and_congr_left fun _ =>
    ⟨fun h => h ▸ rfl, fun h => (Except.ok.inj h).symm⟩)

lemma throw_iff {e : ε} : Yields (throw e : Coro (Action δ ε σ) ε α) p a q ↔ False :=
  done_iff.trans ⟨fun h => (by cases h.1), False.elim⟩

lemma require_iff {c : Prop} [Decidable c] {e : ε} {u : Unit} :
    Yields (require c e : Coro (Action δ ε σ) ε Unit) p u q ↔ c ∧ q = p := by
  unfold require
  split
  · next h => exact pure_iff.trans ⟨fun hp => ⟨h, hp.2⟩, fun hp => ⟨rfl, hp.2⟩⟩
  · next h => exact throw_iff.trans ⟨False.elim, fun hp => h hp.1⟩

lemma select_iff {query : δ → α} : Yields (select query : Coro (Action δ ε σ) ε α) p a q ↔
    a = query p.seen ∧ q = p :=
  pure_iff

lemma world_iff {g : σ → α × σ} : Yields (perform (.world g) : Coro (Action δ ε σ) ε α) p a q ↔
    a = (g p.world).1 ∧ q = { p with world := (g p.world).2 } :=
  pure_iff (p := { p with world := (g p.world).2 })

lemma stage_iff {write : Write δ ε} {u : Unit} :
    Yields (stage write : Coro (Action δ ε σ) ε Unit) p u q ↔
    ∃ d, write p.seen = .ok d ∧ q = { p with seen := d } := by
  constructor
  · intro h
    have hview : (⟨p.committed, write p.seen, p.world⟩ : View δ ε σ) = q.view := congrArg Prod.snd h
    refine ⟨q.seen, congrArg View.seen hview, ?_⟩
    obtain ⟨c, d, w⟩ := q
    cases congrArg View.committed hview
    cases congrArg View.world hview
    rfl
  · rintro ⟨d, hd, rfl⟩
    change ((.ok () : Except ε Unit), (⟨p.committed, write p.seen, p.world⟩ : View δ ε σ)) = _
    rw [hd]
    rfl

lemma execute_iff {write : Write δ ε} {u : Unit} :
    Yields (execute write : Coro (Action δ ε σ) ε Unit) p u q ↔
    ∃ d, write p.seen = .ok d ∧ q = { p with seen := d } := by
  unfold Yields
  rw [alone_perform, Point.view, View.exec, Except.bind]
  cases h : write p.seen with
  | error e => exact ⟨fun hq => (by cases hq), fun ⟨d, hd, _⟩ => (by cases hd)⟩
  | ok d =>
    exact (pure_iff (ε := ε) (a := ()) (b := u) (p := { p with seen := d })).trans
      ⟨fun hq => ⟨d, rfl, hq.2⟩, fun ⟨_, hd, hq⟩ => ⟨rfl, Except.ok.inj hd ▸ hq⟩⟩

lemma flush_iff {u : Unit} : Yields (flush : Coro (Action δ ε σ) ε Unit) p u q ↔ q = p :=
  pure_iff.trans (and_iff_right rfl)

/-! The rules for a run that is built up from its first action on. -/

variable {x : Coro (Action δ ε σ) ε α} {r : Point δ σ}

lemma bind (hx : Yields x p a r) {b : β} (hf : Yields (f a) r b q) : Yields (x >>= f) p b q :=
  bind_iff.mpr ⟨a, r, hx, hf⟩

lemma pure (a : α) (p : Point δ σ) : Yields (Pure.pure a : Coro (Action δ ε σ) ε α) p a p := rfl

lemma done (a : α) (p : Point δ σ) :
    Yields (Coro.done (.ok a) : Coro (Action δ ε σ) ε α) p a p := rfl

lemma require {c : Prop} [Decidable c] (e : ε) (h : c) (p : Point δ σ) :
    Yields (Coro.require c e : Coro (Action δ ε σ) ε Unit) p () p := require_iff.mpr ⟨h, rfl⟩

lemma select (query : δ → α) (p : Point δ σ) :
    Yields (Tables.select query : Coro (Action δ ε σ) ε α) p (query p.seen) p := rfl

lemma world (g : σ → α × σ) (p : Point δ σ) :
    Yields (perform (.world g) : Coro (Action δ ε σ) ε α) p (g p.world).1
      { p with world := (g p.world).2 } := rfl

lemma flush (p : Point δ σ) : Yields (Tables.flush : Coro (Action δ ε σ) ε Unit) p () p := rfl

lemma stage {write : Write δ ε} {d : δ} (h : write p.seen = .ok d) :
    Yields (Tables.stage write : Coro (Action δ ε σ) ε Unit) p () { p with seen := d } :=
  stage_iff.mpr ⟨d, h, rfl⟩

lemma execute {write : Write δ ε} {d : δ} (h : write p.seen = .ok d) :
    Yields (Tables.execute write : Coro (Action δ ε σ) ε Unit) p () { p with seen := d } :=
  execute_iff.mpr ⟨d, h, rfl⟩

end Yields

lemma serve_of_yields {x : Coro (Action δ ε σ) ε α} {f : α → Coro (Action δ ε σ) ε β} {d : δ}
    {w : σ} {a : α} {q : Point δ σ} (h : Yields x ⟨d, d, w⟩ a q) :
    serve (x >>= fun a => commit >>= fun _ => f a) d w =
      (((f a).alone View.exec ⟨q.seen, .ok q.seen, q.world⟩).1,
        ((f a).alone View.exec ⟨q.seen, .ok q.seen, q.world⟩).2.committed,
        ((f a).alone View.exec ⟨q.seen, .ok q.seen, q.world⟩).2.world) := by
  have hx : x.alone View.exec ⟨d, .ok d, w⟩ = (.ok a, ⟨q.committed, .ok q.seen, q.world⟩) := h
  rw [serve_eq, alone_bind_ok hx]
  rfl

lemma serve_bind_done (x : Coro (Action δ ε σ) ε α) {f : α → Coro (Action δ ε σ) ε β}
    (hf : ∀ a, ∃ r, f a = done r) (d : δ) (w : σ) : (serve (x >>= f) d w).2 = (serve x d w).2 := by
  rw [serve_eq, serve_eq]
  rcases hx : x.alone View.exec ⟨d, .ok d, w⟩ with ⟨err | a, v⟩
  · rw [alone_bind_error hx]
  · obtain ⟨r, hr⟩ := hf a
    rw [alone_bind_ok hx, hr]
    rfl

lemma serve_bind_pure (x : Coro (Action δ ε σ) ε α) (g : α → β) (d : δ) (w : σ) :
    serve (x >>= fun a => pure (g a)) d w = ((serve x d w).1.map g, (serve x d w).2) := by
  refine Prod.ext ?_ (serve_bind_done x (fun a => ⟨.ok (g a), rfl⟩) d w)
  rw [serve_eq, serve_eq]
  rcases hx : x.alone View.exec ⟨d, .ok d, w⟩ with ⟨err | a, v⟩
  · rw [alone_bind_error hx]
    rfl
  · rw [alone_bind_ok hx]
    rfl

def Reads (x : Coro (Action δ ε σ) ε α) : Prop := ∀ v, (x.alone View.exec v).2 = v

namespace Reads

lemma done (r : Except ε α) : Reads (Coro.done r : Coro (Action δ ε σ) ε α) := fun _ => rfl

lemma select_bind {query : δ → α} {f : α → Coro (Action δ ε σ) ε β} (hf : ∀ a, Reads (f a)) :
    Reads (select query >>= f) := by
  rintro ⟨c, seen, w⟩
  cases seen with
  | ok d => exact hf (query d) _
  | error e => rfl

lemma serve {x : Coro (Action δ ε σ) ε α} (h : Reads x) (d : δ) (w : σ) :
    (Tables.serve x d w).2 = (d, w) := by
  rw [serve_eq, h]

end Reads

/-- A request that commits once: if it raises before the commit or at it, the database is as it
was. -/
theorem serve_commit [Preorder σ] {x : Coro (Action δ ε σ) ε α} {f : α → Coro (Action δ ε σ) ε β}
    (hx : Uncommitted x) (d : δ) (w : σ) :
    (∃ e w', w ≤ w' ∧ serve (x >>= fun a => commit >>= fun _ => f a) d w = (.error e, d, w')) ∨
      ∃ a q, w ≤ q.world ∧ Yields x ⟨d, d, w⟩ a q := by
  have hkept := hx.kept ⟨d, .ok d, w⟩
  rw [serve_eq]
  rcases h : x.alone View.exec ⟨d, .ok d, w⟩ with ⟨e | a, c, e' | d', w'⟩ <;> rw [h] at hkept <;>
    obtain ⟨rfl, hw⟩ := hkept
  · exact .inl ⟨e, w', hw, by rw [alone_bind_error h]⟩
  · exact .inl ⟨e, w', hw, by rw [alone_bind_error h]⟩
  · exact .inl ⟨e', w', hw, by rw [alone_bind_ok h]; rfl⟩
  · exact .inr ⟨a, ⟨c, d', w'⟩, hw, h⟩

def Refused (x : Coro (Action δ ε σ) ε α) (p : Point δ σ) (e : ε) :
    Prop := (x.alone View.exec p.view).1 = .error e

namespace Refused

variable {x : Coro (Action δ ε σ) ε α} {f : α → Coro (Action δ ε σ) ε β} {p q : Point δ σ}
    {a : α} {e : ε}

lemma done (e : ε) (p : Point δ σ) :
    Refused (Coro.done (.error e) : Coro (Action δ ε σ) ε α) p e := rfl

lemma bind (h : Refused x p e) : Refused (x >>= f) p e := by
  have hrun : x.alone View.exec p.view = (.error e, (x.alone View.exec p.view).2) := Prod.ext h rfl
  rw [Refused, alone_bind_error hrun]

lemma of_yields (hx : Yields x p a q) (h : Refused (f a) q e) : Refused (x >>= f) p e := by
  rw [Refused, alone_bind_ok hx]
  exact h

lemma serve [Preorder σ] {d : δ} {w : σ} (hx : Uncommitted x) (h : Refused x ⟨d, d, w⟩ e) :
    ∃ w', Tables.serve (x >>= fun a => commit >>= fun _ => f a) d w = (.error e, d, w') := by
  have hrun : x.alone View.exec ⟨d, .ok d, w⟩ = (.error e, (x.alone View.exec ⟨d, .ok d, w⟩).2) :=
    Prod.ext h rfl
  refine ⟨(x.alone View.exec ⟨d, .ok d, w⟩).2.world, ?_⟩
  rw [serve_eq, alone_bind_error hrun, (hx.kept _).1]

end Refused

def Action.Fails (E : ε → Prop) : Action δ ε σ β → Prop
  | .stage write _ => ∀ d e, write d = .error e → E e
  | .execute write _ => ∀ d e, write d = .error e → E e
  | _ => True

/-- What the program raises itself, and what its writes are refused with, satisfies `E`. -/
def Raises (E : ε → Prop) : Coro (Action δ ε σ) ε α → Prop
  | .done (.ok _) => True
  | .done (.error e) => E e
  | .await o k => o.Fails E ∧ (∀ b, Raises E (k (.ok b))) ∧ ∀ e, E e → Raises E (k (.error e))

namespace Raises

variable {E : ε → Prop}

lemma done_ok (a : α) : Raises E (Coro.done (.ok a) : Coro (Action δ ε σ) ε α) := trivial

lemma done_error {e : ε} (h : E e) : Raises E (Coro.done (.error e) : Coro (Action δ ε σ) ε α) := h

lemma perform {o : Action δ ε σ α} (h : o.Fails E) :
    Raises E (Coro.perform o : Coro (Action δ ε σ) ε α) :=
  ⟨h, fun _ => trivial, fun _ he => he⟩

lemma require (c : Prop) [Decidable c] {e : ε} (h : E e) :
    Raises E (Coro.require c e : Coro (Action δ ε σ) ε Unit) := by
  unfold Coro.require
  split
  · exact done_ok _
  · exact done_error h

lemma bind {x : Coro (Action δ ε σ) ε α} {f : α → Coro (Action δ ε σ) ε β} (hx : Raises E x)
    (hf : ∀ a, Raises E (f a)) :
    Raises E (x >>= f) := by
  induction x with
  | done r =>
    cases r with
    | ok a => exact hf a
    | error e => exact hx
  | await o k ih => exact ⟨hx.1, fun b => ih _ (hx.2.1 b), fun e he => ih _ (hx.2.2 e he)⟩

/-- The errors of a view satisfy `E`. -/
def Holds (E : ε → Prop) (v : View δ ε σ) : Prop := ∀ e, v.seen = .error e → E e

lemma exec {o : Action δ ε σ β} (ho : o.Fails E) {v : View δ ε σ} (hv : Holds E v) :
    (∀ e, (View.exec o v).1 = .error e → E e) ∧ Holds E (View.exec o v).2 := by
  obtain ⟨c, seen, w⟩ := v
  cases seen with
  | error e =>
    have he : ∀ err, (.error e : Except ε δ) = .error err → E err := hv
    cases o <;> simp_all [View.exec, Holds, Except.map, Except.bind]
  | ok d =>
    cases o with
    | stage write b => exact ⟨fun _ he => (by cases he), fun e he => ho d e he⟩
    | execute write b =>
      simp only [View.exec, Except.bind]
      cases h : write d with
      | error e => exact ⟨fun err he => Except.error.inj he ▸ ho d e h, hv⟩
      | ok e => exact ⟨fun _ he => (by cases he), fun _ he => (by cases he)⟩
    | _ => exact ⟨fun _ he => (by cases he), hv⟩

/-- Whatever the program ends with satisfies `E`. -/
theorem alone {x : Coro (Action δ ε σ) ε α} (hx : Raises E x) {v : View δ ε σ} (hv : Holds E v) :
    (∀ e, (x.alone View.exec v).1 = .error e → E e) ∧ Holds E (x.alone View.exec v).2 := by
  induction x generalizing v with
  | done r =>
    refine ⟨fun e he => ?_, hv⟩
    obtain rfl : r = .error e := he
    exact hx
  | await o k ih =>
    obtain ⟨herror, hview⟩ := exec hx.1 hv
    rw [Coro.alone]
    cases h : (View.exec o v).1 with
    | ok b => exact ih _ (hx.2.1 b) hview
    | error e => exact ih _ (hx.2.2 e (herror e h)) hview

lemma serve {x : Coro (Action δ ε σ) ε α} (hx : Raises E x) {d e : δ} {w w' : σ} {err : ε}
    (h : Tables.serve x d w = (.error err, e, w')) : E err := by
  rw [serve_eq] at h
  exact (alone hx (v := ⟨d, .ok d, w⟩) fun _ he => (by cases he)).1 err (congrArg Prod.fst h)

end Raises

def Within (R : Point δ σ → Point δ σ → Prop) (x : Coro (Action δ ε σ) ε α) :
    Prop := ∀ p a q, Yields x p a q → R p q

namespace Within

variable {R : Point δ σ → Point δ σ → Prop}

lemma bind [IsTrans (Point δ σ) R] {x : Coro (Action δ ε σ) ε α} {f : α → Coro (Action δ ε σ) ε β}
    (hx : Within R x) (hf : ∀ a, Within R (f a)) : Within R (x >>= f) := by
  intro p b q h
  obtain ⟨a, r, hr, h⟩ := Yields.bind_iff.mp h
  exact IsTrans.trans _ _ _ (hx p a r hr) (hf a r b q h)

variable [Std.Refl R]

lemma done (r : Except ε α) : Within R (Coro.done r : Coro (Action δ ε σ) ε α) := by
  intro p a q h
  obtain ⟨-, rfl⟩ := Yields.done_iff.mp h
  exact Std.Refl.refl _

lemma require (c : Prop) [Decidable c] (e : ε) :
    Within R (Coro.require c e : Coro (Action δ ε σ) ε Unit) := by
  intro p a q h
  obtain ⟨-, rfl⟩ := Yields.require_iff.mp h
  exact Std.Refl.refl _

lemma select (query : δ → α) : Within R (Tables.select query : Coro (Action δ ε σ) ε α) := by
  intro p a q h
  obtain ⟨-, rfl⟩ := Yields.select_iff.mp h
  exact Std.Refl.refl _

lemma flush : Within R (Tables.flush : Coro (Action δ ε σ) ε Unit) := by
  intro p a q h
  obtain rfl := Yields.flush_iff.mp h
  exact Std.Refl.refl _

omit [Std.Refl R] in
lemma stage {write : Write δ ε} (h : ∀ p d, write p.seen = .ok d → R p { p with seen := d }) :
    Within R (Tables.stage write : Coro (Action δ ε σ) ε Unit) := by
  intro p a q hq
  obtain ⟨d, hd, rfl⟩ := Yields.stage_iff.mp hq
  exact h p d hd

end Within

end Askit.Tables

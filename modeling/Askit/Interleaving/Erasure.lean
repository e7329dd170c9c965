import Askit.Interleaving.Machine

/-! Runs out of which some of the calls are erased. The processes that stay do the same in another
machine, if it mirrors the first: there the environment does whatever those that stay can see of the
others. -/

namespace Askit.Interleaving.Machine

open Coro

variable {Op : Type → Type} {ε α : Type} {M N : Machine Op ε α}

lemma exists_split {β : Type*} {l : List β} {i : ℕ} {a : β} (h : l[i]? = some a) :
    ∃ before after, l = before ++ a :: after ∧ before.length = i := by
  obtain ⟨hi, rfl⟩ := List.getElem?_eq_some_iff.mp h
  exact ⟨l.take i, l.drop (i + 1), by simp, by simp [Nat.le_of_lt hi]⟩

variable (M N) in
structure Eraser where
  stays : M.Call → Bool
  call : M.Call → N.Call
  env : M.Env → N.Env
  shadow : ∀ {β : Type}, Op β → List N.Env

namespace Eraser

variable (E : Eraser M N)

/-- The number of a process among those that stay. -/
def place (c : M.Config) (i : ℕ) : ℕ := (c.procs.take i).countP fun p => E.stays p.call

def proc (p : M.Proc) : N.Proc := ⟨E.call p.call, p.rest⟩

def erase (c : M.Config) : M.Act → List N.Act
  | .spawn call => if E.stays call then [.spawn (E.call call)] else []
  | .run i =>
    match c.procs[i]? with
    | some ⟨call, .await o _⟩ =>
      if M.ready o c.world.state then
        if E.stays call then [.run (E.place c i)] else (E.shadow o).map .env
      else []
    | _ => []
  | .fault i e =>
    match c.procs[i]? with
    | some p => if E.stays p.call then [.fault (E.place c i) e] else []
    | none => []
  | .env e => [.env (E.env e)]

def eraseRun : M.Config → List M.Act → List N.Act
  | _, [] => []
  | c, a :: acts => E.erase c a ++ eraseRun (step a c) acts

def unlabelled (ev : Event Op ε) : Event Op ε := { ev with pid := 0 }

def events (c : M.Config) : List (Event Op ε) :=
  (c.world.history.filter fun ev => (c.calls[ev.pid]?).any E.stays).map unlabelled

structure Erased (R : M.Config → N.State → Prop) (c : M.Config) (d : N.Config) : Prop where
  labelled : c.Labelled
  related : R c d.world.state
  procs : d.procs = (c.procs.filter fun p => E.stays p.call).map E.proc
  history : d.world.history.map unlabelled = E.events c

/-- What the two machines have to do with each other, at steps of the first that satisfy `P`. -/
structure Mirror (P : M.Transition → Prop) (R : M.Config → N.State → Prop) : Prop where
  code : ∀ call, N.code (E.call call) = M.code call
  enter : ∀ {c : M.Config} {t : N.State} {call : M.Call} {s : M.State}, P ⟨c, .spawn call⟩ → R c t →
    M.enter call c.world.state = some s → E.stays call → ∃ t', N.enter (E.call call) t = some t' ∧
      R (step (.spawn call) c) t'
  refuse : ∀ {c : M.Config} {t : N.State} {call : M.Call}, P ⟨c, .spawn call⟩ → R c t →
    M.enter call c.world.state = none → E.stays call → N.enter (E.call call) t = none
  enterOther : ∀ {c : M.Config} {t : N.State} {call : M.Call} {s : M.State},
    P ⟨c, .spawn call⟩ → R c t →
    M.enter call c.world.state = some s → E.stays call = false → R (step (.spawn call) c) t
  perform : ∀ {c : M.Config} {t : N.State} {i : ℕ} {call : M.Call} {β : Type} {o : Op β}
    {k : Except ε β → Coro Op ε α}, P ⟨c, .run i⟩ → R c t → c.procs[i]? = some ⟨call, .await o k⟩ →
    M.ready o c.world.state → E.stays call →
    N.ready o t ∧ (N.exec o t).1 = (M.exec o c.world.state).1 ∧ R (step (.run i) c) (N.exec o t).2
  performOther : ∀ {c : M.Config} {t : N.State} {i : ℕ} {call : M.Call} {β : Type} {o : Op β}
    {k : Except ε β → Coro Op ε α}, P ⟨c, .run i⟩ → R c t → c.procs[i]? = some ⟨call, .await o k⟩ →
    M.ready o c.world.state → E.stays call = false →
    R (step (.run i) c) ((E.shadow o).foldl (fun t e => N.env e t) t)
  fail : ∀ {c : M.Config} {t : N.State} {i : ℕ} {call : M.Call} {β : Type} {o : Op β}
    {k : Except ε β → Coro Op ε α} {e : ε}, P ⟨c, .fault i e⟩ → R c t →
      c.procs[i]? = some ⟨call, .await o k⟩ →
    R (step (.fault i e) c) t
  env : ∀ {c : M.Config} {t : N.State} {e : M.Env}, P ⟨c, .env e⟩ → R c t → R (step (.env e) c)
    (N.env (E.env e) t)

variable {E} {P : M.Transition → Prop} {R : M.Config → N.State → Prop} {c : M.Config} {d : N.Config}

lemma proc_stays {i : ℕ} {p : M.Proc} (hp : c.procs[i]? = some p) (hstays : E.stays p.call) :
    ((c.procs.filter fun p => E.stays p.call).map E.proc)[E.place c i]? = some (E.proc p) := by
  obtain ⟨before, after, hprocs, rfl⟩ := exists_split hp
  simp [place, hprocs, hstays, List.countP_eq_length_filter]

lemma procs_stays {i : ℕ} {p q : M.Proc} (hp : c.procs[i]? = some p) (hcall : q.call = p.call)
    (hstays : E.stays p.call) :
    ((c.procs.set i q).filter fun p => E.stays p.call).map E.proc =
      ((c.procs.filter fun p => E.stays p.call).map E.proc).set (E.place c i) (E.proc q) := by
  obtain ⟨before, after, hprocs, rfl⟩ := exists_split hp
  simp [place, hprocs, hstays, hcall, List.countP_eq_length_filter]

lemma procs_other {i : ℕ} {p q : M.Proc} (hp : c.procs[i]? = some p) (hcall : q.call = p.call)
    (hstays : E.stays p.call = false) :
    (c.procs.set i q).filter (fun p => E.stays p.call) = c.procs.filter fun p =>
      E.stays p.call := by
  obtain ⟨before, after, hprocs, rfl⟩ := exists_split hp
  simp [hprocs, hstays, hcall]

lemma events_spawn (h : c.Labelled) (s : M.State) (p : M.Proc) :
    E.events ⟨{ c.world with state := s }, c.procs ++ [p]⟩ = E.events c := by
  refine congrArg (List.map unlabelled) (List.filter_congr fun ev hev => ?_)
  have hlt : ev.pid < c.calls.length := by simpa [Config.calls] using h ev hev
  rw [Config.calls, List.map_append, List.getElem?_append_left (by simpa [Config.calls] using hlt)]
  rfl

lemma events_set {i : ℕ} {call : M.Call} {x y : Coro Op ε α}
    (pending : c.procs[i]? = some ⟨call, x⟩) (s : M.State) (ev : Event Op ε) (hev : ev.pid = i) :
    E.events ⟨⟨s, c.world.history ++ [ev]⟩, c.procs.set i ⟨call, y⟩⟩ =
      E.events c ++ if E.stays call then [unlabelled ev] else [] := by
  have hcalls : Config.calls ⟨⟨s, c.world.history ++ [ev]⟩, c.procs.set i ⟨call, y⟩⟩ = c.calls :=
    calls_set pending
  rw [events, hcalls, List.filter_append, List.map_append]
  have hcall : c.calls[ev.pid]? = some call := hev ▸ getElem?_calls pending
  by_cases hstays : E.stays call
  · simp [events, hcall, hstays]
  · simp [events, hcall, hstays]

lemma run_shadow (es : List N.Env) (d : N.Config) :
    run (es.map .env) d = ⟨{ d.world with state := es.foldl (fun t e => N.env e t) d.world.state },
      d.procs⟩ := by
  induction es generalizing d with
  | nil => rfl
  | cons e es ih => exact ih _

lemma Erased.resume (h : E.Erased R c d) {i : ℕ} {call : M.Call} {β : Type} {o : Op β}
    {k : Except ε β → Coro Op ε α} (pending : c.procs[i]? = some ⟨call, .await o k⟩)
    (hstays : E.stays call) {s : M.State} {t : N.State} {r r' : Except ε β} (hr : r' = r)
    {c' : M.Config} (hc : c' = ⟨⟨s, c.world.history ++ [⟨i, o, r⟩]⟩, c.procs.set i ⟨call, k r⟩⟩)
    (hlabelled : c'.Labelled) (hrelated : R c' t) :
    E.Erased R c' ⟨⟨t, d.world.history ++ [⟨E.place c i, o, r'⟩]⟩, d.procs.set (E.place c i)
      ⟨E.call call, k r'⟩⟩ := by
  subst hr hc
  refine ⟨hlabelled, hrelated, ?_, ?_⟩
  · have hprocs := procs_stays (q := ⟨call, k r'⟩) pending rfl hstays
    rw [← h.procs] at hprocs
    exact hprocs.symm
  · rw [events_set pending s ⟨i, o, r'⟩ rfl, if_pos hstays, ← h.history, List.map_append]
    rfl

lemma Erased.ignore (h : E.Erased R c d) {i : ℕ} {call : M.Call} {β : Type} {o : Op β}
    {k : Except ε β → Coro Op ε α} (pending : c.procs[i]? = some ⟨call, .await o k⟩)
    (hstays : E.stays call = false) {s : M.State} {t : N.State} {r : Except ε β} {c' : M.Config}
    (hc : c' = ⟨⟨s, c.world.history ++ [⟨i, o, r⟩]⟩, c.procs.set i ⟨call, k r⟩⟩)
    (hlabelled : c'.Labelled) (hrelated : R c' t) :
    E.Erased R c' ⟨{ d.world with state := t }, d.procs⟩ := by
  subst hc
  refine ⟨hlabelled, hrelated, ?_, ?_⟩
  · have hprocs := procs_other (q := ⟨call, k r⟩) pending rfl hstays
    exact h.procs.trans (congrArg _ hprocs.symm)
  · rw [events_set pending s ⟨i, o, r⟩ rfl, hstays]
    simpa using h.history

lemma Erased.step (h : E.Erased R c d) (hM : E.Mirror P R) {a : M.Act} (ha : P ⟨c, a⟩) :
    E.Erased R (step a c) (run (E.erase c a) d) := by
  have hlabelled := h.labelled.step a
  cases a with
  | spawn call =>
    cases hs : M.enter call c.world.state with
    | none =>
      have hstep : Machine.step (.spawn call) c = c := by simp [Machine.step, hs]
      rw [hstep]
      by_cases hstays : E.stays call
      · have hrefuse := hM.refuse ha h.related hs hstays
        simpa [erase, hstays, Machine.step, hrefuse] using h
      · simpa [erase, hstays] using h
    | some s =>
      have hstep : Machine.step (.spawn call) c = ⟨{ c.world with state := s },
          c.procs ++ [⟨call, M.code call⟩]⟩ := by
        simp [Machine.step, hs]
      by_cases hstays : E.stays call
      · obtain ⟨t, ht, hrelated⟩ := hM.enter ha h.related hs hstays
        have hrun : run (E.erase c (.spawn call)) d =
            ⟨{ d.world with state := t }, d.procs ++ [⟨E.call call, N.code (E.call call)⟩]⟩ := by
          simp [erase, hstays, Machine.step, ht]
        rw [hrun]
        refine ⟨hlabelled, hrelated, ?_, ?_⟩
        · simp [hstep, h.procs, hstays, proc, hM.code]
        · rw [hstep, events_spawn h.labelled]
          exact h.history
      · have hstays : E.stays call = false := by simpa using hstays
        have hrelated := hM.enterOther ha h.related hs hstays
        rw [show E.erase c (.spawn call) = [] by simp [erase, hstays]]
        refine ⟨hlabelled, hrelated, ?_, ?_⟩
        · simp [hstep, h.procs, hstays]
        · rw [hstep, events_spawn h.labelled]
          exact h.history
  | run i =>
    cases hp : c.procs[i]? with
    | none => simpa [erase, Machine.step, hp] using h
    | some p =>
      obtain ⟨call, rest⟩ := p
      cases rest with
      | done r => simpa [erase, Machine.step, hp] using h
      | await o k =>
        cases hr : M.ready o c.world.state with
        | false => simpa [erase, Machine.step, hp, hr] using h
        | true =>
          have hstep := step_run hp hr
          cases hstays : E.stays call with
          | true =>
            obtain ⟨hready, hanswer, hrelated⟩ := hM.perform ha h.related hp hr hstays
            have hpending := h.procs ▸ proc_stays hp hstays
            have herase : E.erase c (.run i) = [.run (E.place c i)] := by
              simp [erase, hp, hr, hstays]
            rw [herase, run_cons, run_nil, step_run hpending hready]
            exact h.resume hp hstays hanswer hstep hlabelled hrelated
          | false =>
            have hrelated := hM.performOther ha h.related hp hr hstays
            have herase : E.erase c (.run i) = (E.shadow o).map .env := by
              simp [erase, hp, hr, hstays]
            rw [herase, run_shadow]
            exact h.ignore hp hstays hstep hlabelled hrelated
  | fault i e =>
    cases hp : c.procs[i]? with
    | none => simpa [erase, Machine.step, hp] using h
    | some p =>
      obtain ⟨call, rest⟩ := p
      cases hstays : E.stays call with
      | true =>
        have hpending := h.procs ▸ proc_stays hp hstays
        have herase : E.erase c (.fault i e) = [.fault (E.place c i) e] := by
          simp [erase, hp, hstays]
        rw [herase, run_cons, run_nil]
        cases rest with
        | done r =>
          have hstep : Machine.step (.fault i e) c = c := by simp [Machine.step, hp]
          have hidle : Machine.step (.fault (E.place c i) e) d = d := by
            simp [Machine.step, hpending, proc]
          rw [hstep, hidle]
          exact h
        | await o k =>
          have hstep : Machine.step (.fault i e) c =
              ⟨c.world.fail i o e, c.procs.set i ⟨call, k (.error e)⟩⟩ := by
            simp [Machine.step, hp]
          have hfail : Machine.step (.fault (E.place c i) e) d = ⟨d.world.fail (E.place c i) o e,
              d.procs.set (E.place c i) ⟨E.call call, k (.error e)⟩⟩ := by
              simp [Machine.step, hpending, proc]
          rw [hfail]
          exact h.resume hp hstays rfl hstep hlabelled (hM.fail ha h.related hp)
      | false =>
        have herase : E.erase c (.fault i e) = [] := by simp [erase, hp, hstays]
        rw [herase]
        cases rest with
        | done r =>
          have hstep : Machine.step (.fault i e) c = c := by simp [Machine.step, hp]
          rw [hstep]
          exact h
        | await o k =>
          have hstep : Machine.step (.fault i e) c =
              ⟨c.world.fail i o e, c.procs.set i ⟨call, k (.error e)⟩⟩ := by
            simp [Machine.step, hp]
          exact h.ignore hp hstays hstep hlabelled (hM.fail ha h.related hp)
  | env e => exact ⟨hlabelled, hM.env ha h.related, h.procs, h.history⟩

/-- What is left of a run is a run of the other machine. -/
theorem Erased.run (hM : E.Mirror P R) (acts : List M.Act) (h : E.Erased R c d)
    (hacts : ∀ t ∈ transitions c acts, P t) :
    E.Erased R (run acts c) (run (E.eraseRun c acts) d) := by
  induction acts generalizing c d with
  | nil => exact h
  | cons a acts ih =>
    rw [run_cons, eraseRun, run_append]
    exact ih (h.step hM (hacts _ (by simp))) fun t ht => hacts t (by simp [ht])

end Eraser

end Askit.Interleaving.Machine

import Askit.Interleaving.Coroutine
import Mathlib.Data.List.Basic
import Mathlib.Data.List.Induction

/-! Machines that interleave coroutines over a shared state, one awaited operation at a time, and
keep the history of the operations performed. -/

namespace Askit.Interleaving

/-- `enter` says when a call may be started and what its start does to the state; `env` is what
happens to the state without any coroutine. -/
structure Machine (Op : Type → Type) (ε α : Type) where
  State : Type
  Call : Type
  Env : Type
  exec {β : Type} : Op β → State → Except ε β × State
  ready {β : Type} : Op β → State → Bool
  code : Call → Coro Op ε α
  enter : Call → State → Option State
  env : Env → State → State

structure Event (Op : Type → Type) (ε : Type) : Type 1 where
  pid : ℕ
  {Answer : Type}
  op : Op Answer
  outcome : Except ε Answer

lemma eq_of_countP_le_one {α : Type*} {l : List α} {K : α → Bool} (h : l.countP K ≤ 1) {a b : α}
    (ha : a ∈ l) (hb : b ∈ l) (hKa : K a) (hKb : K b) : a = b := by
  rw [List.countP_eq_length_filter] at h
  have ha' := List.mem_filter.mpr ⟨ha, hKa⟩
  have hb' := List.mem_filter.mpr ⟨hb, hKb⟩
  match hl : l.filter K with
  | [] => simp [hl] at ha'
  | [x] =>
    rw [hl, List.mem_singleton] at ha' hb'
    rw [ha', hb']
  | x :: y :: _ => simp [hl] at h

namespace Machine

variable {Op : Type → Type} {ε α : Type} (M : Machine Op ε α)

structure World : Type 1 where
  state : M.State
  history : List (Event Op ε)

structure Proc : Type 1 where
  call : M.Call
  rest : Coro Op ε α

structure Config : Type 1 where
  world : M.World
  procs : List M.Proc

/-- A schedule chooses at each step to start a call, to run a process up to its next await, to let
its pending operation fail, or to let the environment act. -/
inductive Act
  | spawn (call : M.Call)
  | run (i : ℕ)
  | fault (i : ℕ) (e : ε)
  | env (e : M.Env)

/-- The answers that the machine can give to an operation. -/
def Answers {β : Type} (o : Op β) (a : β) : Prop := ∃ s, (M.exec o s).1 = .ok a

variable {M}

def start (s : M.State) : M.Config := ⟨⟨s, []⟩, []⟩

def assembled (s : M.State) (calls : List M.Call) : M.Config :=
  ⟨⟨s, []⟩, calls.map fun c => ⟨c, M.code c⟩⟩

namespace World

def perform {β : Type} (w : M.World) (i : ℕ) (o : Op β) : Except ε β × M.World :=
  ((M.exec o w.state).1, ⟨(M.exec o w.state).2, w.history ++ [⟨i, o, (M.exec o w.state).1⟩]⟩)

def fail {β : Type} (w : M.World) (i : ℕ) (o : Op β) (e : ε) : M.World :=
  ⟨w.state, w.history ++ [⟨i, o, .error e⟩]⟩

@[simp] lemma perform_state {β : Type} (w : M.World) (i : ℕ) (o : Op β) :
    (w.perform i o).2.state = (M.exec o w.state).2 := rfl

@[simp] lemma perform_history {β : Type} (w : M.World) (i : ℕ) (o : Op β) :
    (w.perform i o).2.history = w.history ++ [⟨i, o, (M.exec o w.state).1⟩] := rfl

@[simp] lemma perform_answer {β : Type} (w : M.World) (i : ℕ) (o : Op β) :
    (w.perform i o).1 = (M.exec o w.state).1 := rfl

@[simp] lemma fail_state {β : Type} (w : M.World) (i : ℕ) (o : Op β) (e : ε) :
    (w.fail i o e).state = w.state := rfl

@[simp] lemma fail_history {β : Type} (w : M.World) (i : ℕ) (o : Op β) (e : ε) :
    (w.fail i o e).history = w.history ++ [⟨i, o, .error e⟩] := rfl

end World

def step : M.Act → M.Config → M.Config
  | .spawn call, c =>
    match M.enter call c.world.state with
    | some s => ⟨{ c.world with state := s }, c.procs ++ [⟨call, M.code call⟩]⟩
    | none => c
  | .run i, c =>
    match c.procs[i]? with
    | some ⟨call, .await o k⟩ =>
      if M.ready o c.world.state then
        ⟨(c.world.perform i o).2, c.procs.set i ⟨call, k (c.world.perform i o).1⟩⟩
      else c
    | _ => c
  | .fault i e, c =>
    match c.procs[i]? with
    | some ⟨call, .await o k⟩ => ⟨c.world.fail i o e, c.procs.set i ⟨call, k (.error e)⟩⟩
    | _ => c
  | .env e, c => ⟨{ c.world with state := M.env e c.world.state }, c.procs⟩

lemma step_run {c : M.Config} {i : ℕ} {call : M.Call} {β : Type} {o : Op β}
    {k : Except ε β → Coro Op ε α} (pending : c.procs[i]? = some ⟨call, .await o k⟩)
    (ready : M.ready o c.world.state = true) :
    step (.run i) c =
      ⟨(c.world.perform i o).2, c.procs.set i ⟨call, k (c.world.perform i o).1⟩⟩ := by
  simp [step, pending, ready]

inductive Moves (c : M.Config) : M.Act → M.Config → Prop
  | idle (a : M.Act) : Moves c a c
  | spawn (call : M.Call) (s : M.State) (admitted : M.enter call c.world.state = some s) :
      Moves c (.spawn call) ⟨{ c.world with state := s }, c.procs ++ [⟨call, M.code call⟩]⟩
  | run (i : ℕ) (call : M.Call) {β : Type} (o : Op β) (k : Except ε β → Coro Op ε α)
      (pending : c.procs[i]? = some ⟨call, .await o k⟩) (ready : M.ready o c.world.state = true) :
      Moves c (.run i) ⟨(c.world.perform i o).2, c.procs.set i ⟨call, k (c.world.perform i o).1⟩⟩
  | fault (i : ℕ) (e : ε) (call : M.Call) {β : Type} (o : Op β) (k : Except ε β → Coro Op ε α)
      (pending : c.procs[i]? = some ⟨call, .await o k⟩) :
      Moves c (.fault i e) ⟨c.world.fail i o e, c.procs.set i ⟨call, k (.error e)⟩⟩
  | env (e : M.Env) : Moves c (.env e) ⟨{ c.world with state := M.env e c.world.state }, c.procs⟩

lemma step_moves (a : M.Act) (c : M.Config) : Moves c a (step a c) := by
  cases a with
  | spawn call =>
    cases h : M.enter call c.world.state with
    | none => simpa [step, h] using Moves.idle (c := c) (.spawn call)
    | some s => simpa [step, h] using Moves.spawn call s h
  | run i =>
    cases h : c.procs[i]? with
    | none => simpa [step, h] using Moves.idle (c := c) (.run i)
    | some p =>
      obtain ⟨call, rest⟩ := p
      cases rest with
      | done r => simpa [step, h] using Moves.idle (c := c) (.run i)
      | await o k =>
        cases hr : M.ready o c.world.state with
        | false => simpa [step, h, hr] using Moves.idle (c := c) (.run i)
        | true => simpa [step, h, hr] using Moves.run i call o k h hr
  | fault i e =>
    cases h : c.procs[i]? with
    | none => simpa [step, h] using Moves.idle (c := c) (.fault i e)
    | some p =>
      obtain ⟨call, rest⟩ := p
      cases rest with
      | done r => simpa [step, h] using Moves.idle (c := c) (.fault i e)
      | await o k => simpa [step, h] using Moves.fault i e call o k h
  | env e => exact Moves.env e

/-- The process makes `n` steps in a row. -/
def runs (i n : ℕ) : List M.Act := List.replicate n (.run i)

def run (acts : List M.Act) (c : M.Config) : M.Config := acts.foldl (fun c a => step a c) c

@[simp] lemma run_nil (c : M.Config) : run [] c = c := rfl

@[simp] lemma run_cons (a : M.Act) (acts : List M.Act) (c : M.Config) :
    run (a :: acts) c = run acts (step a c) := rfl

lemma run_append (as bs : List M.Act) (c : M.Config) : run (as ++ bs) c = run bs (run as c) := by
  simp [run]

variable (M) in
structure Transition : Type 1 where
  before : M.Config
  act : M.Act

def Transition.after (t : M.Transition) : M.Config := step t.act t.before

/-- The step runs the `i`-th process, which handles `call` and awaits `o`. -/
def Transition.Runs (t : M.Transition) (i : ℕ) (call : M.Call) {β : Type} (o : Op β) : Prop :=
  t.act = .run i ∧ ∃ k, t.before.procs[i]? = some ⟨call, .await o k⟩

/-- Of a process that awaits an operation, the operation satisfies `P`. -/
def Awaits (P : ∀ {β : Type}, Op β → Prop) : Option M.Proc → Prop
  | some ⟨_, .await o _⟩ => P o
  | _ => True

instance (P : ∀ {β : Type}, Op β → Prop) [h : ∀ {β : Type} (o : Op β), Decidable (P o)] :
    DecidablePred (Awaits P : Option M.Proc → Prop)
  | some ⟨_, .await o _⟩ => h o
  | some ⟨_, .done _⟩ | none => isTrue trivial

lemma Awaits.pending {P : ∀ {β : Type}, Op β → Prop} {c : M.Config} {i : ℕ} {call : M.Call}
    {β : Type} {o : Op β} {k : Except ε β → Coro Op ε α} (h : Awaits P c.procs[i]?)
    (hp : c.procs[i]? = some ⟨call, .await o k⟩) : P o := by
  rw [hp] at h
  exact h

/-- The steps of the run that `acts` schedules from `c`. -/
def transitions (c : M.Config) : List M.Act → List M.Transition
  | [] => []
  | a :: acts => ⟨c, a⟩ :: transitions (step a c) acts

@[simp] lemma transitions_nil (c : M.Config) : transitions c [] = [] := rfl

@[simp] lemma transitions_cons (c : M.Config) (a : M.Act) (acts : List M.Act) :
    transitions c (a :: acts) = ⟨c, a⟩ :: transitions (step a c) acts := rfl

lemma act_mem {c : M.Config} {acts : List M.Act} {t : M.Transition} (h : t ∈ transitions c acts) :
    t.act ∈ acts := by
  induction acts generalizing c with
  | nil => simp at h
  | cons a acts ih =>
    rcases List.mem_cons.mp h with rfl | h
    · exact List.mem_cons_self
    · exact List.mem_cons_of_mem a (ih h)

lemma transitions_append (c : M.Config) (as bs : List M.Act) :
    transitions c (as ++ bs) = transitions c as ++ transitions (run as c) bs := by
  induction as generalizing c with
  | nil => rfl
  | cons a as ih => simp [ih]

lemma last_mem_transitions (c : M.Config) (as : List M.Act) (a : M.Act) :
    ⟨run as c, a⟩ ∈ transitions c (as ++ [a]) := by
  simp [transitions_append]

lemma after_last {P : M.Config → Prop} {c : M.Config} {as : List M.Act} {a : M.Act}
    (h : ∀ t ∈ transitions c (as ++ [a]), P t.after) : P (step a (run as c)) :=
  h _ (last_mem_transitions c as a)

lemma mem_transitions {c : M.Config} {acts : List M.Act} {t : M.Transition}
    (h : t ∈ transitions c acts) :
    ∃ as bs, acts = as ++ t.act :: bs ∧ t.before = run as c := by
  induction acts generalizing c with
  | nil => simp at h
  | cons a acts ih =>
    rcases List.mem_cons.mp h with rfl | h
    · exact ⟨[], acts, rfl, rfl⟩
    · obtain ⟨as, bs, rfl, hb⟩ := ih h
      exact ⟨a :: as, bs, rfl, hb⟩

lemma pairwise_transitions {R : M.Config → M.Config → Prop} (refl : ∀ c, R c c)
    (trans : ∀ c d e, R c d → R d e → R c e) {c : M.Config} (acts : List M.Act)
    (h : ∀ t ∈ transitions c acts, R t.before t.after) :
    (∀ t ∈ transitions c acts, R c t.before) ∧
      (transitions c acts).Pairwise fun t u => R t.after u.before := by
  induction acts generalizing c with
  | nil => simp
  | cons a acts ih =>
    obtain ⟨hhead, hpair⟩ := ih (c := step a c) fun t ht => h t (by simp [ht])
    refine ⟨fun t ht => ?_, List.pairwise_cons.mpr ⟨hhead, hpair⟩⟩
    rcases List.mem_cons.mp ht with rfl | ht
    · exact refl c
    · exact trans _ _ _ (h ⟨c, a⟩ (by simp)) (hhead t ht)

lemma history_grows (a : M.Act) (c : M.Config) :
    c.world.history <+: (step a c).world.history := by
  have hm := step_moves a c
  generalize step a c = d at hm
  cases hm with
  | run | fault => exact List.prefix_append _ _
  | idle | spawn | env => exact List.prefix_refl _

lemma history_prefix_run (acts : List M.Act) (c : M.Config) :
    c.world.history <+: (run acts c).world.history := by
  induction acts generalizing c with
  | nil => exact List.prefix_refl _
  | cons a acts ih => exact (history_grows a c).trans (ih (step a c))

lemma history_prefix_of_mem {c : M.Config} {acts : List M.Act} {t : M.Transition}
    (h : t ∈ transitions c acts) : t.after.world.history <+: (run acts c).world.history := by
  obtain ⟨as, bs, hacts, hb⟩ := mem_transitions h
  rw [hacts, run_append, run_cons, Transition.after, hb]
  exact history_prefix_run bs _

lemma history_step (a : M.Act) (c : M.Config) :
    (step a c).world.history = c.world.history ∨
      ∃ ev, (step a c).world.history = c.world.history ++ [ev] := by
  have hm := step_moves a c
  generalize step a c = d at hm
  cases hm with
  | run | fault => exact .inr ⟨_, rfl⟩
  | idle | spawn | env => exact .inl rfl

lemma exists_step_of_history {c : M.Config} (hc : c.world.history = []) {acts : List M.Act}
    {before after : List (Event Op ε)} {ev : Event Op ε}
    (h : (run acts c).world.history = before ++ ev :: after) :
    ∃ as a, as ++ [a] <+: acts ∧ (run as c).world.history = before ∧
      (step a (run as c)).world.history = before ++ [ev] := by
  induction acts using List.reverseRecOn generalizing after with
  | nil =>
    rw [run_nil, hc] at h
    simp at h
  | append_singleton acts a ih =>
    rw [run_append, run_cons, run_nil] at h
    rcases history_step a (run acts c) with hs | ⟨e, hs⟩
    · rw [hs] at h
      obtain ⟨as, b, hp, hrest⟩ := ih h
      exact ⟨as, b, hp.trans (List.prefix_append _ _), hrest⟩
    · rw [hs] at h
      rcases List.eq_nil_or_concat after with rfl | ⟨after, last, rfl⟩
      · obtain ⟨hb, he⟩ := List.append_inj' h rfl
        obtain rfl : e = ev := by simpa using he
        exact ⟨acts, a, List.prefix_refl _, hb, by rw [hs, hb]⟩
      · rw [List.concat_eq_append, ← List.cons_append, ← List.append_assoc] at h
        obtain ⟨as, b, hp, hrest⟩ := ih (List.append_inj_left' h rfl)
        exact ⟨as, b, hp.trans (List.prefix_append _ _), hrest⟩

def Config.calls (c : M.Config) : List M.Call := c.procs.map Proc.call

lemma getElem?_calls {c : M.Config} {i : ℕ} {p : M.Proc} (h : c.procs[i]? = some p) :
    c.calls[i]? = some p.call := by
  simp [Config.calls, h]

lemma calls_assembled (s : M.State) (calls : List M.Call) :
    (M.assembled s calls).calls = calls := by
  simp [assembled, Config.calls, Function.comp_def]

lemma proc_assembled {s : M.State} {calls : List M.Call} {i : ℕ} {p : M.Proc}
    (h : (M.assembled s calls).procs[i]? = some p) :
    calls[i]? = some p.call ∧ p.rest = M.code p.call := by
  rw [assembled, List.getElem?_map, Option.map_eq_some_iff] at h
  obtain ⟨c, hc, rfl⟩ := h
  exact ⟨hc, rfl⟩

lemma exists_proc {c : M.Config} {i : ℕ} {call : M.Call} (h : c.calls[i]? = some call) :
    ∃ rest, c.procs[i]? = some ⟨call, rest⟩ := by
  rw [Config.calls, List.getElem?_map, Option.map_eq_some_iff] at h
  obtain ⟨⟨call', rest⟩, hp, rfl⟩ := h
  exact ⟨rest, hp⟩

lemma calls_set {c : M.Config} {i : ℕ} {call : M.Call} {r s : Coro Op ε α}
    (h : c.procs[i]? = some ⟨call, r⟩) :
    (c.procs.set i ⟨call, s⟩).map Proc.call = c.calls := by
  apply List.ext_getElem?
  intro j
  by_cases hj : i = j
  · subst hj
    obtain ⟨hi, hp⟩ := List.getElem?_eq_some_iff.mp h
    simp [Config.calls, hi, hp]
  · simp [Config.calls, hj]

lemma calls_step (a : M.Act) (c : M.Config) :
    (step a c).calls = c.calls ∨ ∃ call, a = .spawn call ∧
    (step a c).calls = c.calls ++ [call] := by
  have hm := step_moves a c
  generalize step a c = d at hm
  cases hm with
  | idle | env => exact .inl rfl
  | spawn call s admitted => exact .inr ⟨call, rfl, by simp [Config.calls]⟩
  | run i call o k pending ready => exact .inl (calls_set pending)
  | fault i e call o k pending => exact .inl (calls_set pending)

lemma calls_grow (a : M.Act) (c : M.Config) : c.calls <+: (step a c).calls := by
  rcases calls_step a c with h | ⟨call, -, h⟩
  · simp [h]
  · simp [h]

lemma calls_prefix_run (acts : List M.Act) (c : M.Config) : c.calls <+: (run acts c).calls := by
  induction acts generalizing c with
  | nil => exact List.prefix_refl _
  | cons a acts ih => exact (calls_grow a c).trans (ih (step a c))

lemma call_step {a : M.Act} {c : M.Config} {i : ℕ} {call : M.Call} (h : c.calls[i]? = some call) :
    (step a c).calls[i]? = some call := by
  obtain ⟨l, hl⟩ := calls_grow a c
  rw [← hl, List.getElem?_append_left (List.getElem?_eq_some_iff.mp h).1]
  exact h

/-- Every event of the history is of a process that has been started. -/
def Config.Labelled (c : M.Config) : Prop := ∀ ev ∈ c.world.history, ev.pid < c.procs.length

lemma labelled_start (s : M.State) : (start s).Labelled := nofun

lemma Config.Labelled.step {c : M.Config} (h : c.Labelled) (a : M.Act) :
    (Machine.step a c).Labelled := by
  have hm := step_moves a c
  generalize Machine.step a c = d at hm
  cases hm with
  | idle => exact h
  | spawn call s admitted =>
    intro ev hev
    exact Nat.lt_of_lt_of_le (h ev hev) (by simp)
  | run i call o k pending ready =>
    intro ev hev
    rw [List.length_set]
    rcases List.mem_append.mp hev with hev | hev
    · exact h ev hev
    · rw [List.mem_singleton.mp hev]
      exact (List.getElem?_eq_some_iff.mp pending).1
  | fault i e call o k pending =>
    intro ev hev
    rw [List.length_set]
    rcases List.mem_append.mp hev with hev | hev
    · exact h ev hev
    · rw [List.mem_singleton.mp hev]
      exact (List.getElem?_eq_some_iff.mp pending).1
  | env e => exact h

/-- Each process has awaited, and will await, only what its call allows. -/
structure Config.Confined (P : M.Call → ∀ {β : Type}, Op β → Prop) (c : M.Config) : Prop where
  rest : ∀ (i : ℕ) (p : M.Proc), c.procs[i]? = some p → p.rest.All M.Answers (P p.call)
  history : ∀ ev ∈ c.world.history, ∃ call, c.calls[ev.pid]? = some call ∧ P call ev.op

lemma confined_start (P : M.Call → ∀ {β : Type}, Op β → Prop) (s : M.State) :
    (start s).Confined P where
  rest i p h := by cases h
  history ev h := by cases h

lemma Config.Confined.resume {P : M.Call → ∀ {β : Type}, Op β → Prop} {c : M.Config}
    (h : c.Confined P) {i : ℕ} {call : M.Call} {β : Type} {o : Op β}
    {k : Except ε β → Coro Op ε α} (pending : c.procs[i]? = some ⟨call, .await o k⟩)
    {w : M.World} {r : Except ε β} (hw : w.history = c.world.history ++ [⟨i, o, r⟩])
    (hk : (k r).All M.Answers (P call)) :
    Config.Confined P ⟨w, c.procs.set i ⟨call, k r⟩⟩ := by
  constructor
  · intro j p hj
    by_cases hij : i = j
    · subst hij
      rw [List.getElem?_set_self (List.getElem?_eq_some_iff.mp pending).1] at hj
      cases hj
      exact hk
    · rw [List.getElem?_set_ne hij] at hj
      exact h.rest j p hj
  · intro ev hev
    rw [hw] at hev
    rw [Config.calls, calls_set pending]
    rcases List.mem_append.mp hev with hev | hev
    · exact h.history ev hev
    · rw [List.mem_singleton.mp hev]
      exact ⟨call, getElem?_calls pending, (h.rest i _ pending).1⟩

lemma Config.Confined.step {P : M.Call → ∀ {β : Type}, Op β → Prop}
    (hP : ∀ call, (M.code call).All M.Answers (P call)) {c : M.Config} (h : c.Confined P)
    (a : M.Act) : (Machine.step a c).Confined P := by
  have hm := step_moves a c
  generalize Machine.step a c = d at hm
  cases hm with
  | idle => exact h
  | spawn call s admitted =>
    constructor
    · intro i p hi
      rcases Nat.lt_trichotomy i c.procs.length with hlt | rfl | hgt
      · rw [List.getElem?_append_left hlt] at hi
        exact h.rest i p hi
      · rw [List.getElem?_concat_length] at hi
        cases hi
        exact hP call
      · rw [List.getElem?_eq_none (by simp; omega)] at hi
        cases hi
    · intro ev hev
      obtain ⟨call', hc, hp⟩ := h.history ev hev
      refine ⟨call', ?_, hp⟩
      rw [Config.calls, List.map_append]
      exact (List.getElem?_append_left (List.getElem?_eq_some_iff.mp hc).1).trans hc
  | run i call o k pending ready =>
    apply h.resume pending (World.perform_history _ _ _)
    cases hx : (M.exec o c.world.state).1 with
    | ok a => exact (h.rest i _ pending).2.1 a ⟨_, hx⟩
    | error e => exact (h.rest i _ pending).2.2 e
  | fault i e call o k pending =>
    exact h.resume pending (World.fail_history _ _ _ _) ((h.rest i _ pending).2.2 e)
  | env e => exact ⟨h.rest, h.history⟩

lemma invariant {I : M.Config → Prop} {P : M.Transition → Prop}
    (hstep : ∀ t, P t → I t.before → I t.after) {c : M.Config} (hc : I c) (acts : List M.Act)
    (hP : ∀ t ∈ transitions c acts, P t) :
    (∀ t ∈ transitions c acts, I t.before ∧ I t.after) ∧ I (run acts c) := by
  induction acts generalizing c with
  | nil => simpa using hc
  | cons a acts ih =>
    have hd : I (step a c) := hstep ⟨c, a⟩ (hP _ (by simp)) hc
    obtain ⟨ht, hr⟩ := ih hd fun t h => hP t (by simp [h])
    refine ⟨fun t h => ?_, hr⟩
    rcases List.mem_cons.mp h with rfl | h
    · exact ⟨hc, hd⟩
    · exact ht t h

end Machine

end Askit.Interleaving

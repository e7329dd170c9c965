import Askit.Quizzes.TagRequests

/-! Requests of different users that give tags of the same names. A name without a tag is looked up,
and its tag is inserted when the request commits. -/

namespace Askit.Quizzes

open Interleaving Machine Coro Tables
open Game (UUID Time Runtime Dirty changed)

section

variable [Platform]

namespace SharedTags

variable {i : ℕ} {call : Call} {v w : system.World} {α β : Type}
    {Q : Except Exn β → system.World → Prop}

section Runs

variable {good : ℕ → Prop} {c : system.Config}

structure Step (good : ℕ → Prop) (t : system.Transition) : Prop where
  authoring : Authoring t.act
  unshared : Unshared t
  accepted : ∀ call, t.act = .spawn call → good t.before.procs.length →
    Acceptable t.before.world.state call

lemma Step.permits {t : system.Transition} (hl : t.before.Labelled) (h : Step good t) :
    (discipline good).Permits t where
  spawn call s hact henter hi := by
    cases henter
    refine ⟨hi, fun j p _ _ => ⟨rfl, .refl _⟩, ?_⟩
    have hauthoring := h.authoring
    rw [hact] at hauthoring
    have hnothing : gave t.before.procs.length call t.before.world = [] :=
      congrArg (List.filterMap (Call.gives call))
        (own_eq_nil fun ev hev => Nat.ne_of_lt (hl ev hev))
    cases call with
    | createQuiz userId data => exact createQuiz_ensures hnothing (h.accepted _ hact)
    | updateQuiz quizId userId data => exact updateQuiz_ensures hnothing (h.accepted _ hact)
    | setQuizStatus quizId newStatus userId => exact hauthoring.elim
  env e hact hi := ⟨⟨hi.tags, hi.filled, hi.quizzes, hi.questions⟩, fun j p _ _ => ⟨rfl, .refl _⟩⟩
  allowed i call β o k hact hp := by
    obtain ⟨c, a⟩ := t
    rcases hact with rfl | ⟨e, rfl⟩
    · have hunshared := h.unshared
      simp only [Unshared, hp] at hunshared
      exact hunshared
    · exact h.authoring.elim
  faults i e call β o k hact _ := by
    have hauthoring := h.authoring
    rw [hact] at hauthoring
    exact hauthoring.elim
  compatible i p w _ _ _ hguar j q hj _ := by
    obtain ⟨ev, rfl, hhistory, -⟩ := hguar.history
    refine ⟨?_, hguar.keeps⟩
    rw [hhistory, own_append_of_ne fun heq => hj (congrArg some heq.symm)]

section Given

variable {d : system.Config}

omit [Platform] in
lemma givenBy_of_getElem? {calls : List Call} {call : Call} {ev : Event Op Exn}
    (h : calls[ev.pid]? = some call) :
    givenBy calls ev = call.gives ev := by
  rw [givenBy, h]
  rfl

omit [Platform] in
lemma givenBy_append {calls : List Call} {ev : Event Op Exn} (h : ev.pid < calls.length)
    (more : List Call) :
    givenBy (calls ++ more) ev = givenBy calls ev := by
  rw [givenBy, List.getElem?_append_left h, givenBy]

lemma given_eq (hl : c.Labelled) (hcalls : c.calls <+: d.calls)
    (hhistory : d.world.history = c.world.history) :
    given d = given c := by
  rw [given, hhistory, given]
  refine List.filterMap_congr fun ev hev => ?_
  have hlt : ev.pid < c.calls.length := by
    rw [Config.calls, List.length_map]
    exact hl ev hev
  obtain ⟨more, hmore⟩ := hcalls
  rw [← hmore]
  exact givenBy_append hlt more

lemma given_append {call : Call} {ev : Event Op Exn} (hcalls : d.calls = c.calls)
    (hcall : c.calls[ev.pid]? = some call) (hhistory : d.world.history = c.world.history ++ [ev]) :
    given d = given c ++ (call.gives ev).toList := by
  have hgives : givenBy c.calls ev = call.gives ev := givenBy_of_getElem? hcall
  rw [given, hhistory, hcalls, List.filterMap_append, given]
  congr 1
  cases hev : call.gives ev with
  | none =>
    rw [List.filterMap_cons_none (hgives.trans hev)]
    rfl
  | some list =>
    rw [List.filterMap_cons_some (hgives.trans hev)]
    rfl

lemma lastGiven_of_given {list : Option (UUID × List String)}
    (h : given d = given c ++ list.toList) (quizId : UUID) :
    (∃ names, list = some (quizId, names) ∧ lastGiven d quizId = some names) ∨
      (∀ names, list ≠ some (quizId, names)) ∧ lastGiven d quizId = lastGiven c quizId := by
  rw [lastGiven, h, List.filter_append, lastGiven]
  rcases list with _ | ⟨id, names⟩
  · exact .inr ⟨fun _ h => (by cases h), by simp⟩
  · by_cases hid : id = quizId
    · exact .inl ⟨names, by rw [hid], by simp [hid]⟩
    · exact .inr ⟨fun other heq => hid (congrArg Prod.fst (Option.some.inj heq)), by simp [hid]⟩

end Given

lemma linked_append {before : Db} {d : system.Config} {list : Option (UUID × List String)}
    (h : Linked before c) (hgiven : given d = given c ++ list.toList)
    (hrelinked : Relinked list (State.db c.world.state) (State.db d.world.state)) :
    Linked before d := by
  intro quiz hquiz
  rcases hrelinked quiz hquiz with ⟨names, rfl, htags⟩ | ⟨hne, old, hold, hid, htags⟩
  · rcases lastGiven_of_given hgiven quiz.quizId with ⟨given, heq, hlast⟩ | ⟨hne, -⟩
    · cases heq
      rw [hlast]
      exact htags
    · exact (hne names rfl).elim
  · rcases lastGiven_of_given hgiven quiz.quizId with ⟨names, rfl, -⟩ | ⟨-, hlast⟩
    · exact (hne names rfl).elim
    · have hlinked := h old hold
      rw [hlast, ← hid]
      cases hnames : lastGiven c old.quizId with
      | some names =>
        rw [hnames] at hlinked
        exact fun t => (htags t).trans (hlinked t)
      | none =>
        rw [hnames] at hlinked
        obtain ⟨first, hfirst, hfid, hftags⟩ := hlinked
        exact ⟨first, hfirst, hfid, fun t => (htags t).trans (hftags t)⟩

/-- What holds at every point of the run. -/
structure Settled (before : Db) (good : ℕ → Prop) (c : system.Config) : Prop where
  kept : (discipline good).Kept c
  labelled : c.Labelled
  linked : Linked before c

lemma Settled.step {before : Db} {t : system.Transition} (h : Settled before good t.before)
    (hs : Step good t) :
    Settled before good t.after := by
  refine ⟨h.kept.step (hs.permits h.labelled), h.labelled.step t.act, ?_⟩
  have hfault : ∀ i e, t.act ≠ .fault i e := by
    intro i e hact
    have hauthoring := hs.authoring
    rw [hact] at hauthoring
    exact hauthoring
  rcases h.kept.guar_run (hs.permits h.labelled) hfault with ⟨i, p, hact, hp, hguar⟩ | ⟨s,
    hworld, hstate⟩
  · obtain ⟨ev, rfl, hhistory, hrelinked⟩ := hguar.history
    have hcalls : t.after.calls = t.before.calls := by
      rcases calls_step t.act t.before with heq | ⟨call, hspawn, -⟩
      · exact heq
      · rw [hact] at hspawn
        cases hspawn
    exact linked_append h.linked (given_append hcalls (getElem?_calls hp) hhistory) hrelinked
  · have hdb : State.db t.after.world.state = State.db t.before.world.state := by
      rw [hworld]
      rcases hstate with rfl | ⟨call, henter⟩ | ⟨now, -, rfl⟩
      · rfl
      · cases henter
        rfl
      · rfl
    have hgiven : given t.after = given t.before ++
        (none : Option (UUID × List String)).toList := by
      rw [given_eq (d := t.after) h.labelled (calls_grow t.act t.before) (by rw [hworld])]
      exact (List.append_nil _).symm
    refine linked_append h.linked hgiven ?_
    rw [hdb]
    exact .refl _

lemma settled_start {s : State} (h : Consistent s) : Settled s.db good (start s) where
  kept := ⟨h, fun i p hp => (by cases hp)⟩
  labelled := labelled_start s
  linked quiz hquiz := ⟨quiz, hquiz, rfl, fun _ => .rfl⟩

lemma length_lt_of_spawn {s : State} {front tail back acts : List system.Act} {call : Call}
    (h : acts = front ++ .spawn call :: tail) (hback : back <+: acts)
    (hlt : front.length < back.length) :
    (run front (start s)).procs.length < (run back (start s)).procs.length := by
  have hfront : front ++ [.spawn call] <+: acts := ⟨tail, by rw [h, List.append_assoc]; rfl⟩
  obtain ⟨rest, rfl⟩ := List.prefix_of_prefix_length_le hfront hback
    (by simpa [Nat.succ_le_iff] using hlt)
  have hspawned : (run (front ++ [.spawn call]) (start s)).procs.length =
      (run front (start s)).procs.length + 1 := by
    rw [run_append, run_cons, run_nil]
    exact List.length_append
  have hgrow := (calls_prefix_run rest (run (front ++ [.spawn call]) (start s))).length_le
  rw [← run_append] at hgrow
  simp only [Config.calls, List.length_map] at hgrow
  omega

lemma spawn_unique {s : State} {acts as bs as' bs' : List system.Act} {call call' : Call}
    (h : acts = as ++ .spawn call :: bs) (h' : acts = as' ++ .spawn call' :: bs')
    (hlength : (run as (start s)).procs.length = (run as' (start s)).procs.length) :
    call = call' ∧ as = as' := by
  rcases Nat.lt_trichotomy as.length as'.length with hlt | heq | hlt
  · have hless := length_lt_of_spawn (s := s) h ⟨_, h'.symm⟩ hlt
    omega
  · obtain ⟨rfl, hrest⟩ := List.append_inj (h.symm.trans h') heq
    cases hrest
    exact ⟨rfl, rfl⟩
  · have hless := length_lt_of_spawn (s := s) h' ⟨_, h.symm⟩ hlt
    omega

end Runs

end SharedTags

/-- The request would return if nothing else ran from the state on. -/
def SucceedsAlone (s : State) (call : Call) : Prop := ((code call).alone exec s).1.isOk = true

/-- What a run has come to: a request ends by its own steps, and one that would have succeeded alone
has succeeded; each name in use has one tag. A request that has returned has given its list to the
quiz that it answers, once, and one that has failed has given none; each quiz has the names of the
last list that was given to it. -/
structure TagsSettled (s : State) (acts : List system.Act) : Prop where
  ends : ∀ i call, (run acts (start s)).calls[i]? = some call →
    ∃ n r, (run (runs i n) (run acts (start s))).procs[i]? = some ⟨call, .done r⟩
  succeeds : ∀ as call bs, acts = as ++ .spawn call :: bs →
    SucceedsAlone (run as (start s)).world.state call →
    ∀ p r, (run acts (start s)).procs[(run as (start s)).procs.length]? = some p →
      p.rest = .done r → r.isOk = true
  tags : ∀ quiz ∈ (State.db (run acts (start s)).world.state).quizzes.rows, ∀ t ∈ quiz.tags,
    (State.db (run acts (start s)).world.state).tags.rows.count t = 1
  gives : ∀ i call r, (run acts (start s)).procs[i]? = some ⟨call, .done r⟩ →
    (own i (run acts (start s)).world.history).filterMap call.gives = call.handed r
  linked : Linked s.db (run acts (start s))

theorem tags_settle {s : State} (hs : Consistent s) {acts : List system.Act}
    (hauthoring : ∀ a ∈ acts, Authoring a)
    (hunshared : ∀ t ∈ transitions (start s) acts, Unshared t) : TagsSettled s acts := by
  have hsettled (good : ℕ → Prop) (hgood : ∀ t ∈ transitions (start s) acts, ∀ call,
    t.act = .spawn call →
      good t.before.procs.length → SharedTags.Acceptable t.before.world.state call) :
      SharedTags.Settled s.db good (run acts (start s)) :=
    (invariant (P := SharedTags.Step good) (fun t ht h => h.step ht)
      (SharedTags.settled_start hs) acts
      fun t ht => ⟨hauthoring _ (act_mem ht), hunshared t ht, hgood t ht⟩).2
  have hrun := hsettled (fun _ => False) fun _ _ _ _ h => h.elim
  refine ⟨fun i call hcall => ?_, fun as call bs hacts halone p r hp hr => ?_,
    fun quiz hquiz t ht => ?_,
    fun i call r hp => ?_, hrun.linked⟩
  · obtain ⟨rest, hproc⟩ := exists_proc hcall
    obtain ⟨n, -, hprocs⟩ := exists_runs_alone (M := system) (fun _ _ => rfl) hproc
    have hlt := (List.getElem?_eq_some_iff.mp hproc).1
    exact ⟨n, _, (congrArg (fun procs => procs[i]?) hprocs).trans (List.getElem?_set_self hlt)⟩
  · have hgood := hsettled (· = (run as (start s)).procs.length) fun t ht call' hact hlength => by
      obtain ⟨as', bs', hsplit, hbefore⟩ := mem_transitions ht
      rw [hact] at hsplit
      rw [hbefore] at hlength ⊢
      obtain ⟨rfl, rfl⟩ := SharedTags.spawn_unique hsplit hacts hlength
      unfold SucceedsAlone at halone
      cases hout : ((code call').alone exec (run as' (start s)).world.state).1 with
      | ok out => exact SharedTags.acceptable_of_alone hout
      | error e =>
        rw [hout] at halone
        cases halone
    obtain ⟨call', rest⟩ := p
    obtain rfl : rest = .done r := hr
    obtain ⟨out, rfl⟩ := (hgood.kept.ensures _ _ hp).1 rfl
    rfl
  · refine List.count_eq_one_of_mem ?_ (hrun.kept.inv.tags quiz hquiz t ht)
    simpa using (State.db (run acts (start s)).world.state).tags.unique
  · exact (hrun.kept.ensures i _ hp).2

end

section Sample

attribute [local instance] Platform.ascii

namespace Sample

def tagged : QuizCreate := ⟨"Another", none, ["tag"], ⟨30000, .private_, 5⟩, [question "c"]⟩

def retagged : QuizUpdate := ⟨none, none, some ["tag", "new"], none, none⟩

lemma consistent_empty : Consistent empty := ⟨nofun, nofun, nofun, nofun⟩

end Sample

open Sample

/-- While a second quiz is created with the tag of the first one, the first one is given one tag
more. -/
def taggedInTurn : List system.Act :=
  .spawn (Call.createQuiz "ada" created) :: runs 0 5 ++ .spawn (Call.createQuiz "ben" tagged) ::
    .spawn (Call.updateQuiz "" "ada" retagged) :: runs 2 5 ++ runs 1 1 ++ runs 2 2 ++
      runs 1 4 ++ runs 2 3

theorem tags_settle_in_turn :
    (State.db (run taggedInTurn (start Sample.empty)).world.state).tags.rows = ["tag", "new"] ∧
      TagsSettled Sample.empty taggedInTurn :=
  ⟨by decide +kernel, tags_settle consistent_empty (by decide +kernel) (by decide +kernel)⟩

/-- Both requests have missed the tag when the first one inserts it. -/
def taggedAtOnce : List system.Act :=
  .spawn (Call.createQuiz "ada" created) :: .spawn (Call.createQuiz "ben" tagged) :: runs 0 1 ++
    runs 1 1 ++ runs 0 4 ++
    runs 1 1

def failed : Option system.Proc → Bool
  | some ⟨_, .done r⟩ => !r.isOk
  | _ => false

theorem concurrent_tags_fail :
    (∀ a ∈ taggedAtOnce, Authoring a) ∧ ¬TagsSettled Sample.empty taggedAtOnce := by
  refine ⟨by decide +kernel, fun h => ?_⟩
  have halone : SucceedsAlone (run ([.spawn (Call.createQuiz "ada" created)] : List system.Act)
    (start Sample.empty)).world.state
      (.createQuiz "ben" tagged) := by
    unfold SucceedsAlone
    decide +kernel
  have hfailed : failed (run taggedAtOnce (start Sample.empty)).procs[1]? = true := by
    decide +kernel
  have hok := h.succeeds [.spawn (Call.createQuiz "ada" created)] _ _ rfl halone
  cases hp : (run taggedAtOnce (start Sample.empty)).procs[1]? with
  | none =>
    rw [hp] at hfailed
    cases hfailed
  | some p =>
    obtain ⟨call, rest⟩ := p
    rw [hp] at hfailed
    cases rest with
    | await o k => cases hfailed
    | done r =>
      have hr := hok _ r hp rfl
      rw [failed, hr] at hfailed
      cases hfailed

end Sample

end Askit.Quizzes

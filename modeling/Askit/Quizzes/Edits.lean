import Askit.Quizzes.EditFacts

/-! Edits of quizzes. A request decides on what it has loaded, and writes when it commits. -/

namespace Askit.Quizzes

open Interleaving Machine Coro Tables
open Game (UUID Time Runtime Dirty changed)

section

variable [Platform]

namespace Edits

variable {call : Call} {i : ℕ} {l : List Ev} {α β : Type}
variable {calls : List Call} {d e : Db} {quiz : Quiz}
variable {s t : State} {history : List Ev}

structure Kept (c : system.Config) : Prop where
  traced : c.Traced Fine fun _ _ _ => True
  labelled : c.Labelled
  facts : Facts c.calls c.world.history c.world.state

variable {c : system.Config}

lemma Facts.append (h : Facts calls history s) {ev : Ev}
    (hev : ∀ quizId rows, rowsRead ev = some (quizId, rows) → ∀ r ∈ rows, BelongsTo s quizId
      r.questionId) :
    Facts calls (history ++ [ev]) s := by
  refine ⟨h.drawn, h.quizId_fk, fun ev' hmem => ?_, h.sound⟩
  rcases List.mem_append.mp hmem with hmem | hmem
  · exact h.read ev' hmem
  · exact List.mem_singleton.mp hmem ▸ hev

lemma Facts.quiet (h : Facts calls history s) {ev : Ev} (hev : rowsRead ev = none) :
    Facts calls (history ++ [ev]) s :=
  h.append fun quizId rows hr => by simp [hev] at hr

lemma Kept.reads (h : Kept c) {call : Call} (hp : c.calls[i]? = some call) {quizId : UUID}
    (hcall : ∀ before j id (r : Except Exn (List QuizQuestion)), Fine call before
      ⟨j, .selectQuestions id, r⟩ →
      id = quizId) :
    ∀ ev ∈ own i c.world.history, ∀ id rows, rowsRead ev = some (id, rows) → id = quizId := by
  intro ev hev id rows hr
  obtain ⟨hmem, rfl⟩ := mem_own.mp hev
  obtain ⟨before, -, call', hp', hfine⟩ := h.traced.history.of_mem hmem
  obtain rfl : call' = call := Option.some.inj (hp'.symm.trans hp)
  obtain ⟨j, o, r⟩ := ev
  cases o with
  | selectQuestions id' =>
    obtain rfl := hcall _ _ _ _ hfine
    cases r <;> cases hr
    rfl
  | _ => cases r <;> cases hr

lemma Kept.run (h : Kept c) {o : Op β} {k : Except Exn β → Handler QuizOut}
    (hp : c.procs[i]? = some ⟨call, .await o k⟩)
    (hund : o.commits → Call.Undisturbed (own i c.world.history) (State.db c.world.state) call) :
    Facts c.calls (c.world.history ++ [⟨i, o, (exec o c.world.state).1⟩]) (exec o c.world.state).2 ∧
      LeavesPublished (State.db c.world.state) (exec o c.world.state).2.db := by
  have hcalls := getElem?_calls hp
  have hmem : call ∈ c.calls := List.mem_of_getElem? hcalls
  have hsub : own i c.world.history ⊆ c.world.history := fun ev hev => (mem_own.mp hev).1
  have hfine := (h.traced.rest i _ hp (exec o c.world.state).1 fun a ha => ⟨_, ha⟩).1
  have hsame : LeavesPublished (State.db c.world.state) (State.db c.world.state) :=
    fun _ _ _ _ => rfl
  cases o with
  | selectQuestions quizId =>
    refine ⟨h.facts.append fun id rows hr => ?_, hsame⟩
    cases hr
    exact fun r => h.facts.belongsTo
  | insertQuiz quiz newTags =>
    obtain ⟨userId, data, rfl, hbody⟩ := hfine
    cases hd : (State.db c.world.state).insertQuiz (State.now c.world.state)
      (State.draws c.world.state)
      quiz newTags with
    | none =>
      simp only [exec, hd]
      exact ⟨h.facts.quiet rfl, hsame⟩
    | some d =>
      simp only [exec, hd]
      obtain ⟨hfacts, hleaves⟩ := h.facts.insert hd hmem hbody
      exact ⟨hfacts.quiet rfl, hleaves⟩
  | commit ch =>
    cases hd : (State.db c.world.state).commit (State.draws c.world.state) ch with
    | error e =>
      simp only [exec, hd]
      exact ⟨h.facts.quiet rfl, hsame⟩
    | ok d =>
      have hc := Db.committed_of_commit hd
      simp only [exec, hd] at hfine ⊢
      cases call with
      | createQuiz => exact hfine.elim
      | updateQuiz quizId userId data =>
        obtain ⟨hfacts, hleaves⟩ :=
          h.facts.update hmem hsub hfine (h.reads hcalls fun _ _ _ _ h => h) (hund rfl) hc
        exact ⟨hfacts.quiet rfl, hleaves⟩
      | setQuizStatus quizId newStatus userId =>
        obtain ⟨hfacts, hleaves⟩ := h.facts.setStatus hfine (hund rfl) hc
        exact ⟨hfacts.quiet rfl, hleaves⟩
  | _ => exact ⟨h.facts.quiet rfl, hsame⟩

omit [Platform] in
lemma rowsRead_fault (o : Op β) (e : Exn) : rowsRead ⟨i, o, .error e⟩ = none := by
  cases o <;> rfl

lemma Kept.step {t : system.Transition} (h : Kept t.before) (hund : Undisturbed t) :
    Kept t.after ∧ LeavesPublished (State.db t.before.world.state)
      (State.db t.after.world.state) := by
  have htraced := h.traced.step h.labelled code_follows t.act
  have hlabelled := h.labelled.step t.act
  obtain ⟨c, a⟩ := t
  simp only [Transition.after] at htraced hlabelled ⊢
  have hm := step_moves a c
  generalize Machine.step a c = d at hm htraced hlabelled
  have hsame : LeavesPublished (State.db c.world.state) (State.db c.world.state) :=
    fun _ _ _ _ => rfl
  cases hm with
  | idle => exact ⟨h, hsame⟩
  | spawn call s admitted =>
    cases admitted
    refine ⟨⟨htraced, hlabelled, ⟨h.facts.drawn, h.facts.quizId_fk, h.facts.read,
      fun quiz hquiz => ?_⟩⟩, hsame⟩
    have hcalls : c.calls <+: (Machine.step (.spawn call) c).calls := calls_grow (.spawn call) c
    exact sound_congr (h.facts.sound quiz hquiz) rfl rfl hcalls.subset .inl
  | run i call o k pending ready =>
    simp only [Undisturbed, pending] at hund
    obtain ⟨hfacts, hleaves⟩ := h.run pending hund
    refine ⟨⟨htraced, hlabelled, ?_⟩, hleaves⟩
    rw [Config.calls, calls_set pending]
    exact hfacts
  | fault i e call o k pending =>
    refine ⟨⟨htraced, hlabelled, ?_⟩, hsame⟩
    rw [Config.calls, calls_set pending]
    exact h.facts.quiet (rowsRead_fault o e)
  | env e =>
    refine ⟨⟨htraced, hlabelled, ⟨h.facts.drawn, h.facts.quizId_fk, ?_, h.facts.sound⟩⟩, hsame⟩
    exact fun ev hev id rows he r hr =>
      (h.facts.read ev hev id rows he r hr).grown ⟨le_refl _, fun _ => .inl⟩

lemma kept_start {s : State} (hq : s.db.quizzes.rows = []) (hr : s.db.questions.rows = []) :
    Kept (start s : system.Config) where
  traced := ⟨fun _ _ h => (by cases h), recorded_nil⟩
  labelled := labelled_start s
  facts := by
    refine ⟨?_, ?_, fun ev h => (by cases h), ?_⟩
    · exact fun q h => by simp [start, hr] at h
    · exact fun q h => by simp [start, hr] at h
    · exact fun q h => by simp [start, hq] at h

end Edits

/-- In every run from an empty database whose commits nothing disturbs, the questions of every quiz
are those of one body, numbered from one and each with a correct answer, a published quiz has some,
and nothing changes what a published quiz contains. -/
theorem edits_keep_quizzes_sound (s : State) (hq : s.db.quizzes.rows = [])
    (hr : s.db.questions.rows = []) (acts : List system.Act)
    (h : ∀ t ∈ transitions (start s) acts, Undisturbed t) :
    ∀ t ∈ transitions (start s) acts,
      (∀ quiz ∈ (State.db t.after.world.state).quizzes.rows,
        Sound t.after.calls (State.db t.after.world.state) quiz) ∧
      LeavesPublished (State.db t.before.world.state) (State.db t.after.world.state) := by
  intro t ht
  have hrun := invariant (fun t hund (hk : Edits.Kept t.before) => (hk.step hund).1)
    (Edits.kept_start hq hr) acts h
  obtain ⟨hbefore, hafter⟩ := hrun.1 t ht
  exact ⟨hafter.facts.sound, (hbefore.step (h t ht)).2⟩

end

section Sample

attribute [local instance] Platform.ascii

namespace Sample

def empty : State := ⟨⟨Table.empty, Table.empty, Table.empty⟩, 0, 0⟩

def question (text : String) : QuizQuestionCreate :=
  ⟨text, 30000, false, [⟨"yes", true⟩, ⟨"no", false⟩]⟩

def created : QuizCreate := ⟨"Quiz", none, ["tag"], ⟨30000, .private_, 5⟩,
      [question "a", question "b"]⟩

def replaced (text : String) : QuizUpdate := ⟨none, none, none, none, some [question text]⟩

end Sample

/-- A quiz is edited, published, taken back and edited again. -/
def editedInTurn : List system.Act :=
  .spawn (Call.createQuiz "ada" Sample.created) :: runs 0 5 ++
    .spawn (Call.updateQuiz "" "ada" (Sample.replaced "c")) :: runs 1 9 ++
    .spawn (Call.setQuizStatus "" .published "ada") :: runs 2 8 ++
    .spawn (Call.setQuizStatus "" .draft "ada") :: runs 3 8 ++
    .spawn (Call.updateQuiz "" "ada" (Sample.replaced "d")) :: runs 4 9

theorem edits_keep_quizzes_sound_in_turn :
    (State.db (run editedInTurn (start Sample.empty)).world.state).questions.rows.map
      QuizQuestion.text = ["d"] ∧
    ∀ t ∈ transitions (start Sample.empty) editedInTurn,
      (∀ quiz ∈ (State.db t.after.world.state).quizzes.rows,
        Sound t.after.calls (State.db t.after.world.state) quiz) ∧
      LeavesPublished (State.db t.before.world.state) (State.db t.after.world.state) :=
  ⟨by decide +kernel,
    edits_keep_quizzes_sound Sample.empty rfl rfl editedInTurn (by decide +kernel)⟩

/-- Two requests have loaded the quiz when the first one commits. -/
def editedAtOnce : List system.Act :=
  .spawn (Call.createQuiz "ada" Sample.created) :: runs 0 5 ++
    .spawn (Call.updateQuiz "" "ada" (Sample.replaced "c")) ::
    .spawn (Call.updateQuiz "" "ada" (Sample.replaced "d")) :: runs 1 3 ++ runs 2 3 ++
      runs 1 6 ++ runs 2 2

theorem concurrent_edits_add_up :
    ¬∀ t ∈ transitions (start Sample.empty) (editedAtOnce ++ [.run 2]),
      (∀ quiz ∈ (State.db t.after.world.state).quizzes.rows,
        Sound t.after.calls (State.db t.after.world.state) quiz) ∧
      LeavesPublished (State.db t.before.world.state) (State.db t.after.world.state) := by
  intro h
  have hlast :=
    (after_last (P := fun c : system.Config => ∀ quiz ∈ (State.db c.world.state).quizzes.rows,
    ((State.db c.world.state).questionsOf quiz.quizId).map QuizQuestion.position =
      List.range' 1 ((State.db c.world.state).questionsOf quiz.quizId).length)
    fun t ht quiz hquiz => ((h t ht).1 quiz hquiz).positions)
  exact absurd hlast (by decide +kernel)

end Sample

end Askit.Quizzes

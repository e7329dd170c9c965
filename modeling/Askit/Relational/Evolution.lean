import Askit.Relational.Agreement
import Askit.Relational.Creation
import Askit.Relational.Deletion
import Askit.Relational.Site

/-! What a request makes of identifiers and records. -/

namespace Askit.Relational

open Interleaving Coro Tables
open Game (UUID Time Runtime GameSession GamePlayer GamePlayerAnswer)
open Auth (User)
open Quizzes (Platform QuizStatus QuizAnswerCreate QuizQuestionCreate QuizCreate QuizUpdate
  NewQuestion Exn newQuestions)

section Runs

variable [Platform]

/-- The identifier is one of those that are drawn from `m` on and before `n`. -/
def Drawn (m n : ℕ) (id : UUID) : Prop := ∃ k, m ≤ k ∧ k < n ∧ Runtime.uuid4 k = id

namespace Drawn

variable {m n m' n' : ℕ} {id : UUID}

lemma mono (h : Drawn m n id) (hm : m' ≤ m) (hn : n ≤ n') : Drawn m' n' id := by
  obtain ⟨k, hmk, hkn, hid⟩ := h
  exact ⟨k, hm.trans hmk, hkn.trans_le hn, hid⟩

lemma next (n : ℕ) : Drawn n (n + 1) (Runtime.uuid4 n) := ⟨n, le_rfl, n.lt_succ_self, rfl⟩

lemma disjoint (h : Drawn 0 m id) : ¬Drawn m n id := by
  rintro ⟨k, hmk, -, hid⟩
  obtain ⟨j, -, hjm, rfl⟩ := h
  obtain rfl := Runtime.uuid4_injective hid
  omega

end Drawn

/-- The new rows have identifiers that are drawn from `m` on and before `n`. -/
def Grows {ρ : Type} (key : ρ → UUID) (m n : ℕ) (old new : List ρ) :
    Prop := ∀ r ∈ new, r ∈ old ∨ Drawn m n (key r)

namespace Grows

variable {ρ : Type} {key : ρ → UUID} {m n l : ℕ} {old new later : List ρ}

lemma of_subset (h : new ⊆ old) : Grows key m n old new := fun _ hr => .inl (h hr)

lemma trans (h : Grows key m n old new) (h' : Grows key n l new later) (hmn : m ≤ n) (hnl : n ≤ l) :
    Grows key m l old later := by
  intro r hr
  rcases h' r hr with hr | hr
  · exact (h r hr).imp_right fun hr => hr.mono le_rfl hnl
  · exact .inr (hr.mono hmn le_rfl)

lemma snoc {r : ρ} (h : Drawn m n (key r)) : Grows key m n old (old ++ [r]) := by
  intro s hs
  rcases List.mem_append.mp hs with hs | hs
  · exact .inl hs
  · exact .inr (List.mem_singleton.mp hs ▸ h)

lemma drawn (h : Grows key m n old new) (hold : ∀ r ∈ old, Drawn 0 m (key r)) (hmn : m ≤ n) :
    ∀ r ∈ new, Drawn 0 n (key r) := by
  intro r hr
  rcases h r hr with hr | hr
  · exact (hold r hr).mono le_rfl hmn
  · exact hr.mono m.zero_le le_rfl

end Grows

structure Edits (p q : Point Database World) : Prop where
  draws : p.world ≤ q.world
  quizzes : Grows id p.world.draws q.world.draws p.seen.quizzes.keys q.seen.quizzes.keys
  questions : Grows QuizQuestion.questionId p.world.draws q.world.draws p.seen.questions.rows
    q.seen.questions.rows
  answers : Grows QuizAnswer.answerId p.world.draws q.world.draws p.seen.answers.rows
    q.seen.answers.rows
  sessions : q.seen.sessions = p.seen.sessions
  players : q.seen.players = p.seen.players
  records : q.seen.records.rows ⊆ p.seen.records.rows
  filled : p.seen.Filled → q.seen.Filled

namespace Edits

instance : Std.Refl Edits :=
  ⟨fun _ => ⟨le_rfl, .of_subset (List.Subset.refl _), .of_subset (List.Subset.refl _),
    .of_subset (List.Subset.refl _), rfl, rfl, List.Subset.refl _, id⟩⟩

instance : IsTrans (Point Database World) Edits :=
  ⟨fun _ _ _ h h' => ⟨h.draws.trans h'.draws, h.quizzes.trans h'.quizzes h.draws h'.draws,
    h.questions.trans h'.questions h.draws h'.draws, h.answers.trans h'.answers h.draws h'.draws,
    h'.sessions.trans h.sessions, h'.players.trans h.players, List.Subset.trans
    h'.records h.records,
    fun hp => h'.filled (h.filled hp)⟩⟩

lemma of_seen {p : Point Database World} {d : Database}
    (hquizzes : d.quizzes.keys ⊆ p.seen.quizzes.keys)
    (hquestions : d.questions.rows ⊆ p.seen.questions.rows)
    (hanswers : d.answers.rows ⊆ p.seen.answers.rows) (hsessions : d.sessions = p.seen.sessions)
    (hplayers : d.players = p.seen.players) (hrecords : d.records.rows ⊆ p.seen.records.rows)
    (hfilled : p.seen.Filled → d.Filled) :
    Edits p { p with seen := d } :=
  ⟨le_rfl, .of_subset hquizzes, .of_subset hquestions, .of_subset hanswers, hsessions, hplayers,
    hrecords, hfilled⟩

variable {p : Point Database World} {d : Database}

lemma insertAnswer {questionId : UUID} {text : String} {isCorrect : Bool}
    (h : Sql.insertAnswer ⟨Runtime.uuid4 p.world.draws, questionId, text, isCorrect⟩
      p.seen = .ok d) :
    Edits p ⟨p.committed, d, p.world.draw⟩ := by
  obtain ⟨table, htable, hrows⟩ := Sql.eq_of_insertAnswer h
  refine ⟨Nat.le_succ _, ?_, ?_, ?_, ?_, ?_, ?_, ?_⟩ <;> dsimp only <;> rw [hrows]
  · exact .of_subset (List.Subset.refl _)
  · exact .of_subset (List.Subset.refl _)
  · dsimp only
    rw [htable]
    exact .snoc (.next _)
  · exact List.Subset.refl _
  · exact id

lemma insertQuestion {quizId : UUID} {text : String} {position : ℕ} {timeLimit : ℤ}
    {allowMultipleAnswers : Bool}
    (h : Sql.insertQuestion ⟨Runtime.uuid4 p.world.draws, quizId, text, position, timeLimit,
      allowMultipleAnswers⟩
      p.seen = .ok d) : Edits p ⟨p.committed, d, p.world.draw⟩ := by
  obtain ⟨-, table, htable, hrows⟩ := Sql.eq_of_insertQuestion h
  refine ⟨Nat.le_succ _, ?_, ?_, ?_, ?_, ?_, ?_, ?_⟩ <;> dsimp only <;> rw [hrows]
  · exact .of_subset (List.Subset.refl _)
  · dsimp only
    rw [htable]
    exact .snoc (.next _)
  · exact .of_subset (List.Subset.refl _)
  · exact List.Subset.refl _
  · exact id

lemma insertQuiz {quiz : Quiz} (h : Sql.insertQuiz quiz p.seen = .ok d)
    (hid : quiz.quizId = Runtime.uuid4 p.world.draws) (hmax : quiz.maxParticipants.isSome) :
    Edits p ⟨p.committed, d, p.world.draw⟩ := by
  obtain ⟨-, table, htable, hrows⟩ := Sql.eq_of_insertQuiz h
  have hkeys : table.keys = p.seen.quizzes.keys ++ [quiz.quizId] := by
    rw [Table.keys, htable, List.map_append]
    rfl
  refine ⟨Nat.le_succ _, ?_, ?_, ?_, ?_, ?_, ?_, ?_⟩ <;> dsimp only <;> rw [hrows]
  · dsimp only
    rw [hkeys]
    exact .snoc (hid ▸ .next _)
  · exact .of_subset (List.Subset.refl _)
  · exact .of_subset (List.Subset.refl _)
  · exact List.Subset.refl _
  · intro hp row hrow
    dsimp only at hrow
    rw [htable] at hrow
    rcases List.mem_append.mp hrow with hrow | hrow
    · exact hp row hrow
    · exact List.mem_singleton.mp hrow ▸ hmax

end Edits

section Parts

variable {quizId userId : UUID}

lemma within_utcnow : Within Edits utcnow := by
  intro p a q h
  obtain ⟨-, rfl⟩ := Yields.world_iff.mp h
  exact Std.Refl.refl p

lemma within_getOrCreateTags (names : List String) : Within Edits (getOrCreateTags names) := by
  intro p tags q h
  obtain ⟨-, hmade⟩ := tagsMade_of_yields h
  refine ⟨hmade.world ▸ le_rfl, ?_, ?_, ?_, ?_, ?_, ?_, ?_⟩ <;> rw [hmade.rows]
  · exact .of_subset (List.Subset.refl _)
  · exact .of_subset (List.Subset.refl _)
  · exact .of_subset (List.Subset.refl _)
  · exact List.Subset.refl _
  · exact id

lemma within_linkTags (tags : List String) : Within Edits (linkTags quizId tags) := by
  intro p u q h
  have hlinked := linked_of_yields h
  refine ⟨hlinked.world ▸ le_rfl, ?_, ?_, ?_, ?_, ?_, ?_, ?_⟩ <;> rw [hlinked.rows]
  · exact .of_subset (List.Subset.refl _)
  · exact .of_subset (List.Subset.refl _)
  · exact .of_subset (List.Subset.refl _)
  · exact List.Subset.refl _
  · exact id

lemma within_addAnswers {questionId : UUID} (data : List QuizAnswerCreate) :
    Within Edits (addAnswers questionId data) := by
  induction data with
  | nil => exact .done _
  | cons data rest ih =>
    intro p answers q h
    obtain ⟨answerId, r, hr, h⟩ := Yields.bind_iff.mp h
    obtain ⟨rfl, rfl⟩ := Yields.world_iff.mp hr
    obtain ⟨_, s, hs, h⟩ := Yields.bind_iff.mp h
    obtain ⟨d, hd, rfl⟩ := Yields.stage_iff.mp hs
    exact IsTrans.trans _ _ _ (Edits.insertAnswer hd) (Within.bind ih (fun _ => .done _) _ _ _ h)

lemma within_addQuestions (data : List NewQuestion) : Within Edits (addQuestions quizId data) := by
  induction data with
  | nil => exact .done _
  | cons data rest ih =>
    intro p added q h
    obtain ⟨questionId, r, hr, h⟩ := Yields.bind_iff.mp h
    obtain ⟨rfl, rfl⟩ := Yields.world_iff.mp hr
    obtain ⟨_, s, hs, h⟩ := Yields.bind_iff.mp h
    obtain ⟨d, hd, rfl⟩ := Yields.stage_iff.mp hs
    exact IsTrans.trans _ _ _ (Edits.insertQuestion hd)
      (Within.bind (within_addAnswers _) (fun _ => .bind ih fun _ => .done _) _ _ _ h)

lemma within_newQuiz (data : QuizCreate) : Within Edits (newQuiz userId data) := by
  refine .bind (within_getOrCreateTags _) fun tags => .bind (.done _) fun questions =>
    .bind within_utcnow fun now => ?_
  intro p quiz q h
  obtain ⟨id, r, hr, h⟩ := Yields.bind_iff.mp h
  obtain ⟨rfl, rfl⟩ := Yields.world_iff.mp hr
  obtain ⟨_, s, hs, h⟩ := Yields.bind_iff.mp h
  obtain ⟨d, hd, rfl⟩ := Yields.stage_iff.mp hs
  exact IsTrans.trans _ _ _ (Edits.insertQuiz hd rfl rfl)
    (Within.bind (within_addQuestions _) (fun _ => .bind (within_linkTags _) fun _ =>
      .done _) _ _ _ h)

lemma uncommitted_newQuiz (data : QuizCreate) : Uncommitted (newQuiz userId data) :=
  .bind (uncommitted_getOrCreateTags _) fun _ => .bind (.done _) fun _ =>
    .bind uncommitted_utcnow fun _ =>
    .bind uncommitted_uuid4 fun _ => .bind (.perform trivial) fun _ =>
      .bind (uncommitted_addQuestions _ _) fun _ =>
    .bind (uncommitted_linkTags _ _) fun _ => .done _

lemma within_updateQuiz (c : QuizSet) : Within Edits (stage (Sql.updateQuiz quizId c)) := by
  refine .stage fun p d h => ?_
  have hupdated := Sql.quizUpdated_of_ok h
  refine .of_seen ?_ ?_ ?_ hupdated.sessions hupdated.players ?_ fun hp row hrow => ?_
  · rw [hupdated.quizzes, Table.keys_modify]
    exact List.Subset.refl _
  · rw [hupdated.questions]
    exact List.Subset.refl _
  · rw [hupdated.answers]
    exact List.Subset.refl _
  · rw [hupdated.records]
    exact List.Subset.refl _
  · rw [hupdated.quizzes, Table.rows_modify] at hrow
    obtain ⟨old, hold, rfl⟩ := List.mem_map.mp hrow
    split
    · exact QuizSet.filled_apply c (hp old hold)
    · exact hp old hold

lemma within_replaceTags (loaded : List String) (given : Option (List String)) :
    Within Edits (replaceTags quizId loaded given) := by
  cases given with
  | none => exact .done _
  | some names =>
    refine .bind (within_getOrCreateTags names) fun tags => .bind (.stage fun p d h => ?_) fun _ =>
      .bind (within_linkTags _) fun _ => .done _
    obtain rfl := Except.ok.inj h
    exact .of_seen (List.Subset.refl _) (List.Subset.refl _) (List.Subset.refl _) rfl rfl
      (List.Subset.refl _) id

lemma within_replaceQuestions (loaded : List LoadedQuestion)
    (given : Option (List QuizQuestionCreate)) :
    Within Edits (replaceQuestions quizId loaded given) := by
  cases given with
  | none => exact .done _
  | some questions =>
    refine .bind (.stage fun p d h => ?_) fun _ => .bind (.stage fun p d h => ?_) fun _ =>
      .bind .flush fun _ =>
      .bind (.done _) fun added => within_addQuestions added
    · obtain rfl := Except.ok.inj h
      exact .of_seen (List.Subset.refl _) (List.Subset.refl _) (List.filter_subset_self _) rfl rfl
        (List.Subset.refl _) id
    · have hrows := Sql.eq_of_deleteQuestions h
      refine .of_seen ?_ ?_ ?_ ?_ ?_ ?_ ?_ <;> rw [hrows]
      · exact List.Subset.refl _
      · exact List.filter_subset_self _
      · exact List.Subset.refl _
      · exact List.filter_subset_self _
      · exact id

lemma within_editQuiz (data : QuizUpdate) : Within Edits (editQuiz quizId userId data) := by
  refine .bind (.select _) fun found => ?_
  cases found with
  | none => exact .done _
  | some quiz =>
    exact .bind (.require _ _) fun _ => .bind (.require _ _) fun _ =>
      .bind (within_updateQuiz _) fun _ =>
      .bind (within_replaceTags _ _) fun _ => .bind (within_updateQuiz _) fun _ =>
      .bind (within_replaceQuestions _ _) fun _ => .bind within_utcnow fun _ =>
        .bind (within_updateQuiz _) fun _ =>
      .done _

lemma within_changeStatus (newStatus : QuizStatus) :
    Within Edits (changeStatus quizId newStatus userId) := by
  refine .bind (.select _) fun found => ?_
  cases found with
  | none => exact .done _
  | some quiz =>
    exact .bind (.require _ _) fun _ => .bind (.require _ _) fun _ => .bind within_utcnow fun _ =>
      .bind (within_updateQuiz _) fun _ => .done _

end Parts

structure SameRoom (g h : GameSession) : Prop where
  sessionId : g.sessionId = h.sessionId
  roomCode : g.roomCode = h.roomCode
  quizId : g.quizId = h.quizId

omit [Platform] in
lemma SameRoom.refl (g : GameSession) : SameRoom g g := ⟨rfl, rfl, rfl⟩

structure Evolves (d : Rows) (m : ℕ) (e : Rows) (n : ℕ) : Prop where
  draws : m ≤ n
  quizzes : Grows id m n d.quizzes.keys e.quizzes.keys
  questions : Grows QuizQuestion.questionId m n d.questions.rows e.questions.rows
  answers : Grows QuizAnswer.answerId m n d.answers.rows e.answers.rows
  sessions : ∀ g ∈ e.sessions.rows, (∃ f ∈ d.sessions.rows, SameRoom f g) ∨
    g.sessionId ∉ d.sessions.keys
  kept : ∀ f ∈ d.sessions.rows, ∀ q ∈ e.questions.rows, q ∈ d.questions.rows → q.quizId = f.quizId →
    ∃ g ∈ e.sessions.rows, SameRoom f g
  players : ∀ p ∈ e.players.rows,
    (∃ r ∈ d.players.rows, r.playerId = p.playerId ∧ r.sessionId = p.sessionId) ∨
    Drawn m n p.playerId
  records : e.records.rows ⊆ d.records.rows
  filled : d.Filled → e.Filled

namespace Evolves

variable {d e : Rows} {m n : ℕ}

lemma of_edits {p q : Point Database World} (h : Edits p q) :
    Evolves p.seen.toRows p.world.draws q.seen.toRows q.world.draws where
  draws := h.draws
  quizzes := h.quizzes
  questions := h.questions
  answers := h.answers
  sessions g hg := .inl ⟨g, h.sessions ▸ hg, .refl g⟩
  kept f hf _ _ _ _ := ⟨f, h.sessions ▸ hf, .refl f⟩
  players p hp := .inl ⟨p, h.players ▸ hp, rfl, rfl⟩
  records := h.records
  filled := h.filled

lemma of_eq (hmn : m ≤ n) (hquizzes : e.quizzes = d.quizzes)
    (hquestions : e.questions = d.questions) (hanswers : e.answers = d.answers)
    (hsessions : e.sessions = d.sessions) (hplayers : e.players = d.players)
    (hrecords : e.records = d.records) : Evolves d m e n where
  draws := hmn
  quizzes := .of_subset (hquizzes ▸ List.Subset.refl _)
  questions := .of_subset (hquestions ▸ List.Subset.refl _)
  answers := .of_subset (hanswers ▸ List.Subset.refl _)
  sessions g hg := .inl ⟨g, hsessions ▸ hg, .refl g⟩
  kept f hf _ _ _ _ := ⟨f, hsessions ▸ hf, .refl f⟩
  players p hp := .inl ⟨p, hplayers ▸ hp, rfl, rfl⟩
  records := hrecords ▸ List.Subset.refl _
  filled hd quiz hquiz := hd quiz (hquizzes ▸ hquiz)

lemma of_deleted {quizId : UUID} (h : Deleted quizId d e) (m : ℕ) : Evolves d m e m where
  draws := le_rfl
  quizzes := .of_subset (by
    rw [Table.keys, h.quizzes]
    exact List.map_subset _ (List.filter_subset_self _))
  questions := .of_subset (h.questions ▸ List.filter_subset_self _)
  answers := .of_subset (h.answers ▸ List.filter_subset_self _)
  sessions g hg := by
    rw [h.sessions] at hg
    exact .inl ⟨g, (List.mem_filter.mp hg).1, .refl g⟩
  kept f hf q hq _ hquiz := by
    rw [h.questions] at hq
    refine ⟨f, ?_, .refl f⟩
    rw [h.sessions]
    exact List.mem_filter.mpr ⟨hf, hquiz ▸ (List.mem_filter.mp hq).2⟩
  players p hp := by
    rw [h.players] at hp
    exact .inl ⟨p, (List.mem_filter.mp hp).1, rfl, rfl⟩
  records := h.records ▸ List.filter_subset_self _
  filled hd quiz hquiz := hd quiz (List.mem_of_mem_filter (h.quizzes ▸ hquiz))

end Evolves

end Runs

end Askit.Relational

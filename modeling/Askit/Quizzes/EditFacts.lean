import Askit.Quizzes.EditReads

/-! What a commit makes of the quizzes, told from what it has read. -/

namespace Askit.Quizzes

open Interleaving Machine Coro Tables
open Game (UUID Time Runtime Dirty changed)

section

variable [Platform]

namespace Edits

variable {call : Call} {i : ℕ} {l : List Ev} {α β : Type}

omit [Platform] in
lemma newQuestions_eq_ok {position : ℕ} {body : List QuizQuestionCreate}
    {questions : List NewQuestion} (h : newQuestions position body = .ok questions) :
    questions.map NewQuestion.position = List.range' position body.length ∧
      questions.map NewQuestion.content = body ∧
      ∀ q ∈ questions, ∃ a ∈ q.answers, a.isCorrect = true := by
  induction body generalizing position questions with
  | nil =>
    cases h
    simp
  | cons data body ih =>
    simp only [newQuestions] at h
    split_ifs at h with hcorrect
    cases hrest : newQuestions (position + 1) body with
    | error e => simp [hrest, Except.map] at h
    | ok rest =>
      simp only [hrest, Except.map, Except.ok.injEq] at h
      subst h
      obtain ⟨hposition, hcontent, hall⟩ := ih hrest
      refine ⟨by simp [hposition, List.range'_succ], by simp [hcontent, NewQuestion.content], ?_⟩
      intro q hq
      rcases List.mem_cons.mp hq with rfl | hq
      · simpa using hcorrect
      · exact hall q hq

variable {calls : List Call} {d e : Db} {quiz : Quiz}

lemma sound_of_body {body : List QuizQuestionCreate} {questions : List NewQuestion} (draws : ℕ)
    (hbody : newQuestions 1 body = .ok questions) (hcall : call ∈ calls)
    (hfor : call.questionsFor quiz.quizId = some body)
    (hd : d.questionsOf quiz.quizId = flushQuestions quiz.quizId draws questions)
    (hp : quiz.status ≠ .published) : Sound calls d quiz := by
  obtain ⟨hposition, hcontent, hcorrect⟩ := newQuestions_eq_ok hbody
  have hlength : (flushQuestions quiz.quizId draws questions).length = body.length := by
    rw [← List.length_map (f := QuizQuestion.content), content_flushQuestions, hcontent]
  refine ⟨?_, ⟨call, hcall, ?_⟩, ?_, fun h => absurd h hp⟩
  · rw [hd, position_flushQuestions, hposition, hlength]
  · rw [hd, content_flushQuestions, hcontent, hfor]
  · intro q hq
    have hq' : q.content ∈ questions.map NewQuestion.content := by
      rw [← @content_flushQuestions _ quiz.quizId draws, ← hd]
      exact List.mem_map_of_mem hq
    obtain ⟨n, hn, heq⟩ := List.mem_map.mp hq'
    obtain ⟨a, ha, hc⟩ := hcorrect n hn
    have hanswers : n.answers = q.answers.map fun a => ⟨a.text, a.isCorrect⟩ :=
      congrArg QuizQuestionCreate.answers heq
    rw [hanswers, List.mem_map] at ha
    obtain ⟨b, hb, rfl⟩ := ha
    exact ⟨b, hb, hc⟩

omit [Platform] in
lemma sound_congr {quiz' : Quiz} {calls' : List Call} (h : Sound calls d quiz)
    (hid : quiz'.quizId = quiz.quizId) (hd : e.questionsOf quiz.quizId = d.questionsOf quiz.quizId)
    (hcalls : calls ⊆ calls')
    (hp : quiz'.status = .published → quiz.status = .published ∨ d.questionsOf quiz.quizId ≠ []) :
    Sound calls' e quiz' := by
  obtain ⟨call, hcall, hfor⟩ := h.fromBody
  refine ⟨?_, ⟨call, hcalls hcall, ?_⟩, ?_, ?_⟩
  · rw [hid, hd]
    exact h.positions
  · rw [hid, hd]
    exact hfor
  · rw [hid, hd]
    exact h.correct
  · rw [hid, hd]
    exact fun hq => (hp hq).elim h.nonempty id

structure BelongsTo (s : State) (quizId questionId : UUID) : Prop where
  drawn : ∃ k < s.draws, questionId = Runtime.uuid4 k
  quiz : ∀ q ∈ s.db.questions.rows, q.questionId = questionId → q.quizId = quizId

structure Facts (calls : List Call) (history : List Ev) (s : State) : Prop where
  drawn : ∀ q ∈ s.db.questions.rows, ∃ k < s.draws, q.questionId = Runtime.uuid4 k
  quizId_fk : ∀ q ∈ s.db.questions.rows, q.quizId ∈ s.db.quizzes.rows.map Quiz.quizId
  read : ∀ ev ∈ history, ∀ quizId rows, rowsRead ev = some (quizId, rows) →
    ∀ r ∈ rows, BelongsTo s quizId r.questionId
  sound : ∀ quiz ∈ s.db.quizzes.rows, Sound calls s.db quiz

variable {s t : State} {history : List Ev}

structure Grown (s t : State) : Prop where
  draws : s.draws ≤ t.draws
  questions : ∀ q ∈ t.db.questions.rows, q ∈ s.db.questions.rows ∨
    ∃ k, s.draws ≤ k ∧ k < t.draws ∧ q.questionId = Runtime.uuid4 k

lemma BelongsTo.grown {quizId questionId : UUID} (h : BelongsTo s quizId questionId)
    (hg : Grown s t) :
    BelongsTo t quizId questionId := by
  obtain ⟨k, hk, rfl⟩ := h.drawn
  refine ⟨⟨k, Nat.lt_of_lt_of_le hk hg.draws, rfl⟩, fun q hq hid => ?_⟩
  rcases hg.questions q hq with hq | ⟨j, hj, -, hqj⟩
  · exact h.quiz q hq hid
  · have hkj : j = k := Runtime.uuid4_injective (hqj.symm.trans hid)
    omega

lemma Facts.drawn_grown (h : Facts calls history s) (hg : Grown s t) :
    ∀ q ∈ t.db.questions.rows, ∃ k < t.draws, q.questionId = Runtime.uuid4 k := by
  intro q hq
  rcases hg.questions q hq with hq | ⟨k, -, hk, hqk⟩
  · obtain ⟨k, hk, hqk⟩ := h.drawn q hq
    exact ⟨k, Nat.lt_of_lt_of_le hk hg.draws, hqk⟩
  · exact ⟨k, hk, hqk⟩

lemma mem_selectQuestions {quizId : UUID} {r : QuizQuestion} (h : r ∈ d.selectQuestions quizId) :
    ∃ q ∈ d.questionsOf quizId, q.questionId = r.questionId := by
  obtain ⟨q, hq, rfl⟩ := List.mem_map.mp h
  have hmem := (List.perm_insertionSort _ _).mem_iff.mp hq
  exact ⟨q, (Platform.arrange_perm _).mem_iff.mp hmem, rfl⟩

lemma Facts.belongsTo (h : Facts calls history s) {quizId : UUID} {r : QuizQuestion}
    (hr : r ∈ s.db.selectQuestions quizId) : BelongsTo s quizId r.questionId := by
  obtain ⟨q, hq, hid⟩ := mem_selectQuestions hr
  obtain ⟨hrow, hquiz⟩ := List.mem_filter.mp hq
  rw [← hid]
  refine ⟨h.drawn q hrow, fun q' hq' heq => ?_⟩
  obtain rfl := List.inj_on_of_nodup_map s.db.questions.unique hq' hrow heq
  simpa using hquiz

lemma Facts.read_belongs (h : Facts calls history s) {quizId id : UUID} {l : List Ev}
    (hl : l ⊆ history) (hf : ∀ ev ∈ l, ∀ id rows, rowsRead ev = some (id, rows) → id = quizId)
    (hid : id ∈ questionsRead l) : BelongsTo s quizId id := by
  obtain ⟨ev, hev, hid⟩ := List.mem_flatMap.mp hid
  cases hr : rowsRead ev with
  | none => simp [idsRead, hr] at hid
  | some v =>
    obtain ⟨id', rows⟩ := v
    simp only [idsRead, hr, Option.map_some, Option.getD_some] at hid
    obtain ⟨row, hrow, rfl⟩ := List.mem_map.mp hid
    obtain rfl := hf ev hev id' rows hr
    exact h.read ev (hl hev) id' rows hr row hrow

lemma filter_flushed_self {quizId : UUID} {draws : ℕ} {questions : List NewQuestion} :
    ((flushQuestions quizId draws questions).filter fun q => q.quizId = quizId) =
      flushQuestions quizId draws questions := by
  rw [List.filter_eq_self]
  exact fun q hq => by simpa using quizId_of_flushed hq

lemma filter_flushed_of_ne {quizId id : UUID} {draws : ℕ} {questions : List NewQuestion}
    (h : id ≠ quizId) :
    ((flushQuestions quizId draws questions).filter fun q => q.quizId = id) = [] := by
  rw [List.filter_eq_nil_iff]
  intro q hq
  rw [quizId_of_flushed hq]
  simpa using h.symm

lemma Facts.insert (h : Facts calls history s) {quiz : NewQuiz} {newTags : List String}
    (hins : s.db.insertQuiz s.now s.draws quiz newTags = some d) {userId : UUID}
    {data : QuizCreate} (hcall : .createQuiz userId data ∈ calls)
    (hbody : newQuestions 1 data.questions = .ok quiz.questions) :
    Facts calls history { s with db := d, draws := s.draws + 1 + identifiers quiz.questions } ∧
      LeavesPublished s.db d := by
  have hd := Db.inserted_of_insertQuiz hins
  have hof (id : UUID) : d.questionsOf id = s.db.questionsOf id ++
      (flushQuestions (Runtime.uuid4 s.draws) (s.draws + 1) quiz.questions).filter fun q =>
        q.quizId = id := by
    simp [Db.questionsOf, hd.questions, List.filter_append]
  have hof_ne {id : UUID} (hid : id ∈ s.db.quizzes.rows.map Quiz.quizId) :
      d.questionsOf id = s.db.questionsOf id := by
    rw [hof, filter_flushed_of_ne, List.append_nil]
    rintro rfl
    exact hd.fresh hid
  have hof_new : d.questionsOf (Runtime.uuid4 s.draws) =
      flushQuestions (Runtime.uuid4 s.draws) (s.draws + 1) quiz.questions := by
    have hnone : s.db.questionsOf (Runtime.uuid4 s.draws) = [] := by
      rw [Db.questionsOf, List.filter_eq_nil_iff]
      intro q hq hid
      exact hd.fresh (of_decide_eq_true hid ▸ h.quizId_fk q hq)
    rw [hof, hnone, filter_flushed_self, List.nil_append]
  have hgrown : Grown s { s with db := d, draws := s.draws + 1 + identifiers quiz.questions } := by
    refine ⟨by simp only; omega, fun q hq => ?_⟩
    rw [hd.questions, List.mem_append] at hq
    refine hq.imp_right fun hq => ?_
    obtain ⟨k, hlo, hhi, hk⟩ := drawn_of_flushed hq
    exact ⟨k, by omega, hhi, hk⟩
  refine ⟨⟨h.drawn_grown hgrown, ?_, fun ev hev id rows he r hr =>
    (h.read ev hev id rows he r hr).grown hgrown, ?_⟩, ?_⟩
  · intro q hq
    rw [hd.quizzes, List.map_append, List.mem_append]
    rw [hd.questions, List.mem_append] at hq
    rcases hq with hq | hq
    · exact .inl (h.quizId_fk q hq)
    · exact .inr (by simp [quizId_of_flushed hq])
  · intro row hrow
    rw [hd.quizzes, List.mem_append, List.mem_singleton] at hrow
    rcases hrow with hrow | rfl
    · exact sound_congr (h.sound row hrow) rfl (hof_ne (List.mem_map_of_mem hrow))
        (List.Subset.refl _) .inl
    · exact sound_of_body _ hbody hcall rfl hof_new fun hp => by cases hp
  · intro id row hrow _
    have hmem := Table.mem_get? hrow
    have hid := Table.key_get? hrow
    have hrow' : d.quizzes.get? id = some row := by
      rw [← hid]
      exact Table.get?_of_mem (hd.quizzes ▸ List.mem_append_left _ hmem)
    rw [Db.content, Db.content, hrow, hrow', hof_ne (hid ▸ List.mem_map_of_mem hmem)]

/-- A commit that replaces the questions it has read leaves the quiz with those of its body
alone. -/
structure Replaces (s : State) (c : Changes) (d : Db) : Prop where
  others : ∀ id ≠ c.quiz.loaded.quizId, d.questionsOf id = s.db.questionsOf id
  own : d.questionsOf c.quiz.loaded.quizId =
    (s.db.questionsOf c.quiz.loaded.quizId).filter (fun q => q.questionId ∉ c.removed) ++
      flushQuestions c.quiz.loaded.quizId s.draws c.added

lemma replaces_of_commit {c : Changes} (hc : Db.Committed s.db s.draws c d)
    (hremoved : ∀ id ∈ c.removed, BelongsTo s c.quiz.loaded.quizId id) : Replaces s c d := by
  refine ⟨fun id hid => ?_, ?_⟩
  · rw [Db.questionsOf_of_rows hc.questions, filter_flushed_of_ne hid, List.append_nil,
      List.filter_eq_self]
    intro q hq
    obtain ⟨hrow, hquiz⟩ := List.mem_filter.mp hq
    have hne : q.questionId ∉ c.removed := fun hr => by
      have hown := (hremoved _ hr).quiz q hrow rfl
      exact hid ((of_decide_eq_true hquiz).symm.trans hown)
    simpa using hne
  · rw [Db.questionsOf_of_rows hc.questions, filter_flushed_self]

lemma grown_of_commit {c : Changes} (hc : Db.Committed s.db s.draws c d) :
    Grown s { s with db := d, draws := s.draws + identifiers c.added } := by
  refine ⟨by simp only; omega, fun q hq => ?_⟩
  rw [hc.questions, List.mem_append] at hq
  rcases hq with hq | hq
  · exact .inl (List.mem_filter.mp hq).1
  · obtain ⟨k, hlo, hhi, hk⟩ := drawn_of_flushed hq
    exact .inr ⟨k, hlo, hhi, hk⟩

lemma Facts.commit (h : Facts calls history s) {c : Changes} (hc : Db.Committed s.db s.draws c d)
    (hr : Replaces s c d)
    (hsound : ∀ quiz ∈ s.db.quizzes.rows, quiz.quizId = c.quiz.loaded.quizId →
      Sound calls d (Quiz.flush c.quiz quiz)) :
    Facts calls history { s with db := d, draws := s.draws + identifiers c.added } := by
  have hgrown := grown_of_commit hc
  have hkeys : d.quizzes.rows.map Quiz.quizId = s.db.quizzes.rows.map Quiz.quizId := by
    rw [hc.quizzes, Table.rows_modify, List.map_map]
    apply List.map_congr_left
    intro row _
    simp only [Function.comp]
    split <;> rfl
  refine ⟨h.drawn_grown hgrown, ?_, fun ev hev id rows he r hr =>
    (h.read ev hev id rows he r hr).grown hgrown, ?_⟩
  · intro q hq
    rw [hkeys]
    rw [hc.questions, List.mem_append] at hq
    rcases hq with hq | hq
    · exact h.quizId_fk q (List.mem_filter.mp hq).1
    · obtain ⟨row, hrow⟩ := Option.isSome_iff_exists.mp hc.found
      rw [quizId_of_flushed hq, ← Table.key_get? hrow]
      exact List.mem_map_of_mem (Table.mem_get? hrow)
  · intro row hrow
    rw [hc.quizzes, Table.rows_modify, List.mem_map] at hrow
    obtain ⟨old, hold, rfl⟩ := hrow
    split
    case isTrue heq => exact hsound old hold heq
    case isFalse hne =>
      exact sound_congr (h.sound old hold) rfl (hr.others _ hne) (List.Subset.refl _) .inl

lemma leavesPublished_of_commit {c : Changes} (hc : Db.Committed s.db s.draws c d)
    (hr : Replaces s c d)
    (hown : ∀ quiz, s.db.quizzes.get? c.quiz.loaded.quizId = some quiz → quiz.status = .published →
      d.content c.quiz.loaded.quizId = s.db.content c.quiz.loaded.quizId) :
      LeavesPublished s.db d := by
  intro id quiz hquiz hp
  by_cases hid : id = c.quiz.loaded.quizId
  · subst hid
    exact hown quiz hquiz hp
  · rw [Db.content, Db.content, hr.others id hid, hc.quizzes, Table.get?_modify_of_ne _ _ _ hid]

lemma Facts.update (h : Facts calls history s) {c : Changes} {i : ℕ}
    {r : Except Exn (List QuizQuestion)} {quizId userId : UUID} {data : QuizUpdate}
    (hcall : .updateQuiz quizId userId data ∈ calls) (hl : l ⊆ history)
    (hfine : Fine (.updateQuiz quizId userId data) l ⟨i, .commit c, r⟩)
    (hreads : ∀ ev ∈ l, ∀ id rows, rowsRead ev = some (id, rows) → id = quizId)
    (hund : Call.Undisturbed l s.db (.updateQuiz quizId userId data))
    (hc : Db.Committed s.db s.draws c d) :
    Facts calls history { s with db := d, draws := s.draws + identifiers c.added } ∧
      LeavesPublished s.db d := by
  obtain ⟨rfl, hstatus, ⟨read, hread, hdraft⟩, hquestions⟩ := hfine
  obtain ⟨hsame, hall⟩ := hund
  have hdraft (quiz : Quiz) (hquiz : quiz ∈ s.db.quizzes.rows)
    (hid : quiz.quizId = c.quiz.loaded.quizId) :
      quiz.status = .draft := by
    have hne : quiz.status ≠ .published := by rwa [hsame quiz hquiz hid read hread]
    cases hq : quiz.status with
    | draft => rfl
    | published => exact (hne hq).elim
  have hremoved : ∀ id ∈ c.removed, BelongsTo s c.quiz.loaded.quizId id := by
    intro id hid
    cases hq : data.questions with
    | none =>
      rw [hq] at hquestions
      rw [hquestions.1] at hid
      cases hid
    | some questions =>
      rw [hq] at hquestions
      exact h.read_belongs hl hreads (hquestions.1 ▸ hid)
  have hr := replaces_of_commit hc hremoved
  have hflush (quiz : Quiz) (hquiz : quiz ∈ s.db.quizzes.rows)
    (hid : quiz.quizId = c.quiz.loaded.quizId) :
      (Quiz.flush c.quiz quiz).status = .draft := by
    simp [Quiz.flush, hstatus, changed, hdraft quiz hquiz hid]
  refine ⟨h.commit hc hr fun quiz hquiz hid => ?_, leavesPublished_of_commit hc hr
    fun quiz hquiz hp => ?_⟩
  · have hown := hr.own
    cases hq : data.questions with
    | none =>
      rw [hq] at hquestions
      rw [hquestions.1, hquestions.2] at hown
      refine sound_congr (h.sound quiz hquiz) rfl ?_ (List.Subset.refl _) ?_
      · rw [hid, hown]
        simp [flushQuestions]
      · rw [hflush quiz hquiz hid]
        exact fun hp => by cases hp
    | some questions =>
      rw [hq] at hquestions
      have hnone : (s.db.questionsOf c.quiz.loaded.quizId).filter
          (fun q => q.questionId ∉ c.removed) = [] := by
        rw [List.filter_eq_nil_iff, hquestions.1]
        intro q hq'
        simpa using hall (by simp [hq]) q hq'
      rw [hnone, List.nil_append] at hown
      refine sound_of_body s.draws hquestions.2 hcall ?_ ?_ ?_
      · simp [Call.questionsFor, hid, hq]
      · rw [Quiz.quizId_flush, hid]
        exact hown
      · rw [hflush quiz hquiz hid]
        exact fun hp => by cases hp
  · have hd := hdraft quiz (Table.mem_get? hquiz) (Table.key_get? hquiz)
    rw [hp] at hd
    cases hd

lemma Facts.setStatus (h : Facts calls history s) {c : Changes} {i : ℕ}
    {r : Except Exn (List QuizQuestion)} {quizId userId : UUID} {newStatus : QuizStatus}
    (hfine : Fine (.setQuizStatus quizId newStatus userId) l ⟨i, .commit c, r⟩)
    (hund : Call.Undisturbed l s.db (.setQuizStatus quizId newStatus userId))
    (hc : Db.Committed s.db s.draws c d) :
    Facts calls history { s with db := d, draws := s.draws + identifiers c.added } ∧
      LeavesPublished s.db d := by
  obtain ⟨hsome, loaded, now, rfl, rfl⟩ := hfine
  have hr := replaces_of_commit hc fun id hid => (by cases hid)
  have hown : d.questionsOf loaded.quizId = s.db.questionsOf loaded.quizId := by
    simpa [flushQuestions] using hr.own
  refine ⟨h.commit hc hr fun quiz hquiz hid => ?_, leavesPublished_of_commit hc hr
    fun quiz hquiz _ => ?_⟩
  · refine sound_congr (h.sound quiz hquiz) rfl (hid ▸ hown) (List.Subset.refl _) fun hp => ?_
    simp only [Quiz.flush, changed] at hp
    split_ifs at hp with hs
    · exact .inl hp
    · exact .inr (hid ▸ hund hp (hsome hp))
  · rw [Db.content, Db.content, hown, hc.quizzes, Table.get?_modify_self, hquiz]
    simp [Quiz.flush, changed]

end Edits

end

end Askit.Quizzes

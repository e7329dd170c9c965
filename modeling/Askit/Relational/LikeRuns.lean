import Askit.Relational.LikeTables

/-! The requests of a user on two databases that differ in the quizzes of others. -/

namespace Askit.Relational

open Interleaving Coro Tables
open Game (UUID Time Runtime)
open Auth (User)
open Quizzes (Platform QuizStatus QuizAnswerCreate QuizQuestionCreate QuizCreate QuizUpdate
  QuizOut QuizExportOut
  NewQuestion Exn TagName newQuestions)

section Runs

variable [Platform]

section Programs

variable {userId quizId : UUID} {ks qs : List UUID} {ts : List String}

abbrev Base (userId : UUID) : World → Database → Database → Prop := Ready userId [] [] []

lemma twin_uuid4 : Twin (Base userId) (Ready userId ks qs ts)
    (fun id w d e => Ready userId ks qs ts w d e ∧ New id w d.toRows ∧ New id w e.toRows)
      uuid4 uuid4 :=
  .world (fun _ _ _ h => h.draw.1) fun _ _ _ h => h.draw

lemma twin_utcnow :
    Twin (Base userId) (Ready userId ks qs ts) (fun _ => Ready userId ks qs ts) utcnow utcnow :=
  .world (fun _ _ _ h => h) fun _ _ _ h => h

lemma twin_createTag {w : World} {d e : Database} (h : Ready userId ks qs ts w d e)
    (name : String) :
    Twin (Base userId) (fun w₁ d₁ e₁ => w₁ = w ∧ d₁ = d ∧ e₁ = e)
      (fun _ => Ready userId ks qs (name :: ts))
      (createTag name (d.tags.get? name)) (createTag name (e.tags.get? name)) := by
  have hwritten (o : Option String) (v : View Database Exn World) :
    (createTag name o).alone View.exec v =
      (.ok (), { v with seen := v.seen.bind (made name o) }) := by
    cases o with
    | none => rfl
    | some t =>
      obtain ⟨c, seen, w⟩ := v
      cases seen <;> rfl
  rintro ⟨c, seen, w₁⟩ ⟨c', seen', w₁'⟩ hv
  obtain rfl : w₁' = w₁ := hv.world
  rw [hwritten, hwritten]
  refine .ok ⟨rfl, hv.committed, ?_⟩
  cases hv.seen with
  | error err => exact .error err
  | ok hd =>
    obtain ⟨rfl, rfl, rfl⟩ := hd
    exact h.made_seen name

lemma twin_getOrCreateTags (names : List String) : Twin (Base userId) (Ready userId ks qs ts)
    (fun tags => Ready userId ks qs (tags ++ ts)) (getOrCreateTags names)
      (getOrCreateTags names) := by
  induction names generalizing ts with
  | nil => exact .pure _ fun _ _ _ h => h
  | cons name names ih =>
    refine .select_bind fun w d e h => .bind (twin_createTag h name) fun _ => .bind ih fun tags =>
      .pure _ fun w d e h => ?_
    refine h.mono le_rfl (List.Subset.refl _) (List.Subset.refl _) fun t ht => ?_
    simp only [List.cons_append, List.mem_append, List.mem_cons] at ht ⊢
    tauto

lemma twin_linkTags {tags : List String} (hquiz : quizId ∈ ks) (htags : tags ⊆ ts) :
    Twin (Base userId)
    (Ready userId ks qs ts) (fun _ => Ready userId ks qs ts) (linkTags quizId tags)
      (linkTags quizId tags) := by
  induction tags with
  | nil => exact .pure _ fun _ _ _ h => h
  | cons tag tags ih =>
    obtain ⟨htag, hrest⟩ := List.cons_subset.mp htags
    exact .bind (.stage fun w d e h => h.insertQuizTag hquiz htag) fun _ => ih hrest

lemma twin_addAnswers {questionId : UUID} (hquestion : questionId ∈ qs)
    (data : List QuizAnswerCreate) :
    Twin (Base userId) (Ready userId ks qs ts) (fun _ => Ready userId ks qs ts)
      (addAnswers questionId data)
      (addAnswers questionId data) := by
  induction data with
  | nil => exact .pure _ fun _ _ _ h => h
  | cons data rest ih =>
    refine .bind twin_uuid4 fun id => .bind (.stage fun w d e h => ?_) fun _ =>
      .bind ih fun answers =>
      .pure _ fun _ _ _ h => h
    exact h.1.insertAnswer h.2.1 h.2.2 hquestion

lemma twin_addQuestions (hquiz : quizId ∈ ks) (data : List NewQuestion) : Twin (Base userId)
    (Ready userId ks qs ts)
    (fun _ => Ready userId ks qs ts) (addQuestions quizId data) (addQuestions quizId data) := by
  induction data with
  | nil => exact .pure _ fun _ _ _ h => h
  | cons data rest ih =>
    refine .bind twin_uuid4 fun id =>
      .bind (.stage fun w d e h => h.1.insertQuestion h.2.1 h.2.2 hquiz) fun _ =>
      .bind (twin_addAnswers (List.mem_cons_self ..) _) fun answers =>
        .bind (ih.conseq (fun w d e h => ?_) fun _ _ _ _ h => h)
        fun questions => .pure _ fun _ _ _ h => h
    exact h.mono le_rfl (List.Subset.refl _) (List.subset_cons_self _ _) (List.Subset.refl _)

lemma twin_newQuiz (data : QuizCreate) : Twin (Base userId) (Base userId) (fun _ => Base userId)
    (newQuiz userId data)
    (newQuiz userId data) := by
  refine .bind (twin_getOrCreateTags _) fun tags => .bind (.done _ fun _ _ _ _ h => h)
    fun questions =>
    .bind twin_utcnow fun now => .bind twin_uuid4 fun id =>
      .bind (.stage fun w d e h => h.1.insertQuiz h.2.1 h.2.2 rfl)
      fun _ => .bind (twin_addQuestions (List.mem_cons_self ..) _) fun added =>
        .bind (twin_linkTags (List.mem_cons_self ..) (List.subset_append_left _ _)) fun _ =>
          .pure _ fun _ _ _ h => h.base

lemma twin_commitQuiz (held : LoadedQuiz) : Twin (Base userId) (Base userId) (fun _ => Base userId)
    (commitQuiz held)
    (commitQuiz held) := by
  refine .bind (.commit fun _ _ _ h => h) fun _ => .select_bind fun w d e h => ?_
  have hfound : (e.fetchQuiz held.quiz.quizId).isSome = (d.fetchQuiz held.quiz.quizId).isSome := by
    rw [Rows.fetchQuiz, Rows.fetchQuiz, Option.isSome_map, Option.isSome_map, Bool.eq_iff_iff,
      Table.isSome_get?, Table.isSome_get?, h.like.ids]
  rcases hd : d.fetchQuiz held.quiz.quizId with _ | row <;> rcases he :
    e.fetchQuiz held.quiz.quizId with _ | row' <;>
    rw [hd, he] at hfound
  · exact .throw _
  · cases hfound
  · cases hfound
  · refine .done _ ?_
    rintro out w d e ⟨rfl, rfl, rfl⟩
    exact h

lemma load_own {d e : Rows} {quiz : Quiz} (h : SameQuiz quiz.quizId d e) :
    e.load quiz = d.load quiz := by
  have hquestions : e.loadQuestions quiz.quizId = d.loadQuestions quiz.quizId := by
    rw [Rows.loadQuestions, Rows.loadQuestions, h.questions]
    refine List.map_congr_left fun q hq => ?_
    have hmem : q ∈ d.questionsOf quiz.quizId :=
      (Platform.arrange_perm _).mem_iff.mp ((List.perm_insertionSort _ _).mem_iff.mp hq)
    rw [Rows.loadQuestion, Rows.loadQuestion, h.answers q hmem]
  rw [Rows.load, Rows.load, hquestions, h.tags]

lemma ready_own {w : World} {d e : Database} (h : Base userId w d e) {quiz : Quiz}
    (hquiz : quiz ∈ d.quizzes.rows) (howner : quiz.creatorId = userId) : Ready userId [quiz.quizId]
      ((d.load quiz).questions.map fun l => l.question.questionId) [] w d e := by
  refine { h with quizzes := ?_, questions := fun k hk => ?_ }
  · exact List.forall_mem_singleton.mpr ⟨quiz, hquiz, rfl, howner⟩
  · obtain ⟨l, hl, rfl⟩ := List.mem_map.mp hk
    obtain ⟨q, hq, rfl⟩ := Rows.mem_loadQuestions.mp hl
    obtain ⟨hq, hof⟩ := Rows.mem_questionsOf.mp hq
    exact ⟨q, hq, rfl, quiz, hquiz, hof.symm, howner⟩

lemma twin_fetchQuiz {α : Type} {Q : α → World → Database → Database → Prop}
    {f : Option LoadedQuiz → Handler α}
    (hmissing : Twin (Base userId) (Base userId) Q (f none) (f none))
    (hforeign : ∀ quiz quiz' : LoadedQuiz, quiz.quiz.creatorId ≠ userId →
      quiz'.quiz.creatorId ≠ userId →
      Twin (Base userId) (Base userId) Q (f (some quiz)) (f (some quiz')))
    (hown : ∀ quiz : LoadedQuiz, quiz.quiz.creatorId = userId → Twin (Base userId)
      (Ready userId [quizId] (quiz.questions.map fun l => l.question.questionId) []) Q
      (f (some quiz)) (f (some quiz))) :
    Twin (Base userId) (Base userId) Q (select (fun d => d.fetchQuiz quizId) >>= f)
      (select (fun d => d.fetchQuiz quizId) >>= f) := by
  refine .select_bind fun w d e h => ?_
  cases hquiz : d.quizzes.get? quizId with
  | none =>
    have hquiz' : e.quizzes.get? quizId = none :=
      Table.get?_eq_none.mpr fun hmem => Table.get?_eq_none.mp hquiz ((h.like.ids quizId).mp hmem)
    rw [Rows.fetchQuiz, Rows.fetchQuiz, hquiz, hquiz']
    refine hmissing.conseq ?_ fun _ _ _ _ h => h
    rintro w d e ⟨rfl, rfl, rfl⟩
    exact h
  | some quiz =>
    by_cases howner : quiz.creatorId = userId
    · have hquiz' := h.like.get?_own hquiz howner
      obtain rfl := Table.key_get? hquiz
      rw [Rows.fetchQuiz, Rows.fetchQuiz, hquiz, hquiz', Option.map_some, Option.map_some,
        load_own (h.like.own quiz (Table.mem_get? hquiz) howner)]
      refine (hown (d.load quiz) howner).conseq ?_ fun _ _ _ _ h => h
      rintro w d e ⟨rfl, rfl, rfl⟩
      exact ready_own h (Table.mem_get? hquiz) howner
    · obtain ⟨quiz', hquiz'⟩ : ∃ quiz', e.quizzes.get? quizId = some quiz' := by
        rw [← Option.isSome_iff_exists, Table.isSome_get?, h.like.ids, ← Table.isSome_get?, hquiz]
        rfl
      have howner' : quiz'.creatorId ≠ userId := by
        intro heq
        have hback := h.like.symm.get?_own hquiz' heq
        rw [hquiz, Option.some.injEq] at hback
        exact howner (hback ▸ heq)
      rw [Rows.fetchQuiz, Rows.fetchQuiz, hquiz, hquiz', Option.map_some, Option.map_some]
      refine (hforeign (d.load quiz) (e.load quiz') howner howner').conseq ?_ fun _ _ _ _ h => h
      rintro w d e ⟨rfl, rfl, rfl⟩
      exact h

lemma twin_denied {α : Type} {P : World → Database → Database → Prop}
    {Q : α → World → Database → Database → Prop} {c c' : Prop} [Decidable c] [Decidable c']
    (hc : ¬c) (hc' : ¬c') (err : Exn) {f g : Unit → Handler α} :
    Twin (Base userId) P Q (require c err >>= f) (require c' err >>= g) := by
  rw [require, require, if_neg hc, if_neg hc']
  exact .throw err

lemma twin_replaceTags (hquiz : quizId ∈ ks) (loaded : List String) (given : Option (List String)) :
    Twin (Base userId) (Ready userId ks qs ts) (fun _ => Ready userId ks qs ts)
      (replaceTags quizId loaded given)
      (replaceTags quizId loaded given) := by
  cases given with
  | none => exact .pure _ fun _ _ _ h => h
  | some names =>
    refine .bind (twin_getOrCreateTags _) fun tags =>
      .bind (.stage fun w d e h => h.deleteQuizTags _) fun _ =>
      .bind (twin_linkTags hquiz fun t ht => ?_) fun _ => .pure _ fun w d e h => ?_
    · exact List.mem_append_left _ (List.mem_of_mem_filter ht)
    · exact h.mono le_rfl (List.Subset.refl _) (List.Subset.refl _) (List.subset_append_right _ _)

lemma twin_replaceQuestions (hquiz : quizId ∈ ks) (loaded : List LoadedQuestion)
    (given : Option (List QuizQuestionCreate)) :
    Twin (Base userId)
      (Ready userId ks (loaded.map fun l => l.question.questionId) ts)
      (fun _ => Ready userId ks [] ts)
      (replaceQuestions quizId loaded given) (replaceQuestions quizId loaded given) := by
  cases given with
  | none =>
    refine .pure _ fun _ _ _ h => ?_
    exact h.mono le_rfl (List.Subset.refl _) (List.nil_subset _) (List.Subset.refl _)
  | some questions =>
    exact .bind (.stage fun w d e h => h.deleteAnswers _) fun _ =>
      .bind (.stage fun w d e h => h.deleteQuestions (List.Subset.refl _)) fun _ =>
        .bind .flush fun _ =>
      .bind (.done _ fun _ _ _ _ h => h) fun added => twin_addQuestions hquiz added

lemma twin_editQuiz (data : QuizUpdate) : Twin (Base userId) (Base userId) (fun _ => Base userId)
    (editQuiz quizId userId data) (editQuiz quizId userId data) := by
  refine twin_fetchQuiz (.throw _) (fun quiz quiz' h h' => twin_denied h h' _) fun quiz howner => ?_
  exact .bind (.require _ _) fun _ => .bind (.require _ _) fun _ =>
    .bind (.stage fun w d e h => h.updateQuiz _ _) fun _ =>
    .bind (twin_replaceTags (List.mem_singleton_self _) _ _) fun tags =>
    .bind (.stage fun w d e h => h.updateQuiz _ _) fun _ =>
    .bind (twin_replaceQuestions (List.mem_singleton_self _) _ _) fun questions =>
      .bind twin_utcnow fun now =>
    .bind (.stage fun w d e h => h.updateQuiz _ _) fun _ => .pure _ fun _ _ _ h => h.base

lemma twin_changeStatus (newStatus : QuizStatus) : Twin (Base userId) (Base userId)
    (fun _ => Base userId)
    (changeStatus quizId newStatus userId) (changeStatus quizId newStatus userId) := by
  refine twin_fetchQuiz (.throw _) (fun quiz quiz' h h' => twin_denied h h' _) fun quiz howner => ?_
  exact .bind (.require _ _) fun _ => .bind (.require _ _) fun _ => .bind twin_utcnow fun now =>
    .bind (.stage fun w d e h => h.updateQuiz _ _) fun _ => .pure _ fun _ _ _ h => h.base

lemma twin_exportQuiz : Twin (Base userId) (Base userId) (fun _ => Base userId)
    (exportQuiz quizId userId)
    (exportQuiz quizId userId) := by
  refine twin_fetchQuiz (.throw _) (fun quiz quiz' h h' => twin_denied h h' _) fun quiz howner => ?_
  refine .bind (.require _ _) fun _ => ?_
  cases quiz.quiz.maxParticipants with
  | none => exact .throw _
  | some n => exact .pure _ fun _ _ _ h => h.base

omit [Platform] in
lemma favorite_own {d e : Rows} (h : Like userId d e) :
    (e.favorites.get? ⟨userId, quizId⟩).isSome = (d.favorites.get? ⟨userId, quizId⟩).isSome := by
  have hmem (f : Rows) : (f.favorites.get? ⟨userId, quizId⟩).isSome =
      decide (⟨userId, quizId⟩ ∈ f.favorites.rows.filter fun f => f.userId = userId) := by
    rw [Bool.eq_iff_iff, Table.isSome_get?, decide_eq_true_eq, Table.keys, List.map_id]
    simp
  rw [hmem, hmem, h.favorites]

lemma twin_getQuiz : Twin (Base userId) (Base userId) (fun _ => Base userId)
    (getQuiz quizId (some userId))
    (getQuiz quizId (some userId)) := by
  refine twin_fetchQuiz (.pure _ fun _ _ _ h => h) (fun quiz quiz' h h' => ?_) fun quiz howner => ?_
  · have hdenied (quiz : LoadedQuiz) (h : quiz.quiz.creatorId ≠ userId) :
        (some userId).any (quiz.quiz.creatorId ≠ ·) := by simpa using h
    dsimp only
    rw [if_pos (hdenied quiz h), if_pos (hdenied quiz' h')]
    exact .pure _ fun _ _ _ h => h
  · have hadmitted : ¬(some userId).any (quiz.quiz.creatorId ≠ ·) := by simp [howner]
    dsimp only
    rw [if_neg hadmitted]
    exact .bind (.select fun w d e h => favorite_own h.like) fun isFav =>
      .pure _ fun _ _ _ h => h.1.base

omit [Platform] in
lemma foreign_own {d e : Database} (h : Like userId d.toRows e.toRows) :
    (e.quizzes.get? quizId).all (·.creatorId ≠ userId) =
      (d.quizzes.get? quizId).all (·.creatorId ≠ userId) := by
  have hsub {f g : Database} (h : Like userId f.toRows g.toRows)
      (hf : (g.quizzes.get? quizId).all (·.creatorId ≠ userId) = true) :
      (f.quizzes.get? quizId).all (·.creatorId ≠ userId) = true := by
    cases hquiz : f.quizzes.get? quizId with
    | none => rfl
    | some quiz =>
      rw [Option.all_some, decide_eq_true_eq]
      intro howner
      rw [h.get?_own hquiz howner, Option.all_some, decide_eq_true_eq] at hf
      exact hf howner
  exact Bool.eq_iff_iff.mpr ⟨hsub h, hsub h.symm⟩

lemma favorites_written {w : World} {d e d' e' : Database} (h : Base userId w d e)
    (hd : d'.toRows = { d.toRows with favorites := d'.favorites })
    (he : e'.toRows = { e.toRows with favorites := e'.favorites })
    (hfavorites : (e'.favorites.rows.filter fun f => f.userId = userId) = d'.favorites.rows.filter
      fun f => f.userId = userId) :
    Base userId w d' e' := by
  have hquizzes : d'.quizzes = d.quizzes := by rw [hd]
  have hquizzes' : e'.quizzes = e.quizzes := by rw [he]
  have hkept : KeepsQuizzes d.toRows d'.toRows := by refine ⟨?_, ?_, ?_, ?_⟩ <;> rw [hd]
  have hkept' : KeepsQuizzes e.toRows e'.toRows := by refine ⟨?_, ?_, ?_, ?_⟩ <;> rw [he]
  refine ⟨⟨?_, ?_, ?_, fun quiz hquiz howner => ?_, hfavorites⟩,
    h.known.of_rows (fun k hk => .inl (hkept.quizzes ▸ hk))
    (fun q hq => .inl (hkept.questions ▸ hq))
      fun a ha => .inl (hkept.answers ▸ ha),
    h.known'.of_rows (fun k hk => .inl (hkept'.quizzes ▸ hk))
      (fun q hq => .inl (hkept'.questions ▸ hq))
      fun a ha => .inl (hkept'.answers ▸ ha),
    List.forall_mem_nil _, List.forall_mem_nil _, List.forall_mem_nil _⟩
  · rw [hd, he]
    exact h.like.user
  · rw [hquizzes, hquizzes']
    exact h.like.ids
  · rw [hquizzes, hquizzes']
    exact h.like.listed
  · rw [hquizzes] at hquiz
    exact (hkept.same _).symm.trans ((h.like.own quiz hquiz howner).trans (hkept'.same _))

lemma deleteFavorite_own {w : World} {d e : Database} (h : Base userId w d e) :
    Twin.Seen (Base userId w)
    (Sql.deleteFavorites (fun f => f.userId = userId ∧ f.quizId = quizId) d)
    (Sql.deleteFavorites (fun f => f.userId = userId ∧ f.quizId = quizId) e) := by
  refine .ok (favorites_written h rfl rfl ?_)
  rw [Table.rows_remove, Table.rows_remove, List.filter_comm, h.like.favorites, List.filter_comm]

lemma insertFavorite_own {w : World} {d e : Database} (h : Base userId w d e) :
    Twin.Seen (Base userId w)
    (Sql.insertFavorite ⟨userId, quizId⟩ d) (Sql.insertFavorite ⟨userId, quizId⟩ e) := by
  have hkeys : (⟨userId, quizId⟩ : QuizFavorite) ∈ e.favorites.keys ↔
      ⟨userId, quizId⟩ ∈ d.favorites.keys := by
    rw [← Table.isSome_get?, ← Table.isSome_get?, favorite_own h.like]
  by_cases hnew : (⟨userId, quizId⟩ : QuizFavorite) ∉ d.favorites.keys ∧ userId ∈ d.users.keys ∧
    quizId ∈ d.quizzes.keys
  · have hnew' : (⟨userId, quizId⟩ : QuizFavorite) ∉ e.favorites.keys ∧ userId ∈ e.users.keys ∧
        quizId ∈ e.quizzes.keys :=
      ⟨fun hmem => hnew.1 (hkeys.mp hmem), h.like.user.mpr hnew.2.1, (h.like.ids _).mpr hnew.2.2⟩
    rw [Sql.insertFavorite, Sql.insertFavorite, dif_pos hnew, dif_pos hnew']
    refine .ok (favorites_written h rfl rfl ?_)
    rw [Table.rows_add, Table.rows_add, List.filter_append, List.filter_append, h.like.favorites]
  · have hnew' : ¬((⟨userId, quizId⟩ : QuizFavorite) ∉ e.favorites.keys ∧ userId ∈ e.users.keys ∧
        quizId ∈ e.quizzes.keys) :=
      fun h' => hnew ⟨fun hmem => h'.1 (hkeys.mpr hmem), h.like.user.mp h'.2.1,
        (h.like.ids _).mp h'.2.2⟩
    rw [Sql.insertFavorite, Sql.insertFavorite, dif_neg hnew, dif_neg hnew']
    exact .error _

lemma twin_toggleFavorite : Twin (Base userId) (Base userId) (fun _ => Base userId)
    (toggleFavorite quizId userId)
    (toggleFavorite quizId userId) := by
  refine .select_bind fun w d e h => ?_
  rw [foreign_own h.like]
  refine Twin.conseq (P := Base userId) ?_ (by rintro w d e ⟨rfl, rfl, rfl⟩; exact h)
    fun _ _ _ _ h => h
  by_cases hforeign : (d.quizzes.get? quizId).all (·.creatorId ≠ userId)
  · rw [if_pos hforeign]
    exact .pure _ fun _ _ _ h => h
  · rw [if_neg hforeign]
    refine .bind (.select fun w d e h => favorite_own h.like) fun isFavorited => ?_
    cases isFavorited with
    | true =>
      exact .bind (.execute fun w d e h => deleteFavorite_own h.1) fun _ =>
        .bind (.commit fun _ _ _ h => h) fun _ =>
        .pure _ fun _ _ _ h => h
    | false =>
      exact .bind (.execute fun w d e h => insertFavorite_own h.1) fun _ =>
        .bind (.commit fun _ _ _ h => h) fun _ =>
        .pure _ fun _ _ _ h => h

lemma loads_own {d e : Rows} (h : Like userId d e) {rows : List Quiz}
    (hrows : ∀ q ∈ rows, q ∈ d.quizzes.rows ∧ q.creatorId = userId) :
    rows.map e.load = rows.map d.load :=
  List.map_congr_left fun q hq => load_own (h.own q (hrows q hq).1 (hrows q hq).2)

lemma twin_listQuizzes : Twin (Base userId) (Base userId) (fun _ => Base userId)
    (listQuizzes userId)
    (listQuizzes userId) := by
  refine .bind (.select fun w d e h => ?_) fun quizzes => .bind (.select fun w d e h => ?_)
    fun favoritedIds =>
    .done _ fun _ _ _ _ h => h.1.1
  · rw [h.like.listed]
    refine loads_own h.like fun q hq => ?_
    have hmem := List.mem_filter.mp ((Platform.arrange_perm _).mem_iff.mp hq)
    exact ⟨hmem.1, of_decide_eq_true hmem.2⟩
  · rw [h.1.like.favorites]

lemma twin_listFavorites : Twin (Base userId) (fun w d e => Base userId w d e ∧ Owned d.toRows)
    (fun _ => Base userId)
    (listFavorites userId) (listFavorites userId) := by
  refine .bind (.select fun w d e h => ?_) fun quizzes => .done _ fun _ _ _ _ h => h.1.1
  obtain ⟨h, howned⟩ := h
  have hown (f : QuizFavorite) (hf : f ∈ d.favorites.rows.filter fun f => f.userId = userId) :
      ∃ quiz, d.quizzes.get? f.quizId = some quiz ∧ quiz.creatorId = userId := by
    obtain ⟨hf, huser⟩ := List.mem_filter.mp hf
    obtain ⟨quiz, hquiz, howner⟩ := howned.favorites f hf
    exact ⟨quiz, hquiz, howner.trans (of_decide_eq_true huser)⟩
  have hrows : ((d.favorites.rows.filter fun f => f.userId = userId).filterMap fun f =>
    e.quizzes.get? f.quizId) =
      (d.favorites.rows.filter fun f => f.userId = userId).filterMap fun f =>
        d.quizzes.get? f.quizId := by
    refine List.filterMap_congr fun f hf => ?_
    obtain ⟨quiz, hquiz, howner⟩ := hown f hf
    rw [hquiz, h.like.get?_own hquiz howner]
  rw [h.like.favorites, hrows]
  refine loads_own h.like fun q hq => ?_
  obtain ⟨f, hf, hq⟩ := List.mem_filterMap.mp ((Platform.arrange_perm _).mem_iff.mp hq)
  obtain ⟨quiz, hquiz, howner⟩ := hown f hf
  rw [hq, Option.some.injEq] at hquiz
  exact ⟨Table.mem_get? hq, hquiz ▸ howner⟩

end Programs

end Runs

end Askit.Relational

import Askit.Interleaving.Contract
import Askit.Interleaving.Trace
import Askit.Quizzes.Edits
import Askit.Quizzes.Tags

/-! What the requests look up and link, and what their writes do to the tags and to the links. -/

namespace Askit.Quizzes

open Interleaving Machine Coro Tables
open Game (UUID Time Runtime Dirty changed)

def nameMissed : Event Op Exn → Option String
  | ⟨_, .selectTag name, .ok none⟩ => some name
  | _ => none

/-- The names that a request has looked up and that had no tag. -/
def namesMissed (events : List (Event Op Exn)) : List String := events.filterMap nameMissed

def tagsLoaded : Event Op Exn → Option (List String)
  | ⟨_, .selectTags _, .ok tags⟩ => some tags
  | _ => none

def tagsRead (events : List (Event Op Exn)) : Option (List String) :=
    (events.filterMap tagsLoaded).getLast?

/-- When the request writes, the names that it missed still have no tag, and a quiz that it gives
tags to has those that it has read. -/
def Call.Unshared (events : List (Event Op Exn)) (d : Db) : Call → Prop
  | createQuiz .. => ∀ name ∈ namesMissed events, name ∉ d.tags.rows
  | updateQuiz quizId _ data => (∀ name ∈ namesMissed events, name ∉ d.tags.rows) ∧
      (data.tags.isSome → ∀ quiz ∈ d.quizzes.rows, quiz.quizId = quizId → ∀ read ∈ tagsRead events,
        (∀ t ∈ quiz.tags, t ∈ read) ∧ ∀ t ∈ read, t ∈ quiz.tags)
  | setQuizStatus .. => True

instance (events : List (Event Op Exn)) (d : Db) : DecidablePred (Call.Unshared events d)
  | .createQuiz .. => inferInstanceAs (Decidable (∀ _ ∈ _, _))
  | .updateQuiz .. => inferInstanceAs (Decidable (_ ∧ _))
  | .setQuizStatus .. => isTrue trivial

def Op.writes : {β : Type} → Op β → Bool
  | _, .insertQuiz _ _ => true
  | _, .commit _ => true
  | _, _ => false

def Call.tagNames : Call → Option (List String)
  | createQuiz _ data => some data.tags
  | updateQuiz _ _ data => data.tags
  | setQuizStatus .. => none

def Call.gives (call : Call) : Event Op Exn → Option (UUID × List String)
  | ⟨_, .insertQuiz _ _, .ok quiz⟩ => call.tagNames.map fun names => (quiz.quiz.quizId, names)
  | ⟨_, .commit c, .ok _⟩ => call.tagNames.map fun names => (c.quiz.loaded.quizId, names)
  | _ => none

def Call.handed (call : Call) : Except Exn QuizOut → List (UUID × List String)
  | .ok out => (call.tagNames.map fun names => (out.quizId, names)).toList
  | .error _ => []

section

variable [Platform]

/-- The step is not a write of a request that another one has come in between. -/
def Unshared : system.Transition → Prop
  | ⟨c, .run i⟩ =>
    match c.procs[i]? with
    | some ⟨call, .await o _⟩ => o.writes → Call.Unshared (own i c.world.history)
        (State.db c.world.state) call
    | _ => True
  | _ => True

instance : DecidablePred Unshared
  | ⟨c, .run i⟩ =>
    match h : c.procs[i]? with
    | some ⟨call, .await o _⟩ =>
      have : Decidable (Call.Unshared (own i c.world.history) (State.db c.world.state) call) :=
        (inferInstance : DecidablePred (Call.Unshared _ _)) call
      decidable_of_iff (o.writes → Call.Unshared (own i c.world.history)
        (State.db c.world.state) call)
        (by simp [Unshared, h])
    | some ⟨_, .done _⟩ | none => isTrue (by simp [Unshared, h])
  | ⟨_, .spawn _⟩ | ⟨_, .fault _ _⟩ | ⟨_, .env _⟩ => isTrue trivial

/-- Quizzes are created and updated, and no statement fails but those that the database refuses. -/
def Authoring : system.Act → Prop
  | .spawn (.setQuizStatus ..) => False
  | .fault _ _ => False
  | _ => True

instance : DecidablePred (Authoring : system.Act → Prop)
  | .spawn (.createQuiz ..) => isTrue trivial
  | .spawn (.updateQuiz ..) => isTrue trivial
  | .spawn (.setQuizStatus ..) => isFalse id
  | .fault _ _ => isFalse id
  | .run _ => isTrue trivial
  | .env _ => isTrue trivial

def givenBy (calls : List Call) (ev : Event Op Exn) : Option (UUID × List String) :=
  calls[ev.pid]?.bind fun call => call.gives ev

def given (c : system.Config) : List (UUID × List String) :=
    c.world.history.filterMap (givenBy c.calls)

def lastGiven (c : system.Config) (quizId : UUID) : Option (List String) :=
  ((given c).filter fun l => l.1 = quizId).getLast?.map Prod.snd

def Linked (before : Db) (c : system.Config) : Prop :=
  ∀ quiz ∈ (State.db c.world.state).quizzes.rows,
    match lastGiven c quiz.quizId with
    | some names => ∀ t, t ∈ quiz.tags ↔ t ∈ names
    | none => ∃ old ∈ before.quizzes.rows, old.quizId = quiz.quizId ∧ ∀ t,
        t ∈ quiz.tags ↔ t ∈ old.tags

/-- What holds of the rows that requests have written: a tag that is linked is there, a quiz has a
bound on its participants, and identifiers have been drawn. -/
structure Consistent (s : State) : Prop where
  tags : ∀ quiz ∈ s.db.quizzes.rows, ∀ t ∈ quiz.tags, t ∈ s.db.tags.rows
  filled : ∀ quiz ∈ s.db.quizzes.rows, quiz.maxParticipants.isSome
  quizzes : ∀ quiz ∈ s.db.quizzes.rows, ∀ n, s.draws ≤ n → quiz.quizId ≠ Runtime.uuid4 n
  questions : ∀ q ∈ s.db.questions.rows, ∀ n, s.draws ≤ n → q.questionId ≠ Runtime.uuid4 n

namespace SharedTags

/-! What the writes do to the tags and to the links. -/

section Writes

variable {d e : Db} {s : State} {now : Time} {draws : ℕ} {c : Changes} {q : NewQuiz}
    {newTags : List String} {row : Quiz}

lemma nodup_flushed (quizId : UUID) (draws : ℕ) (questions : List NewQuestion) :
    ((flushQuestions quizId draws questions).map QuizQuestion.questionId).Nodup := by
  induction questions generalizing draws with
  | nil => exact List.nodup_nil
  | cons q questions ih =>
    refine List.nodup_cons.mpr ⟨fun hmem => ?_, ih _⟩
    obtain ⟨r, hr, hid⟩ := List.mem_map.mp hmem
    obtain ⟨k, hk, -, hdrawn⟩ := drawn_of_flushed hr
    have hsame : k = draws := Runtime.uuid4_injective (hdrawn.symm.trans hid)
    omega

lemma exists_questions {t : Table QuizQuestion.questionId} (quizId : UUID) (draws : ℕ)
    (questions : List NewQuestion)
    (h : ∀ q ∈ t.rows, ∀ n, draws ≤ n → q.questionId ≠ Runtime.uuid4 n) :
    ∃ u, t.insertAll (flushQuestions quizId draws questions) = some u := by
  refine Table.exists_insertAll (nodup_flushed quizId draws questions) fun r hr hmem => ?_
  obtain ⟨q, hq, hid⟩ := List.mem_map.mp hmem
  obtain ⟨k, hk, -, hdrawn⟩ := drawn_of_flushed hr
  exact h q hq k hk (hid.trans hdrawn)

omit [Platform] in
lemma exists_tags {t : Table (id : String → String)} (hnodup : newTags.Nodup)
    (h : ∀ name ∈ newTags, name ∉ t.rows) :
    ∃ u, t.insertAll newTags = some u :=
  Table.exists_insertAll (by rwa [List.map_id]) (by simpa using h)

lemma exists_insertQuiz (h : Consistent s) (hnodup : newTags.Nodup)
    (hnew : ∀ name ∈ newTags, name ∉ s.db.tags.rows) :
    ∃ e, s.db.insertQuiz s.now s.draws q newTags = some e := by
  obtain ⟨tags, htags⟩ := exists_tags hnodup hnew
  obtain ⟨questions, hquestions⟩ := exists_questions (t := s.db.questions) (Runtime.uuid4 s.draws)
    (s.draws + 1) q.questions fun r hr n hn => h.questions r hr n (by omega)
  obtain ⟨quizzes, hquizzes⟩ := Table.exists_insert (t := s.db.quizzes)
    (r := (flushQuiz s.now s.draws q).quiz)
    fun hmem => by
      obtain ⟨r, hr, hid⟩ := List.mem_map.mp hmem
      exact h.quizzes r hr s.draws le_rfl hid
  exact ⟨⟨quizzes, questions, tags⟩, by simp [Db.insertQuiz, htags, hquizzes, hquestions]⟩

lemma exists_commit (h : Consistent s) (hrow : s.db.quizzes.get? c.quiz.loaded.quizId = some row)
    (hclash : tagsClash c.quiz row = false) (hnodup : c.newTags.Nodup)
    (hnew : ∀ name ∈ c.newTags, name ∉ s.db.tags.rows) :
    ∃ e, s.db.commit s.draws c = .ok e := by
  obtain ⟨tags, htags⟩ := exists_tags hnodup hnew
  obtain ⟨questions, hquestions⟩ :=
    exists_questions (t := s.db.questions.remove fun q => q.questionId ∈ c.removed)
    c.quiz.loaded.quizId s.draws c.added fun r hr n hn =>
      h.questions r (List.mem_filter.mp hr).1 n hn
  refine ⟨⟨s.db.quizzes.modify c.quiz.loaded.quizId (Quiz.flush c.quiz) (Quiz.quizId_flush c.quiz),
    questions, tags⟩, ?_⟩
  simp only [Db.commit, hrow, hclash, htags, hquestions]
  rfl

lemma tags_of_insertQuiz (h : d.insertQuiz now draws q newTags = some e) :
    e.tags.rows = d.tags.rows ++ newTags := by
  simp only [Db.insertQuiz, Option.bind_eq_some_iff, Option.map_eq_some_iff] at h
  obtain ⟨tags, htags, quizzes, -, questions, -, rfl⟩ := h
  exact Table.rows_insertAll htags

lemma found_of_insertQuiz (h : d.insertQuiz now draws q newTags = some e) :
    ∃ quiz, e.quizzes.get? (Runtime.uuid4 draws) = some quiz := by
  have hmem : ∃ quiz ∈ e.quizzes.rows, quiz.quizId = Runtime.uuid4 draws := by
    rw [(Db.inserted_of_insertQuiz h).quizzes]
    exact ⟨_, List.mem_append_right _ List.mem_cons_self, rfl⟩
  obtain ⟨quiz, hquiz, hid⟩ := hmem
  exact ⟨quiz, Table.get?_eq_some.mpr ⟨hquiz, hid⟩⟩

lemma tags_of_commit (h : d.commit draws c = .ok e) : e.tags.rows = d.tags.rows ++ c.newTags := by
  simp only [Db.commit] at h
  split at h
  · cases h
  case h_2 row hrow =>
    split_ifs at h
    split at h
    case h_1 tags questions htags hquestions =>
      cases h
      exact Table.rows_insertAll htags
    · cases h

omit [Platform] in
lemma mem_flushTags {loaded current row : List String} (hrow : ∀ t ∈ row, t ∈ loaded)
    (hloaded : ∀ t ∈ loaded, t ∈ row) (t : String) :
    t ∈ flushTags ⟨loaded, current⟩ row ↔ t ∈ current := by
  simp only [flushTags, List.mem_append, List.mem_filter, decide_eq_true_eq]
  constructor
  · rintro (⟨ht, hnew | hcurrent⟩ | ⟨hcurrent, -⟩)
    · exact (hnew (hrow t ht)).elim
    · exact hcurrent
    · exact hcurrent
  · intro hcurrent
    by_cases ht : t ∈ row
    · exact .inl ⟨ht, .inr hcurrent⟩
    · exact .inr ⟨hcurrent, fun hl => ht (hloaded t hl), ht⟩

/-- What no request that creates or updates a quiz takes back. -/
structure Keeps (d e : Db) : Prop where
  tags : d.tags.rows ⊆ e.tags.rows
  quizzes : ∀ quizId quiz, d.quizzes.get? quizId = some quiz →
    ∃ kept, e.quizzes.get? quizId = some kept ∧ kept.creatorId = quiz.creatorId ∧
      kept.status = quiz.status

omit [Platform] in
lemma Keeps.refl (d : Db) : Keeps d d := ⟨List.Subset.refl _, fun _ quiz h => ⟨quiz, h, rfl, rfl⟩⟩

omit [Platform] in
lemma Keeps.trans {f : Db} (h : Keeps d e) (h' : Keeps e f) : Keeps d f := by
  refine ⟨List.Subset.trans h.tags h'.tags, fun quizId quiz hquiz => ?_⟩
  obtain ⟨kept, hkept, hcreator, hstatus⟩ := h.quizzes quizId quiz hquiz
  obtain ⟨last, hlast, hcreator', hstatus'⟩ := h'.quizzes quizId kept hkept
  exact ⟨last, hlast, hcreator'.trans hcreator, hstatus'.trans hstatus⟩

def Relinked (list : Option (UUID × List String)) (d e : Db) : Prop :=
  ∀ quiz ∈ e.quizzes.rows, (∃ names, list = some (quiz.quizId, names) ∧ ∀ t,
    t ∈ quiz.tags ↔ t ∈ names) ∨
    (∀ names, list ≠ some (quiz.quizId, names)) ∧
      ∃ old ∈ d.quizzes.rows, old.quizId = quiz.quizId ∧ ∀ t, t ∈ quiz.tags ↔ t ∈ old.tags

omit [Platform] in
lemma Relinked.refl (d : Db) : Relinked none d d :=
  fun quiz hquiz => .inr ⟨fun _ h => (by cases h), quiz, hquiz, rfl, fun _ => .rfl⟩

structure Written (list : Option (UUID × List String)) (s t : State) : Prop where
  consistent : Consistent t
  keeps : Keeps s.db t.db
  relinked : Relinked list s.db t.db

lemma written_insertQuiz (h : Consistent s) (he : s.db.insertQuiz s.now s.draws q newTags = some e)
    (hnames : ∀ t ∈ q.tags, t ∈ newTags ∨ t ∈ s.db.tags.rows) (hfilled : q.maxParticipants.isSome) :
    Written (some (Runtime.uuid4 s.draws, q.tags)) s
      { s with db := e, draws := s.draws + 1 + identifiers q.questions } := by
  have hinserted := Db.inserted_of_insertQuiz he
  have htags := tags_of_insertQuiz he
  have hquizzes := hinserted.quizzes
  have hquestions := hinserted.questions
  refine ⟨⟨?_, ?_, ?_, ?_⟩, ⟨?_, ?_⟩, ?_⟩ <;> dsimp only
  · intro quiz hquiz t ht
    rw [htags, List.mem_append]
    rw [hquizzes, List.mem_append, List.mem_singleton] at hquiz
    rcases hquiz with hquiz | rfl
    · exact .inl (h.tags quiz hquiz t ht)
    · exact (hnames t ht).symm
  · intro quiz hquiz
    rw [hquizzes, List.mem_append, List.mem_singleton] at hquiz
    rcases hquiz with hquiz | rfl
    · exact h.filled quiz hquiz
    · exact hfilled
  · intro quiz hquiz n hn
    rw [hquizzes, List.mem_append, List.mem_singleton] at hquiz
    rcases hquiz with hquiz | rfl
    · exact h.quizzes quiz hquiz n (by omega)
    · intro heq
      have hsame : s.draws = n := Runtime.uuid4_injective heq
      omega
  · intro r hr n hn
    rw [hquestions, List.mem_append] at hr
    rcases hr with hr | hr
    · exact h.questions r hr n (by omega)
    · obtain ⟨k, -, hk, hdrawn⟩ := drawn_of_flushed hr
      intro heq
      have hsame : k = n := Runtime.uuid4_injective (hdrawn.symm.trans heq)
      omega
  · rw [htags]
    exact List.subset_append_left _ _
  · intro quizId quiz hquiz
    refine ⟨quiz, Table.get?_eq_some.mpr ⟨?_, Table.key_get? hquiz⟩, rfl, rfl⟩
    rw [hquizzes]
    exact List.mem_append_left _ (Table.mem_get? hquiz)
  · intro quiz hquiz
    rw [hquizzes, List.mem_append, List.mem_singleton] at hquiz
    rcases hquiz with hquiz | rfl
    · refine .inr ⟨fun names heq => ?_, quiz, hquiz, rfl, fun _ => .rfl⟩
      exact h.quizzes quiz hquiz s.draws le_rfl (congrArg Prod.fst (Option.some.inj heq)).symm
    · exact .inl ⟨q.tags, rfl, fun _ => .rfl⟩

def Gives (names : Option (List String)) (quiz : Dirty Quiz) (d : Db) : Prop :=
  match names with
  | none => quiz.current.tags = quiz.loaded.tags
  | some names => quiz.current.tags = names ∧ ∀ row, d.quizzes.get? quiz.loaded.quizId = some row →
      (∀ t ∈ row.tags, t ∈ quiz.loaded.tags) ∧ ∀ t ∈ quiz.loaded.tags, t ∈ row.tags

omit [Platform] in
lemma Gives.mem_flush {names : Option (List String)} {quiz : Dirty Quiz} (h : Gives names quiz d)
    (hrow : d.quizzes.get? quiz.loaded.quizId = some row) (t : String) :
    t ∈ (Quiz.flush quiz row).tags ↔ t ∈ names.getD row.tags := by
  cases names with
  | none =>
    have hsame : quiz.current.tags = quiz.loaded.tags := h
    change t ∈ flushTags ⟨quiz.loaded.tags, quiz.current.tags⟩ row.tags ↔ _
    rw [hsame, flushTags_self]
    rfl
  | some names =>
    obtain ⟨rfl, hsame⟩ := h
    exact mem_flushTags (hsame row hrow).1 (hsame row hrow).2 t

omit [Platform] in
lemma Gives.not_clash {names : Option (List String)} {quiz : Dirty Quiz} (h : Gives names quiz d)
    (hrow : d.quizzes.get? quiz.loaded.quizId = some row) : tagsClash quiz row = false := by
  refine List.any_eq_false.mpr fun t ht => ?_
  rw [decide_eq_true_eq]
  rintro ⟨hloaded, hold⟩
  cases names with
  | none =>
    have hsame : quiz.current.tags = quiz.loaded.tags := h
    exact hloaded (hsame ▸ ht)
  | some names => exact hloaded ((h.2 row hrow).1 t hold)

lemma written_commit {names : Option (List String)} (h : Consistent s)
    (he : s.db.commit s.draws c = .ok e) (hgives : Gives names c.quiz s.db)
    (hstatus : c.quiz.current.status = c.quiz.loaded.status)
    (hnames : ∀ given ∈ names, ∀ t ∈ given, t ∈ c.newTags ∨ t ∈ s.db.tags.rows)
    (hfilled : c.quiz.current.maxParticipants.isSome) :
    Written (names.map fun names => (c.quiz.loaded.quizId, names)) s
      { s with db := e, draws := s.draws + identifiers c.added } := by
  have hcommitted := Db.committed_of_commit he
  have htags := tags_of_commit he
  have hquestions := hcommitted.questions
  have hquizzes := congrArg Table.rows hcommitted.quizzes
  rw [Table.rows_modify] at hquizzes
  refine ⟨⟨?_, ?_, ?_, ?_⟩, ⟨?_, ?_⟩, ?_⟩ <;> dsimp only
  · intro quiz hquiz t ht
    rw [htags, List.mem_append]
    rw [hquizzes] at hquiz
    obtain ⟨old, hold, rfl⟩ := List.mem_map.mp hquiz
    split_ifs at ht with hid
    · rw [hgives.mem_flush (hid ▸ Table.get?_of_mem hold)] at ht
      cases names with
      | none => exact .inl (h.tags old hold t ht)
      | some given => exact (hnames given rfl t ht).symm
    · exact .inl (h.tags old hold t ht)
  · intro quiz hquiz
    rw [hquizzes] at hquiz
    obtain ⟨old, hold, rfl⟩ := List.mem_map.mp hquiz
    split_ifs with hid
    · simp only [Quiz.flush, changed]
      split_ifs
      · exact h.filled old hold
      · exact hfilled
    · exact h.filled old hold
  · intro quiz hquiz n hn
    rw [hquizzes] at hquiz
    obtain ⟨old, hold, rfl⟩ := List.mem_map.mp hquiz
    have hid := h.quizzes old hold n (by omega)
    split_ifs <;> exact hid
  · intro r hr n hn
    rw [hquestions, List.mem_append] at hr
    rcases hr with hr | hr
    · exact h.questions r (List.mem_filter.mp hr).1 n (by omega)
    · obtain ⟨k, -, hk, hdrawn⟩ := drawn_of_flushed hr
      intro heq
      have hsame : k = n := Runtime.uuid4_injective (hdrawn.symm.trans heq)
      omega
  · rw [htags]
    exact List.subset_append_left _ _
  · intro quizId quiz hquiz
    rw [hcommitted.quizzes, Table.get?_modify, hquiz]
    refine ⟨_, rfl, ?_⟩
    split_ifs
    · exact ⟨rfl, by simp [Quiz.flush, hstatus, changed]⟩
    · exact ⟨rfl, rfl⟩
  · intro quiz hquiz
    rw [hquizzes] at hquiz
    obtain ⟨old, hold, rfl⟩ := List.mem_map.mp hquiz
    by_cases hid : old.quizId = c.quiz.loaded.quizId
    · rw [if_pos hid]
      have hflush := hgives.mem_flush (hid ▸ Table.get?_of_mem hold)
      cases names with
      | none => exact .inr ⟨fun _ hnone => (by cases hnone), old, hold, rfl, hflush⟩
      | some given => exact .inl ⟨given, by rw [Quiz.quizId_flush, hid]; rfl, hflush⟩
    · rw [if_neg hid]
      refine .inr ⟨fun given heq => ?_, old, hold, rfl, fun _ => .rfl⟩
      obtain ⟨list, -, hlist⟩ := Option.map_eq_some_iff.mp heq
      exact hid (congrArg Prod.fst hlist).symm

end Writes

end SharedTags

end

end Askit.Quizzes

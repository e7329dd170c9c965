import Askit.Quizzes.Columns
import Askit.Quizzes.Schemas
import Mathlib.Tactic.Lemma

/-! What the validators of `QuizCreate` let through, and in which form. -/

namespace Askit.Quizzes

def maxTitleLength : ℕ := 50

def maxDescriptionLength : ℕ := 300

def maxTagLength : ℕ := 30

def maxTagsPerQuiz : ℕ := 5

def maxParticipantsLimit : ℤ := 30

/-- `dict.fromkeys`: of equal elements the first one stays. -/
def firsts : List String → List String
  | [] => []
  | t :: l => t :: (firsts l).filter (· ≠ t)

lemma mem_of_mem_firsts {l : List String} {t : String} (h : t ∈ firsts l) : t ∈ l := by
  induction l with
  | nil => exact h
  | cons u l ih =>
    rcases List.mem_cons.mp h with rfl | h
    · exact List.mem_cons_self
    · exact List.mem_cons_of_mem u (ih (List.mem_of_mem_filter h))

lemma nodup_firsts (l : List String) : (firsts l).Nodup := by
  induction l with
  | nil => exact List.nodup_nil
  | cons t l ih => exact List.nodup_cons.mpr ⟨by simp, ih.filter _⟩

lemma firsts_of_nodup {l : List String} (h : l.Nodup) : firsts l = l := by
  induction l with
  | nil => rfl
  | cons t l ih =>
    obtain ⟨ht, hl⟩ := List.nodup_cons.mp h
    have hkept : l.filter (· ≠ t) = l := List.filter_eq_self.mpr fun u hu => by
      simpa using ne_of_mem_of_not_mem hu ht
    rw [firsts, ih hl, hkept]

def QuizQuestionCreate.inBounds (q : QuizQuestionCreate) :
    Prop := 5000 ≤ q.timeLimit ∧ q.timeLimit ≤ 300000

instance : DecidablePred QuizQuestionCreate.inBounds := fun q =>
  inferInstanceAs (Decidable (5000 ≤ q.timeLimit ∧ q.timeLimit ≤ 300000))

def QuizSettingsCreate.inBounds (s : QuizSettingsCreate) : Prop :=
  1 ≤ s.maxParticipants ∧ s.maxParticipants ≤ maxParticipantsLimit

instance : DecidablePred QuizSettingsCreate.inBounds := fun s =>
  inferInstanceAs (Decidable (1 ≤ s.maxParticipants ∧ s.maxParticipants ≤ maxParticipantsLimit))

def validateDescription : Option String → Except Exn (Option String)
  | none => .ok none
  | some v =>
    if maxDescriptionLength < v.length then
      .error (.invalidQuizDataError "Quiz description must not exceed 300 characters")
    else .ok (some v)

def visibilitySupported (s : QuizSettingsCreate) : Except Exn QuizSettingsCreate :=
  if s.visibility = .public_ then
    .error (.invalidQuizDataError "Public quizzes are not supported yet; quizzes must be private.")
  else .ok s

variable [Platform]

def validateTitle (v : String) : Except Exn String :=
  if strip v = "" then .error (.invalidQuizDataError "Quiz title cannot be empty")
  else if maxTitleLength < v.length then
    .error (.invalidQuizDataError "Quiz title must not exceed 50 characters")
  else .ok (strip v)

/-- The loop of `_validate_tags`. -/
def foldTags : List String → Except Exn (List String)
  | [] => .ok []
  | raw :: rest =>
    if foldTag raw = "" then foldTags rest
    else if maxTagLength < (foldTag raw).length then
      .error (.invalidQuizDataError "Quiz tags must not exceed 30 characters")
    else (foldTags rest).map (foldTag raw :: ·)

def validateTags (v : List String) : Except Exn (List String) := do
  let validated ← foldTags v
  if maxTagsPerQuiz < (firsts validated).length then
    .error (.invalidQuizDataError "Maximum 5 tags allowed per quiz")
  else .ok (firsts validated)

/-- A bound that does not hold is reported after all validators have run. -/
def QuizCreate.validate (data : QuizCreate) : Except Exn QuizCreate := do
  let title ← validateTitle data.title
  let description ← validateDescription data.description
  let tags ← validateTags data.tags
  let settings ← visibilitySupported data.settings
  if settings.inBounds ∧ ∀ q ∈ data.questions, q.inBounds then
    .ok ⟨title, description, tags, settings, data.questions⟩
  else .error .failure

def optional {α : Type} (validate : α → Except Exn α) : Option α → Except Exn (Option α)
  | none => .ok none
  | some v => (validate v).map some

def QuizUpdate.validate (data : QuizUpdate) : Except Exn QuizUpdate := do
  let title ← optional validateTitle data.title
  let description ← validateDescription data.description
  let tags ← optional validateTags data.tags
  let settings ← optional visibilitySupported data.settings
  if (∀ s ∈ settings, s.inBounds) ∧ ∀ questions ∈ data.questions, ∀ q ∈ questions, q.inBounds then
    .ok ⟨title, description, tags, settings, data.questions⟩
  else .error .failure

lemma validateTitle_idem {v title : String} (h : validateTitle v = .ok title) :
    validateTitle title = .ok title := by
  unfold validateTitle at h
  split_ifs at h with hempty hlong
  cases h
  have hlength := length_strip_le v
  rw [validateTitle, strip_strip, if_neg hempty, if_neg (by omega)]

lemma folded_of_foldTags {raw tags : List String} (h : foldTags raw = .ok tags) :
    ∀ t ∈ tags, foldTag t = t ∧ t ≠ "" ∧ t.length ≤ maxTagLength := by
  induction raw generalizing tags with
  | nil =>
    cases h
    exact List.forall_mem_nil _
  | cons r raw ih =>
    rw [foldTags] at h
    split_ifs at h with hempty hlong
    · exact ih h
    · cases hrest : foldTags raw with
      | error e =>
        rw [hrest] at h
        cases h
      | ok rest =>
        rw [hrest] at h
        cases h
        exact List.forall_mem_cons.mpr ⟨⟨foldTag_foldTag r, hempty, not_lt.mp hlong⟩, ih hrest⟩

lemma foldTags_of_folded {tags : List String}
    (h : ∀ t ∈ tags, foldTag t = t ∧ t ≠ "" ∧ t.length ≤ maxTagLength) :
    foldTags tags = .ok tags := by
  induction tags with
  | nil => rfl
  | cons t tags ih =>
    obtain ⟨⟨hfold, hempty, hlong⟩, hrest⟩ := List.forall_mem_cons.mp h
    rw [foldTags, hfold, if_neg hempty, if_neg (not_lt.mpr hlong), ih hrest]
    rfl

omit [Platform] in
lemma exists_of_bind_eq_ok {α β : Type} {x : Except Exn α} {f : α → Except Exn β} {b : β}
    (h : x >>= f = .ok b) :
    ∃ a, x = .ok a ∧ f a = .ok b := by
  cases x with
  | error e => cases h
  | ok a => exact ⟨a, rfl, h⟩

structure StoredTags (tags : List String) : Prop where
  nodup : tags.Nodup
  length : tags.length ≤ maxTagsPerQuiz
  folded : ∀ t ∈ tags, foldTag t = t ∧ t ≠ "" ∧ t.length ≤ maxTagLength

lemma StoredTags.perm {tags other : List String} (h : StoredTags tags) (hperm : other.Perm tags) :
    StoredTags other :=
  ⟨hperm.nodup_iff.mpr h.nodup, hperm.length_eq.trans_le h.length, fun t ht =>
    h.folded t (hperm.mem_iff.mp ht)⟩

lemma storedTags_of_validateTags {v tags : List String} (h : validateTags v = .ok tags) :
    StoredTags tags := by
  obtain ⟨validated, hfold, h⟩ := exists_of_bind_eq_ok h
  split_ifs at h with hmany
  cases h
  exact ⟨nodup_firsts validated, not_lt.mp hmany, fun t ht => folded_of_foldTags hfold t
    (mem_of_mem_firsts ht)⟩

lemma StoredTags.validate {tags : List String} (h : StoredTags tags) :
    validateTags tags = .ok tags := by
  rw [validateTags, foldTags_of_folded h.folded]
  change (if _ then _ else _) = _
  rw [firsts_of_nodup h.nodup, if_neg (not_lt.mpr h.length)]

lemma validateTags_idem {v tags : List String} (h : validateTags v = .ok tags) :
    validateTags tags = .ok tags :=
  (storedTags_of_validateTags h).validate

omit [Platform] in
lemma validateDescription_idem {v description : Option String}
    (h : validateDescription v = .ok description) :
    validateDescription description = .ok description := by
  cases v with
  | none =>
    cases h
    rfl
  | some v =>
    have hv := h
    rw [validateDescription] at hv
    split_ifs at hv
    cases hv
    exact h

omit [Platform] in
lemma eq_of_visibilitySupported {s t : QuizSettingsCreate} (h : visibilitySupported s = .ok t) :
    t = s := by
  unfold visibilitySupported at h
  split_ifs at h
  exact (Except.ok.inj h).symm

/-- A body that has come through the schema. -/
structure QuizCreate.Sound (data : QuizCreate) : Prop where
  title : validateTitle data.title = .ok data.title
  description : validateDescription data.description = .ok data.description
  tags : StoredTags data.tags
  settings : visibilitySupported data.settings = .ok data.settings
  bounds : data.settings.inBounds ∧ ∀ q ∈ data.questions, q.inBounds

lemma QuizCreate.sound_of_validate {data accepted : QuizCreate} (h : data.validate = .ok accepted) :
    accepted.Sound := by
  obtain ⟨title, htitle, h⟩ := exists_of_bind_eq_ok h
  obtain ⟨description, hdescription, h⟩ := exists_of_bind_eq_ok h
  obtain ⟨tags, htags, h⟩ := exists_of_bind_eq_ok h
  obtain ⟨settings, hvisibility, h⟩ := exists_of_bind_eq_ok h
  split_ifs at h with hbounds
  cases h
  have hsettings := eq_of_visibilitySupported hvisibility
  rw [← hsettings] at hvisibility
  exact ⟨validateTitle_idem htitle, validateDescription_idem hdescription,
    storedTags_of_validateTags htags, hvisibility, hbounds⟩

lemma QuizCreate.Sound.validate {data : QuizCreate} (h : data.Sound) :
    data.validate = .ok data := by
  rw [QuizCreate.validate, h.title, h.description, h.tags.validate, h.settings]
  exact if_pos h.bounds

/-! What is let through fits its column. -/

lemma varchar_of_validateTitle {v title : String} (h : validateTitle v = .ok title) :
    Varchar 50 title := by
  unfold validateTitle at h
  split_ifs at h with hempty hlong
  cases h
  exact (length_strip_le v).trans (not_lt.mp hlong)

omit [Platform] in
lemma varchar_of_validateDescription {v description : Option String}
    (h : validateDescription v = .ok description) :
    ∀ s ∈ description, Varchar 300 s := by
  cases v with
  | none =>
    cases h
    exact fun s hs => (by cases hs)
  | some v =>
    rw [validateDescription] at h
    split_ifs at h with hlong
    cases h
    intro s hs
    cases hs
    exact not_lt.mp hlong

lemma tagName_of_validateTags {v tags : List String} (h : validateTags v = .ok tags) :
    ∀ t ∈ tags, TagName t :=
  fun t ht => ((storedTags_of_validateTags h).folded t ht).2.2

lemma QuizCreate.of_validate {data accepted : QuizCreate} (h : data.validate = .ok accepted) :
    validateTitle data.title = .ok accepted.title ∧
      validateDescription data.description = .ok accepted.description ∧
      validateTags data.tags = .ok accepted.tags ∧ accepted.settings.inBounds ∧
      ∀ q ∈ accepted.questions, q.inBounds := by
  obtain ⟨title, htitle, h⟩ := exists_of_bind_eq_ok h
  obtain ⟨description, hdescription, h⟩ := exists_of_bind_eq_ok h
  obtain ⟨tags, htags, h⟩ := exists_of_bind_eq_ok h
  obtain ⟨settings, hvisibility, h⟩ := exists_of_bind_eq_ok h
  split_ifs at h with hbounds
  cases h
  exact ⟨htitle, hdescription, htags, hbounds.1, hbounds.2⟩

lemma nodup_of_validateTags {v tags : List String} (h : validateTags v = .ok tags) : tags.Nodup :=
  (storedTags_of_validateTags h).nodup

lemma QuizUpdate.of_validate {data accepted : QuizUpdate} (h : data.validate = .ok accepted) :
    optional validateTitle data.title = .ok accepted.title ∧
      validateDescription data.description = .ok accepted.description ∧
      optional validateTags data.tags = .ok accepted.tags ∧
      (∀ s ∈ accepted.settings, s.inBounds) ∧ ∀ questions ∈ accepted.questions, ∀ q ∈ questions,
      q.inBounds := by
  obtain ⟨title, htitle, h⟩ := exists_of_bind_eq_ok h
  obtain ⟨description, hdescription, h⟩ := exists_of_bind_eq_ok h
  obtain ⟨tags, htags, h⟩ := exists_of_bind_eq_ok h
  obtain ⟨settings, hvisibility, h⟩ := exists_of_bind_eq_ok h
  split_ifs at h with hbounds
  cases h
  exact ⟨htitle, hdescription, htags, hbounds.1, hbounds.2⟩

omit [Platform] in
lemma of_optional {α : Type} {validate : α → Except Exn α} {o : Option α} {accepted : α}
    (h : optional validate o = .ok (some accepted)) : ∃ v, validate v = .ok accepted := by
  cases o with
  | none => cases h
  | some v =>
    cases hv : validate v with
    | error e => simp [optional, hv, Except.map] at h
    | ok u =>
      simp only [optional, hv, Except.map, Except.ok.injEq, Option.some.injEq] at h
      exact ⟨v, h ▸ hv⟩

/-- The body of an update that has come through the schema. -/
structure QuizUpdate.Sound (data : QuizUpdate) : Prop where
  title : ∀ title ∈ data.title, validateTitle title = .ok title
  description : validateDescription data.description = .ok data.description
  tags : ∀ tags ∈ data.tags, StoredTags tags
  settings : ∀ settings ∈ data.settings, visibilitySupported settings = .ok settings ∧
    settings.inBounds
  questions : ∀ questions ∈ data.questions, ∀ q ∈ questions, q.inBounds

lemma QuizUpdate.sound_of_validate {data accepted : QuizUpdate} (h : data.validate = .ok accepted) :
    accepted.Sound := by
  obtain ⟨title, htitle, h⟩ := exists_of_bind_eq_ok h
  obtain ⟨description, hdescription, h⟩ := exists_of_bind_eq_ok h
  obtain ⟨tags, htags, h⟩ := exists_of_bind_eq_ok h
  obtain ⟨settings, hvisibility, h⟩ := exists_of_bind_eq_ok h
  split_ifs at h with hbounds
  cases h
  refine ⟨?_, validateDescription_idem hdescription, ?_, ?_, hbounds.2⟩
  · rintro title rfl
    obtain ⟨v, hv⟩ := of_optional htitle
    exact validateTitle_idem hv
  · rintro tags rfl
    obtain ⟨v, hv⟩ := of_optional htags
    exact storedTags_of_validateTags hv
  · rintro settings rfl
    obtain ⟨v, hv⟩ := of_optional hvisibility
    exact ⟨eq_of_visibilitySupported hv ▸ hv, hbounds.1 settings rfl⟩

def QuizUpdate.onto (data : QuizUpdate) (body : QuizCreate) : QuizCreate where
  title := data.title.getD body.title
  description := data.description.or body.description
  tags := data.tags.getD body.tags
  settings := data.settings.getD body.settings
  questions := data.questions.getD body.questions

omit [Platform] in
lemma of_getD {α : Type} {P : α → Prop} {o : Option α} {a : α} (ho : ∀ b ∈ o, P b) (ha : P a) :
    P (o.getD a) := by
  cases o with
  | none => exact ha
  | some b => exact ho b rfl

lemma QuizUpdate.Sound.onto {data : QuizUpdate} {body : QuizCreate} (h : data.Sound)
    (hbody : body.Sound) :
    (data.onto body).Sound where
  title := of_getD (P := fun title => validateTitle title = .ok title) h.title hbody.title
  description := by
    cases hdescription : data.description with
    | none => simpa [QuizUpdate.onto, hdescription] using hbody.description
    | some description => simpa [QuizUpdate.onto, hdescription] using h.description
  tags := of_getD h.tags hbody.tags
  settings := of_getD (P := fun settings => visibilitySupported settings = .ok settings)
    (fun settings hs => (h.settings settings hs).1) hbody.settings
  bounds := ⟨of_getD (fun settings hs => (h.settings settings hs).2) hbody.bounds.1,
    of_getD (P := fun questions : List QuizQuestionCreate => ∀ q ∈ questions, q.inBounds)
    h.questions hbody.bounds.2⟩

lemma QuizUpdate.nodup_of_validate {data accepted : QuizUpdate} (h : data.validate = .ok accepted)
    (tags : List String) (htags : accepted.tags = some tags) : tags.Nodup :=
  ((sound_of_validate h).tags tags htags).nodup

end Askit.Quizzes

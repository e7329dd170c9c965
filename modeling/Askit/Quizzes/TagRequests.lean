import Askit.Quizzes.TagWrites

/-! What a request that gives tags can rely on, and what it does. -/

namespace Askit.Quizzes

open Interleaving Machine Coro Tables
open Game (UUID Time Runtime Dirty changed)

section

variable [Platform]

namespace SharedTags

structure Rely (i : ℕ) (v w : system.World) : Prop where
  own : own i w.history = own i v.history
  keeps : Keeps (State.db v.state) (State.db w.state)

/-- What each step of the `i`-th request, which handles `call`, does. -/
structure Guar (i : ℕ) (call : Call) (v w : system.World) : Prop where
  history : ∃ ev : Event Op Exn, ev.pid = i ∧ w.history = v.history ++ [ev] ∧
    Relinked (call.gives ev) (State.db v.state) (State.db w.state)
  keeps : Keeps (State.db v.state) (State.db w.state)

def contract (i : ℕ) (call : Call) : Contract system fun w => Consistent w.state where
  rely := Rely i
  guar := Guar i call
  allowed o w := o.writes → call.Unshared (own i w.history) (State.db w.state)
  faults _ _ := False
  refl _ := ⟨rfl, .refl _⟩
  trans h h' := ⟨h'.own.trans h.own, h.keeps.trans h'.keeps⟩

def gave (i : ℕ) (call : Call) (w : system.World) : List (UUID × List String) :=
    (own i w.history).filterMap call.gives

/-- The requests that are `good` return, and each one gives the list that it answers with, and no
other. -/
def discipline (good : ℕ → Prop) : Discipline system fun w => Consistent w.state where
  contract := contract
  post i call r w := (good i → ∃ out, r = .ok out) ∧ gave i call w = call.handed r
  stable i call r {v w} := by
    rintro ⟨hgood, hgave⟩ (hrely : Rely i v w)
    exact ⟨hgood, (congrArg (List.filterMap call.gives) hrely.own).trans hgave⟩

variable {i : ℕ} {call : Call} {v w : system.World} {α β : Type}
    {Q : Except Exn β → system.World → Prop}

lemma faultless : (contract i call).Faultless := fun _ _ => id

lemma Written.refl {s : State} (h : Consistent s) : Written none s s := ⟨h, .refl _, .refl _⟩

lemma ok_bind {o : Op α} {f : α → Handler β}
    (h : ∀ v, Rely i w v → Consistent v.state → (contract i call).allowed o v →
      ∃ a t, exec o v.state = (.ok a, t) ∧ Written (call.gives ⟨i, o, .ok a⟩) v.state t ∧
        (contract i call).Ensures i Q (f a) ⟨t, v.history ++ [⟨i, o, .ok a⟩]⟩) :
    (contract i call).Ensures i Q (await o >>= f) w := by
  refine .perform_bind faultless fun v hr hi hallowed _ => ?_
  obtain ⟨a, t, hexec, hwritten, hrest⟩ := h v hr hi hallowed
  have hperform : v.perform i o = (.ok a, ⟨t, v.history ++ [⟨i, o, .ok a⟩]⟩) := by
    have hsystem : system.exec o v.state = (.ok a, t) := hexec
    rw [World.perform, hsystem]
  rw [hperform]
  refine ⟨hwritten.consistent, ⟨⟨_, rfl, rfl, hwritten.relinked⟩, hwritten.keeps⟩, fun b hb => ?_,
    fun e he => (by cases he)⟩
  cases hb
  exact hrest

omit [Platform] in
lemma gives_eq_none {o : Op α} (ho : o.writes = false) (r : Except Exn α) :
    call.gives ⟨i, o, r⟩ = none := by
  cases o with
  | insertQuiz quiz newTags => cases ho
  | commit c => cases ho
  | _ => rfl

lemma read_bind {o : Op α} {f : α → Handler β} (g : State → α)
    (hexec : ∀ s, exec o s = (.ok (g s), s)) (ho : o.writes = false)
    (h : ∀ v, Rely i w v → Consistent v.state →
      (contract i call).Ensures i Q (f (g v.state))
      ⟨v.state, v.history ++ [⟨i, o, .ok (g v.state)⟩]⟩) :
    (contract i call).Ensures i Q (await o >>= f) w :=
  ok_bind fun v hr hi _ => ⟨g v.state, v.state, hexec v.state, gives_eq_none ho _ ▸
    .refl hi, h v hr hi⟩

section Reads

omit [Platform]

lemma namesMissed_append (l : List (Event Op Exn)) (ev : Event Op Exn) :
    namesMissed (l ++ [ev]) = namesMissed l ++ (nameMissed ev).toList := by
  rw [namesMissed, List.filterMap_append, namesMissed]
  cases h : nameMissed ev <;> simp [h]

lemma tagsRead_append (l : List (Event Op Exn)) (ev : Event Op Exn) :
    tagsRead (l ++ [ev]) = (tagsLoaded ev).or (tagsRead l) := by
  rw [tagsRead, List.filterMap_append, tagsRead]
  cases h : tagsLoaded ev <;> simp [h]

end Reads

lemma gave_of_rely (h : Rely i v w) : gave i call w = gave i call v :=
    congrArg (List.filterMap call.gives) h.own

lemma gave_append (v : system.World) (s : State) (o : Op α) (r : Except Exn α) :
    gave i call ⟨s, v.history ++ [⟨i, o, r⟩]⟩ = gave i call v ++ (call.gives ⟨i, o, r⟩).toList := by
  rw [gave, gave]
  dsimp only
  rw [own_append_self, List.filterMap_append]
  cases h : call.gives ⟨i, o, r⟩ <;> simp [h]

lemma gave_read {o : Op α} (ho : o.writes = false) (v : system.World) (s : State)
    (r : Except Exn α) :
    gave i call ⟨s, v.history ++ [⟨i, o, r⟩]⟩ = gave i call v := by
  rw [gave_append, gives_eq_none ho, Option.toList_none, List.append_nil]

/-- What a request still knows of what it has read, once others and it itself have gone on. -/
structure Since (i : ℕ) (call : Call) (v w : system.World) : Prop where
  keeps : Keeps (State.db v.state) (State.db w.state)
  read : tagsRead (own i w.history) = tagsRead (own i v.history)
  missed : namesMissed (own i v.history) ⊆ namesMissed (own i w.history)
  gave : gave i call w = gave i call v

lemma Since.trans {u : system.World} (h : Since i call u v) (h' : Since i call v w) :
    Since i call u w :=
  ⟨h.keeps.trans h'.keeps, h'.read.trans h.read, List.Subset.trans h.missed h'.missed,
    h'.gave.trans h.gave⟩

lemma Since.of_rely (h : Rely i v w) : Since i call v w :=
  ⟨h.keeps, by rw [h.own], by rw [h.own]; exact List.Subset.refl _, gave_of_rely h⟩

lemma Since.append (call : Call) {o : Op α} {r : Except Exn α} (ho : o.writes = false)
    (htags : tagsLoaded (⟨i, o, r⟩ : Event Op Exn) = none) :
    Since i call v ⟨v.state, v.history ++ [⟨i, o, r⟩]⟩ := by
  refine ⟨.refl _, ?_, ?_, gave_read ho v v.state r⟩
  · dsimp only
    rw [own_append_self, tagsRead_append, htags]
    rfl
  · dsimp only
    rw [own_append_self, namesMissed_append]
    exact List.subset_append_left _ _

structure Loaded (i : ℕ) (quizId : UUID) (quiz : LoadedQuiz) (w : system.World) : Prop where
  id_eq : quiz.quiz.quizId = quizId
  row : ∃ row, (State.db w.state).quizzes.get? quizId = some row ∧
    row.creatorId = quiz.quiz.creatorId ∧
    row.status = quiz.quiz.status
  read : tagsRead (own i w.history) = some quiz.quiz.tags
  filled : quiz.quiz.maxParticipants.isSome

lemma Loaded.since {quizId : UUID} {quiz : LoadedQuiz} (h : Loaded i quizId quiz v)
    (hs : Since i call v w) :
    Loaded i quizId quiz w := by
  obtain ⟨row, hrow, hcreator, hstatus⟩ := h.row
  obtain ⟨kept, hkept, hcreator', hstatus'⟩ := hs.keeps.quizzes quizId row hrow
  exact ⟨h.id_eq, ⟨kept, hkept, hcreator'.trans hcreator, hstatus'.trans hstatus⟩,
    hs.read.trans h.read, h.filled⟩

def Fetched (i : ℕ) (call : Call) (quizId : UUID) (w : system.World) :
    Except Exn (Option LoadedQuiz) → system.World → Prop
  | .ok none, v => (State.db w.state).quizzes.get? quizId = none ∧ gave i call v = gave i call w
  | .ok (some quiz), v =>
    Keeps (State.db w.state) (State.db v.state) ∧ Loaded i quizId quiz v ∧
      gave i call v = gave i call w
  | .error _, _ => False

lemma fetchQuiz_ensures (quizId : UUID) (w : system.World) :
    (contract i call).Ensures i (Fetched i call quizId w) (fetchQuiz quizId) w := by
  refine read_bind (fun s => s.db.quizzes.get? quizId) (fun _ => rfl) rfl fun v hr hi => ?_
  have hgave : gave i call ⟨v.state,
    v.history ++ [⟨i, .selectQuiz quizId, .ok ((State.db v.state).quizzes.get? quizId)⟩]⟩ =
      gave i call w := (gave_read rfl v v.state _).trans (gave_of_rely hr)
  cases hquiz : (State.db v.state).quizzes.get? quizId with
  | none =>
    refine ⟨Option.eq_none_iff_forall_ne_some.mpr fun quiz h => ?_, hquiz ▸ hgave⟩
    obtain ⟨kept, hkept, -⟩ := hr.keeps.quizzes quizId quiz h
    rw [hquiz] at hkept
    cases hkept
  | some quiz =>
    refine read_bind (fun s => s.db.selectQuestions quizId) (fun _ => rfl) rfl fun v₁ hr₁ _ => ?_
    refine read_bind (fun s => Platform.arrange (((s.db.quizzes.get? quizId).map Quiz.tags).getD
      [])) (fun _ => rfl) rfl
      fun v₂ hr₂ _ => ?_
    have hkeeps : Keeps (State.db v.state) (State.db v₂.state) := hr₁.keeps.trans hr₂.keeps
    have hid : quiz.quizId = quizId := Table.key_get? hquiz
    refine ⟨hr.keeps.trans hkeeps, ⟨hid, hkeeps.quizzes quizId quiz hquiz, ?_, hi.filled quiz
      (Table.mem_get? hquiz)⟩, ?_⟩
    · dsimp only
      rw [own_append_self, tagsRead_append]
      rfl
    · calc gave i call ⟨v₂.state, v₂.history ++ [⟨i, .selectTags quizId, _⟩]⟩
          = gave i call v₂ := gave_read rfl v₂ v₂.state _
        _ = gave i call ⟨v₁.state, v₁.history ++ [⟨i, .selectQuestions quizId, _⟩]⟩ :=
            gave_of_rely hr₂
        _ = gave i call v₁ := gave_read rfl v₁ v₁.state _
        _ = gave i call ⟨v.state, v.history ++ [⟨i, .selectQuiz quizId, .ok (some quiz)⟩]⟩ :=
            gave_of_rely hr₁
        _ = gave i call w := hquiz ▸ hgave

lemma refetchQuiz_ensures (held : LoadedQuiz)
    (h : ∃ quiz, (State.db w.state).quizzes.get? held.quiz.quizId = some quiz) :
    (contract i call).Ensures i (fun r v => r = .ok (some held) ∧ gave i call v = gave i call w)
      (refetchQuiz held) w := by
  refine read_bind (fun s => s.db.quizzes.get? held.quiz.quizId) (fun _ => rfl) rfl fun v hr _ => ?_
  obtain ⟨quiz, hquiz⟩ := h
  obtain ⟨kept, hkept, -⟩ := hr.keeps.quizzes held.quiz.quizId quiz hquiz
  rw [hkept]
  refine read_bind (fun s => s.db.selectQuestions held.quiz.quizId) (fun _ => rfl) rfl
    fun v₁ hr₁ _ => ?_
  refine read_bind (fun s => Platform.arrange
    (((s.db.quizzes.get? held.quiz.quizId).map Quiz.tags).getD [])) (fun _ => rfl)
    rfl fun v₂ hr₂ _ => ⟨rfl, ?_⟩
  calc gave i call ⟨v₂.state, v₂.history ++ [⟨i, .selectTags held.quiz.quizId, _⟩]⟩
      = gave i call v₂ := gave_read rfl v₂ v₂.state _
    _ = gave i call ⟨v₁.state, v₁.history ++ [⟨i, .selectQuestions held.quiz.quizId, _⟩]⟩ :=
        gave_of_rely hr₂
    _ = gave i call v₁ := gave_read rfl v₁ v₁.state _
    _ = gave i call ⟨v.state, v.history ++ [⟨i, .selectQuiz held.quiz.quizId, .ok (some kept)⟩]⟩ :=
        gave_of_rely hr₁
    _ = gave i call v := gave_read rfl v v.state _
    _ = gave i call w := gave_of_rely hr

structure Looked (i : ℕ) (call : Call) (created tagNames all : List String) (v w : system.World) :
    Prop where
  nodup : all.Nodup
  grows : created ⊆ all
  missed : ∀ t ∈ all, t ∈ namesMissed (own i w.history)
  found : ∀ t ∈ tagNames, t ∈ all ∨ t ∈ (State.db w.state).tags.rows
  since : Since i call v w

lemma getOrCreateTags_ensures {created : List String} (tagNames : List String)
    (hnodup : created.Nodup) (hmissed : ∀ t ∈ created, t ∈ namesMissed (own i w.history)) :
    (contract i call).Ensures i (fun r v => ∃ all, r = .ok all ∧ Looked i call created
      tagNames all w v)
      (getOrCreateTags created tagNames) w := by
  induction tagNames generalizing created w with
  | nil =>
    exact ⟨created, rfl, hnodup, List.Subset.refl _, hmissed, List.forall_mem_nil _,
      .of_rely ((contract i call).refl w)⟩
  | cons name tagNames ih =>
    refine read_bind (fun s => s.db.tags.get? name) (fun _ => rfl) rfl fun v hr hi => ?_
    have hsince := (Since.of_rely hr).trans (Since.append call (o := .selectTag name)
      (r := .ok ((State.db v.state).tags.get? name)) rfl rfl)
    cases hrow : (State.db v.state).tags.get? name with
    | some tag =>
      rw [hrow] at hsince
      refine (ih hnodup fun t ht => hsince.missed (hmissed t ht)).mono ?_
      rintro r u ⟨all, rfl, hall⟩
      refine ⟨all, rfl, hall.nodup, hall.grows, hall.missed, List.forall_mem_cons.mpr
        ⟨.inr ?_, hall.found⟩, hsince.trans hall.since⟩
      obtain ⟨hmem, rfl⟩ := Table.get?_eq_some.mp hrow
      exact hall.since.keeps.tags hmem
    | none =>
      rw [hrow] at hsince
      have hnext : (if name ∈ created then created else created ++ [name]).Nodup := by
        split
        · exact hnodup
        · next hnew => exact hnodup.append (List.nodup_singleton name) (by simpa using hnew)
      have hname : name ∈ namesMissed (own i (v.history ++ [⟨i, .selectTag name, .ok none⟩])) := by
        rw [own_append_self, namesMissed_append]
        exact List.mem_append_right _ List.mem_cons_self
      have hcreated : ∀ t, t ∈ (if name ∈ created then created else created ++ [name]) ↔
          t ∈ created ∨ t = name := by
        intro t
        split
        · next hmem => exact ⟨.inl, fun h => h.elim id fun heq => heq ▸ hmem⟩
        · rw [List.mem_append, List.mem_singleton]
      refine (ih hnext fun t ht => ?_).mono ?_
      · rcases (hcreated t).mp ht with ht | rfl
        · exact hsince.missed (hmissed t ht)
        · exact hname
      · rintro r u ⟨all, rfl, hall⟩
        refine ⟨all, rfl, hall.nodup, fun t ht =>
          hall.grows ((hcreated t).mpr (.inl ht)), hall.missed,
          List.forall_mem_cons.mpr ⟨.inl (hall.grows ((hcreated name).mpr (.inr rfl))), hall.found⟩,
          hsince.trans hall.since⟩

def Acceptable (s : State) : Call → Prop
  | .createQuiz _ data => ∃ questions, newQuestions 1 data.questions = .ok questions
  | .updateQuiz quizId userId data =>
    (∃ quiz, s.db.quizzes.get? quizId = some quiz ∧ quiz.creatorId = userId ∧
      quiz.status ≠ .published) ∧
      ∀ body ∈ data.questions, ∃ added, newQuestions 1 body = .ok added
  | .setQuizStatus .. => True

section Requests

variable {good : ℕ → Prop}

lemma respond_ensures {held : LoadedQuiz}
    (h : ∃ quiz, (State.db w.state).quizzes.get? held.quiz.quizId = some quiz)
    (hfilled : held.quiz.maxParticipants.isSome)
    (hgave : gave i call w = (call.tagNames.map fun names => (held.quiz.quizId, names)).toList) :
    (contract i call).Ensures i ((discipline good).post i call) (do
      let some quiz ← refetchQuiz held | throw .quizNotFoundError
      Coro.done (quizToResponse quiz false)) w := by
  refine (refetchQuiz_ensures held h).bind (fun found v hv => ?_) fun e v hv => (by cases hv.1)
  obtain ⟨hfound, hsame⟩ := hv
  cases hfound
  obtain ⟨out, hout, hid⟩ := quizToResponse_filled hfilled false
  change (discipline good).post i call (quizToResponse held false) v
  rw [hout]
  refine ⟨fun _ => ⟨out, rfl⟩, ?_⟩
  rw [hsame, hgave, Call.handed, hid]

lemma refused {e : Exn} (hgood : ¬good i) (hgave : gave i call w = []) :
    (discipline good).post i call (.error e) w :=
  ⟨fun hg => (hgood hg).elim, hgave⟩

lemma createQuiz_ensures {userId : UUID} {data : QuizCreate}
    (hgave : gave i (.createQuiz userId data) w = [])
    (hgood : good i → Acceptable w.state (.createQuiz userId data)) :
    (contract i (.createQuiz userId data)).Ensures i
      ((discipline good).post i (.createQuiz userId data))
      (createQuiz userId data) w := by
  refine (getOrCreateTags_ensures data.tags List.nodup_nil (List.forall_mem_nil _)).bind
    (fun newTags v hv => ?_)
    fun e v hv => ?_
  · obtain ⟨all, heq, hlooked⟩ := hv
    cases heq
    cases hq : newQuestions 1 data.questions with
    | error e =>
      refine refused (fun hg => ?_) (hlooked.since.gave.trans hgave)
      obtain ⟨questions, hquestions⟩ := hgood hg
      rw [hq] at hquestions
      cases hquestions
    | ok questions =>
      refine ok_bind fun u hr hi hallowed => ?_
      have hsince : Since i (.createQuiz userId data) v u := Since.of_rely hr
      obtain ⟨e, he⟩ := exists_insertQuiz (q := ⟨userId, data.title, data.description,
        data.settings.defaultTimePerQuestion, data.settings.visibility,
        some data.settings.maxParticipants, data.tags,
        questions⟩) hi hlooked.nodup fun name hname => hallowed rfl name
        (hsince.missed (hlooked.missed name hname))
      refine ⟨_, _, exec_insertQuiz he, written_insertQuiz hi he (fun t ht =>
        (hlooked.found t ht).imp_right fun h => hsince.keeps.tags h) rfl, ?_⟩
      refine respond_ensures (found_of_insertQuiz he) rfl ?_
      rw [gave_append, hsince.gave, hlooked.since.gave, hgave]
      rfl
  · obtain ⟨all, heq, -⟩ := hv
    cases heq

lemma replaceQuestions_ensures (loaded : List QuizQuestion)
    (given : Option (List QuizQuestionCreate)) :
    (contract i call).Ensures i
      (fun r v => Since i call w v ∧ ∀ e, r = .error e → ∃ body ∈ given,
        newQuestions 1 body = .error e)
      (replaceQuestions loaded given) w := by
  cases given with
  | none => exact ⟨.of_rely ((contract i call).refl w), fun e he => (by cases he)⟩
  | some body =>
    refine read_bind (fun _ => ()) (fun _ => rfl) rfl fun v hr hi => ?_
    have hsince := (Since.of_rely hr).trans (Since.append call (o := .flush) (r := .ok ()) rfl rfl)
    cases hq : newQuestions 1 body with
    | error e => exact ⟨hsince, fun e' he => ⟨body, rfl, by cases he; exact hq⟩⟩
    | ok added => exact ⟨hsince, fun e he => (by cases he)⟩

lemma gives_update {quizId userId : UUID} {data : QuizUpdate} {quiz : LoadedQuiz}
    (h : Loaded i quizId quiz w)
    (hunshared : Call.Unshared (own i w.history) (State.db w.state)
      (.updateQuiz quizId userId data)) (now : Time) :
    Gives data.tags ⟨quiz.quiz, { applyUpdate data quiz.quiz with updatedAt := now }⟩
      (State.db w.state) := by
  have htags := tags_applyUpdate data quiz.quiz
  cases hgiven : data.tags with
  | none =>
    rw [hgiven] at htags
    exact htags
  | some names =>
    rw [hgiven] at htags
    refine ⟨htags, fun row hrow => ?_⟩
    exact hunshared.2 (by rw [hgiven]; rfl) row (Table.mem_get? hrow)
      ((Table.key_get? hrow).trans h.id_eq) _ h.read

omit [Platform] in
lemma filled_applyUpdate {quiz : Quiz} (data : QuizUpdate) (h : quiz.maxParticipants.isSome) :
    (applyUpdate data quiz).maxParticipants.isSome := by
  rw [maxParticipants_applyUpdate]
  cases data.settings with
  | none => exact h
  | some settings => rfl

lemma updateQuiz_ensures {quizId userId : UUID} {data : QuizUpdate}
    (hgave : gave i (.updateQuiz quizId userId data) w = [])
    (hgood : good i → Acceptable w.state (.updateQuiz quizId userId data)) :
    (contract i (.updateQuiz quizId userId data)).Ensures i
      ((discipline good).post i (.updateQuiz quizId userId data))
      (updateQuiz quizId userId data) w := by
  refine (fetchQuiz_ensures quizId w).bind (fun found v hv => ?_) fun e v hv => hv.elim
  cases found with
  | none =>
    obtain ⟨hnone, hsame⟩ := hv
    refine refused (fun hg => ?_) (hsame.trans hgave)
    obtain ⟨⟨quiz, hquiz, -⟩, -⟩ := hgood hg
    rw [hquiz] at hnone
    cases hnone
  | some quiz =>
    obtain ⟨hkeeps, hloaded, hsame⟩ := hv
    have hadmitted : good i → quiz.quiz.creatorId = userId ∧ quiz.quiz.status ≠ .published := by
      intro hg
      obtain ⟨⟨old, hold, howner, hstatus⟩, -⟩ := hgood hg
      obtain ⟨kept, hkept, hcreator, hsame⟩ := hkeeps.quizzes quizId old hold
      obtain ⟨row, hrow, hcreator', hsame'⟩ := hloaded.row
      obtain rfl : kept = row := Option.some.inj (hkept.symm.trans hrow)
      rw [← hcreator', ← hsame', hcreator, hsame]
      exact ⟨howner, hstatus⟩
    have hnothing : gave i (.updateQuiz quizId userId data) v = [] := hsame.trans hgave
    refine .require (fun _ => ?_) fun h => refused (fun hg => h (hadmitted hg).1) hnothing
    refine .require (fun _ => ?_) fun h => refused (fun hg => h (hadmitted hg).2) hnothing
    refine (getOrCreateTags_ensures (data.tags.getD []) List.nodup_nil (List.forall_mem_nil _)).bind
      (fun newTags v₁ hv₁ => ?_) fun e v₁ hv₁ => ?_
    · obtain ⟨all, heq, hlooked⟩ := hv₁
      cases heq
      refine (replaceQuestions_ensures quiz.questions data.questions).bind
        (fun changes v₂ hv₂ => ?_) fun e v₂ hv₂ => ?_
      · refine read_bind State.now (fun _ => rfl) rfl fun v₃ hr₃ _ => ?_
        refine ok_bind fun v₄ hr₄ hi₄ hallowed => ?_
        have hsince : Since i (.updateQuiz quizId userId data) v₁ v₄ :=
          hv₂.1.trans ((Since.of_rely hr₃).trans
          ((Since.append _ (o := .now) (r := .ok (State.now v₃.state)) rfl rfl).trans
            (.of_rely hr₄)))
        have hloaded₄ := hloaded.since (hlooked.since.trans hsince)
        have hgives := gives_update hloaded₄ (hallowed rfl) (State.now v₃.state)
        have hfilled := filled_applyUpdate data hloaded.filled
        obtain ⟨row, hrow, -⟩ := hloaded₄.row
        have hfound : (State.db v₄.state).quizzes.get? quiz.quiz.quizId = some row :=
          hloaded.id_eq ▸ hrow
        obtain ⟨e, he⟩ := exists_commit
          (c := ⟨⟨quiz.quiz, { applyUpdate data quiz.quiz with updatedAt := State.now v₃.state }⟩,
          newTags, changes.1, changes.2⟩) hi₄ hfound (hgives.not_clash hfound) hlooked.nodup
          fun name hname =>
            (hallowed rfl).1 name (hsince.missed (hlooked.missed name hname))
        have hwritten := written_commit hi₄ he hgives (status_applyUpdate data quiz.quiz)
          (fun names hnames t ht => by
          have hgiven : data.tags = some names := hnames
          refine (hlooked.found t ?_).imp_right fun h => hsince.keeps.tags h
          rw [hgiven]
          exact ht) hfilled
        obtain ⟨kept, hkept, -⟩ := hwritten.keeps.quizzes quiz.quiz.quizId row hfound
        refine ⟨_, _, exec_commit he, hwritten, respond_ensures ⟨kept, ?_⟩ hfilled ?_⟩
        · rw [quizId_applyUpdate]
          exact hkept
        · rw [gave_append, hsince.gave, hlooked.since.gave, hnothing, quizId_applyUpdate]
          rfl
      · refine refused (fun hg => ?_) (hv₂.1.gave.trans (hlooked.since.gave.trans hnothing))
        obtain ⟨body, hbody, herror⟩ := hv₂.2 e rfl
        obtain ⟨added, hadded⟩ := (hgood hg).2 body hbody
        rw [herror] at hadded
        cases hadded
    · obtain ⟨all, heq, -⟩ := hv₁
      cases heq

end Requests

lemma fetchQuiz_alone (quizId : UUID) (s : State) : (fetchQuiz quizId).alone exec s =
    (.ok ((s.db.quizzes.get? quizId).map fun quiz =>
      ⟨{ quiz with tags := Platform.arrange quiz.tags }, s.db.selectQuestions quizId⟩), s) := by
  refine (alone_perform_bind (a := s.db.quizzes.get? quizId) rfl).trans ?_
  cases hquiz : s.db.quizzes.get? quizId with
  | none => rfl
  | some quiz =>
    have htags : exec (.selectTags quizId) s = (.ok (Platform.arrange quiz.tags), s) := by
      rw [exec, hquiz]
      rfl
    exact (alone_perform_bind (a := s.db.selectQuestions quizId) rfl).trans
      (alone_perform_bind htags)

lemma acceptable_of_alone {s : State} {out : QuizOut} (h : ((code call).alone exec s).1 = .ok out) :
    Acceptable s call := by
  cases call with
  | createQuiz userId data =>
    obtain ⟨all, hall, -⟩ := Tags.getOrCreateTags_alone s [] data.tags List.nodup_nil
    cases hq : newQuestions 1 data.questions with
    | ok questions => exact ⟨questions, hq⟩
    | error e =>
      rw [code, createQuiz, alone_bind_ok hall, hq] at h
      cases h
  | updateQuiz quizId userId data =>
    rw [code, updateQuiz, alone_bind_ok (fetchQuiz_alone quizId s)] at h
    cases hquiz : s.db.quizzes.get? quizId with
    | none =>
      rw [hquiz] at h
      cases h
    | some quiz =>
      rw [hquiz, Option.map_some] at h
      simp only [alone_require_bind] at h
      split_ifs at h with howner hpublished
      obtain ⟨all, hall, -⟩ := Tags.getOrCreateTags_alone s [] (data.tags.getD []) List.nodup_nil
      rw [alone_bind_ok hall] at h
      refine ⟨⟨quiz, hquiz, howner, hpublished⟩, fun body hbody => ?_⟩
      have hgiven : data.questions = some body := hbody
      cases hq : newQuestions 1 body with
      | ok added => exact ⟨added, rfl⟩
      | error e =>
        have hreplace : (replaceQuestions (s.db.selectQuestions quizId) data.questions).alone exec
            s = (.error e, s) := by
          rw [hgiven]
          refine (alone_perform_bind (a := ()) rfl).trans ?_
          rw [hq]
          rfl
        rw [alone_bind_error hreplace] at h
        cases h
  | setQuizStatus quizId newStatus userId => trivial

end SharedTags

end

end Askit.Quizzes

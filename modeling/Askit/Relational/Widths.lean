import Askit.Relational.Fitting

/-! What a validated body has to satisfy for the columns to take it. -/

namespace Askit.Relational

open Interleaving Coro Tables
open Game (UUID Time Runtime)
open Quizzes (Platform QuizAnswerCreate QuizQuestionCreate QuizCreate QuizUpdate QuizOut NewQuestion
  Exn Varchar Integer
  TagName newQuestions)

section Storing

variable [Platform]
variable {p q : Point Database World} {quizId userId questionId : UUID}

lemma settings_of_refused {d : Database} {w : World} {raw data : QuizUpdate} {quiz : Quiz}
    (h : Known ⟨d, d, w⟩)
    (hquiz : d.quizzes.get? quizId = some quiz) (howner : quiz.creatorId = userId)
    (hstatus : quiz.status ≠ .published)
    (hdata : raw.validate = .ok data) {body : List QuizQuestionCreate}
    (hgiven : data.questions = some body) {message : String} {e : Database} {w' : World}
    (hrun : serve (updateQuiz quizId userId data) d w =
      (.error (.invalidQuizDataError message), e, w')) :
    ∀ settings ∈ data.settings, Integer settings.defaultTimePerQuestion := by
  obtain ⟨d₁, tags, p, hp⟩ := exists_retagged h hquiz hdata
  obtain rfl := Table.key_get? hquiz
  cases hset : Sql.updateQuiz quiz.quizId { settings := data.settings } p.seen with
  | ok e => exact fun settings hs => ((Sql.updateQuiz_ok_iff.mp ⟨e, hset⟩).1.2.2 settings hs).1
  | error err =>
    have hrefused : Refused (editQuiz quiz.quizId userId data) ⟨d, d, w⟩ err := by
      refine .of_yields (fetchQuiz_yields hquiz)
        (.of_yields (.require _ howner _) (.of_yields (.require _ hstatus _)
        (.of_yields (.stage hp.fields) (.of_yields hp.replaced ?_))))
      rw [Refused, Point.view, stage, alone_perform_bind rfl, hgiven]
      change (Coro.alone View.exec _
        ⟨p.committed, Sql.updateQuiz quiz.quizId { settings := data.settings } p.seen, p.world⟩).1
        = .error err
      rw [hset]
      rfl
    obtain ⟨w'', hserve⟩ := hrefused.serve (f := fetchCommitted) (uncommitted_editQuiz data)
    have herror := congrArg Prod.fst (hserve.symm.trans hrun)
    exact absurd (Except.error.inj herror) (valid_updateQuiz _ _ hset message)

/-- The creation is refused as invalid and changes nothing, or it stores the quiz. -/
def CreateSettles (d : Database) (w : World) (userId : UUID) (data : QuizCreate) : Prop :=
  (∃ message w', serve (createQuiz userId data) d w =
    (.error (.invalidQuizDataError message), d, w')) ∨
    ∃ quiz out e w', quizToResponse quiz false = .ok out ∧ serve (createQuiz userId data) d w =
      (.ok out, e, w') ∧
      Created userId data quiz d e

def UpdateSettles (d : Database) (w : World) (quizId userId : UUID) (data : QuizUpdate) : Prop :=
  (∃ message w', serve (updateQuiz quizId userId data) d w =
    (.error (.invalidQuizDataError message), d, w')) ∨
    ∃ quiz out, ∃ e : Database, ∃ w', quizToResponse quiz false = .ok out ∧
      serve (updateQuiz quizId userId data) d w = (.ok out, e, w') ∧ Updated quizId data
        d.toRows e.toRows

section Settled

variable {d : Database} {w : World}

lemma newQuiz_refused {raw data : QuizCreate} (hdata : raw.validate = .ok data)
    (hbody : ¬Answerable data.questions) :
    ∃ message, Refused (newQuiz userId data) ⟨d, d, w⟩ (.invalidQuizDataError message) := by
  obtain ⟨-, -, htags, -, -⟩ := QuizCreate.of_validate hdata
  obtain ⟨message, hrefused⟩ := newQuestions_refused hbody 1
  obtain ⟨r, hr⟩ := getOrCreateTags_yields (p := ⟨d, d, w⟩) (Quizzes.tagName_of_validateTags htags)
  exact ⟨message, .of_yields hr (.bind (hrefused ▸ .done _ _))⟩

lemma createSettles_iff {raw data : QuizCreate} (h : Known ⟨d, d, w⟩)
    (huser : userId ∈ d.users.keys) (hdata : raw.validate = .ok data) :
    CreateSettles d w userId data ↔ CreateFits data := by
  constructor
  · rintro (⟨message, w', hrun⟩ | ⟨quiz, out, e, w', -, hrun, -⟩) hcorrect
    · exact (Raises.serve (raises_createQuiz hcorrect) hrun message rfl).elim
    · rcases serve_commitQuiz (x := newQuiz userId data) (w := w) (uncommitted_newQuiz data)
        found_of_newQuiz with
        ⟨err, w'', -, herr⟩ | ⟨held, q, -, hyields, -⟩
      · rw [createQuiz, herr] at hrun
        cases hrun
      · exact fits_of_newQuiz hdata hyields
  · intro hfits
    by_cases hcorrect : Answerable data.questions
    · obtain ⟨htime, hquestions⟩ := hfits hcorrect
      obtain ⟨quiz, q, hyields⟩ := newQuiz_yields h huser hdata hcorrect htime hquestions
      have hcreated := created_of_yields hyields
      obtain ⟨now, hfields⟩ := hcreated.fields
      have hfilled : quiz.quiz.maxParticipants.isSome := by rw [hfields]; rfl
      obtain ⟨out, hout⟩ := quizToResponse_filled hfilled false
      refine .inr ⟨quiz, out, q.seen, q.world, hout, ?_, hcreated⟩
      rw [createQuiz, serve_commitQuiz_of_yields hyields (found_of_newQuiz quiz q hyields), hout]
    · obtain ⟨message, hrefused⟩ := newQuiz_refused hdata hcorrect
      exact .inl ⟨message, hrefused.serve (uncommitted_newQuiz data)⟩

lemma updateSettles_iff {raw data : QuizUpdate} {quiz : Quiz} (h : Known ⟨d, d, w⟩)
    (hd : d.Filled) (hquiz : d.quizzes.get? quizId = some quiz) (howner : quiz.creatorId = userId)
    (hstatus : quiz.status ≠ .published) (hdata : raw.validate = .ok data) :
    UpdateSettles d w quizId userId data ↔ UpdateFits data := by
  constructor
  · rintro (⟨message, w', hrun⟩ | ⟨held, out, e, w', -, hrun, -⟩)
    · by_cases hcorrect : ∀ body ∈ data.questions, Answerable body
      · exact (Raises.serve (raises_updateQuiz hcorrect) hrun message rfl).elim
      · push Not at hcorrect
        obtain ⟨body, hbody, hunanswerable⟩ := hcorrect
        have hgiven : data.questions = some body := hbody
        refine ⟨settings_of_refused h hquiz howner hstatus hdata hgiven hrun,
          fun other hother hanswerable => ?_⟩
        obtain rfl : body = other := Option.some.inj (hgiven.symm.trans hother)
        exact (hunanswerable hanswerable).elim
    · rcases serve_commitQuiz (x := editQuiz quizId userId data) (w := w)
        (uncommitted_editQuiz data) found_of_editQuiz
        with ⟨err, w'', -, herr⟩ | ⟨held', q, -, hyields, -⟩
      · rw [updateQuiz, herr] at hrun
        cases hrun
      · exact fits_of_editQuiz hdata hyields
  · rintro ⟨htime, hquestions⟩
    by_cases hcorrect : ∀ body ∈ data.questions, Answerable body
    · obtain ⟨held, q, hyields⟩ := editQuiz_yields h hquiz howner hstatus hdata htime
        fun body hbody =>
        ⟨hcorrect body hbody, hquestions body hbody (hcorrect body hbody)⟩
      have hedited := edited_of_yields hyields
      obtain ⟨out, hout⟩ := quizToResponse_filled (hedited.filled hd) false
      refine .inr ⟨held, out, q.seen, q.world, hout, ?_, hedited.updated⟩
      rw [updateQuiz, serve_commitQuiz_of_yields hyields (found_of_editQuiz held q hyields), hout]
    · push Not at hcorrect
      obtain ⟨body, hbody, hunanswerable⟩ := hcorrect
      obtain ⟨message, hrefused⟩ := editQuiz_refused h hquiz howner hstatus hdata htime
        hbody hunanswerable
      exact .inl ⟨message, hrefused.serve (uncommitted_editQuiz data)⟩

end Settled

/-- From every state that the site can reach, a validated body is refused as invalid or stored just
when what is written for it fits the columns. -/
theorem settles_iff {s : Site} (h : s.Reachable) {userId : UUID} :
    (userId ∈ s.db.users.keys → ∀ raw data : QuizCreate, raw.validate = .ok data →
      (CreateSettles s.db s.world userId data ↔ CreateFits data)) ∧
    ∀ quizId quiz, s.db.quizzes.get? quizId = some quiz → quiz.creatorId = userId →
      quiz.status = .draft → ∀ raw data : QuizUpdate, raw.validate = .ok data →
        (UpdateSettles s.db s.world quizId userId data ↔ UpdateFits data) := by
  have hknown : Known ⟨s.db, s.db, s.world⟩ := ⟨h.inv.quizzes, h.inv.questions, h.inv.answers⟩
  refine ⟨fun huser raw data hdata => createSettles_iff hknown huser hdata,
    fun quizId quiz hquiz howner hstatus raw data hdata => updateSettles_iff hknown h.inv.filled
    hquiz howner ?_ hdata⟩
  rw [hstatus]
  decide

end Storing

section

attribute [local instance] Platform.ascii

namespace Sample

/-- The text of its question is one character too long. -/
def wordy : QuizCreate :=
  ⟨"Oceans", none, [], ⟨30000, .private_, 5⟩,
    [⟨String.ofList (List.replicate 256 'w'), 20000, false,
    [⟨"Pacific", true⟩, ⟨"Arctic", false⟩]⟩]⟩

def deeper : QuizUpdate := ⟨some " Deep oceans ", none, some ["Sea"], none, some oceans.questions⟩

end Sample

open Sample

theorem settles_iff_stocked : CreateSettles registered.db registered.world member.id oceans ∧
    UpdateSettles stocked.db stocked.world (Runtime.uuid4 1) member.id
      { deeper with title := some "Deep oceans", tags := some ["sea"] } := by
  constructor
  · refine ((settles_iff registered_reachable).1 (by decide +kernel) oceans oceans
      (by decide +kernel)).mpr fun _ => ?_
    simp only [oceans, QuestionsFit]
    decide
  · refine ((settles_iff stocked_reachable).2 (Runtime.uuid4 1)
      ⟨Runtime.uuid4 1, member.id, "Oceans", none, 30000, .private_, .draft, some 5, 7, 7⟩
        (by decide +kernel) rfl rfl
      deeper _ (by decide +kernel)).mpr ⟨fun _ hs => (by cases hs), ?_⟩
    rintro body ⟨⟩ -
    simp only [oceans, QuestionsFit]
    decide

theorem wordy_not_settled : wordy.validate = .ok wordy ∧
    (serve (createQuiz member.id wordy) registered.db registered.world).1 = .error .dataError ∧
    ¬CreateSettles registered.db registered.world member.id wordy := by
  have hrefused : (serve (createQuiz member.id wordy) registered.db registered.world).1 =
      .error .dataError := by
    decide +kernel
  refine ⟨by decide +kernel, hrefused, ?_⟩
  rintro (⟨message, w, hrun⟩ | ⟨quiz, out, e, w, -, hrun, -⟩)
  · rw [hrun] at hrefused
    cases hrefused
  · rw [hrun] at hrefused
    cases hrefused

end

end Askit.Relational

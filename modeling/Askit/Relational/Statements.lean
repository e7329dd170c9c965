import Askit.Quizzes.Schemas
import Askit.Relational.Rows
import Askit.Tables.Transactions

/-! The statements that write the tables. The database refuses what its constraints exclude, and
follows the references that are declared `ON DELETE CASCADE`. -/

namespace Askit.Relational

open Tables
open Game (UUID Time Dirty GameSession GamePlayer GamePlayerAnswer GameSessionStatus)
open Quizzes (QuizStatus QuizSettingsCreate Varchar Integer TagName Exn)
open Auth (User)

abbrev Write := Tables.Write Database Exn

/-- The columns that an `UPDATE` of a quiz sets. -/
structure QuizSet where
  title : Option String := none
  description : Option String := none
  settings : Option QuizSettingsCreate := none
  status : Option QuizStatus := none
  updatedAt : Option Time := none
  deriving DecidableEq, Repr

namespace QuizSet

def apply (c : QuizSet) (q : Quiz) : Quiz :=
  { q with
    title := c.title.getD q.title
    description := c.description.or q.description
    defaultTimePerQuestion := (c.settings.map QuizSettingsCreate.defaultTimePerQuestion).getD
      q.defaultTimePerQuestion
    visibility := (c.settings.map QuizSettingsCreate.visibility).getD q.visibility
    maxParticipants := (c.settings.map QuizSettingsCreate.maxParticipants).or q.maxParticipants
    status := c.status.getD q.status
    updatedAt := c.updatedAt.getD q.updatedAt }

@[simp] lemma quizId_apply (c : QuizSet) (q : Quiz) : (c.apply q).quizId = q.quizId := rfl

@[simp] lemma creatorId_apply (c : QuizSet) (q : Quiz) : (c.apply q).creatorId = q.creatorId := rfl

lemma filled_apply (c : QuizSet) {q : Quiz} (h : q.maxParticipants.isSome) :
    (c.apply q).maxParticipants.isSome := by
  unfold QuizSet.apply
  cases c.settings with
  | none => exact h
  | some settings => rfl

def Fits (c : QuizSet) : Prop :=
  (∀ title ∈ c.title, Varchar 50 title) ∧ (∀ description ∈ c.description, Varchar 300 description) ∧
    ∀ settings ∈ c.settings, Integer settings.defaultTimePerQuestion ∧
      Integer settings.maxParticipants

instance : DecidablePred Fits := fun _ => inferInstanceAs (Decidable (_ ∧ _ ∧ _))

lemma Fits.apply {c : QuizSet} {q : Quiz} (hc : c.Fits) (hq : q.Fits) : (c.apply q).Fits := by
  obtain ⟨htitle, hdescription, hsettings⟩ := hc
  obtain ⟨hold, hdescribed, htime, hmax⟩ := hq
  refine ⟨?_, ?_, ?_, ?_⟩
  · cases ht : c.title with
    | none => simpa [QuizSet.apply, ht] using hold
    | some title => simpa [QuizSet.apply, ht] using htitle title ht
  · cases hd : c.description with
    | none => simpa [QuizSet.apply, hd] using hdescribed
    | some description => simpa [QuizSet.apply, hd] using hdescription description hd
  · cases hs : c.settings with
    | none => simpa [QuizSet.apply, hs] using htime
    | some settings => simpa [QuizSet.apply, hs] using (hsettings settings hs).1
  · cases hs : c.settings with
    | none => simpa [QuizSet.apply, hs] using hmax
    | some settings => simpa [QuizSet.apply, hs] using (hsettings settings hs).2

end QuizSet

structure SessionSet where
  status : Option GameSessionStatus := none
  currentQuestionIndex : Option ℕ := none
  startedAt : Option Time := none
  endedAt : Option Time := none
  deriving DecidableEq, Repr

def SessionSet.apply (c : SessionSet) (g : GameSession) : GameSession :=
  { g with
    status := c.status.getD g.status
    currentQuestionIndex := c.currentQuestionIndex.getD g.currentQuestionIndex
    startedAt := c.startedAt.or g.startedAt
    endedAt := c.endedAt.or g.endedAt }

@[simp] lemma SessionSet.sessionId_apply (c : SessionSet) (g : GameSession) :
    (c.apply g).sessionId = g.sessionId := rfl

structure PlayerSet where
  score : Option ℤ := none
  isConnected : Option Bool := none
  deriving DecidableEq, Repr

def PlayerSet.apply (c : PlayerSet) (p : GamePlayer) : GamePlayer :=
  { p with
    score := c.score.getD p.score
    isConnected := c.isConnected.getD p.isConnected }

@[simp] lemma PlayerSet.playerId_apply (c : PlayerSet) (p : GamePlayer) :
    (c.apply p).playerId = p.playerId := rfl

namespace Sql

def updateUser (userId : UUID) (u : Dirty User) : Write := fun d =>
  .ok
    { d with
      users := d.users.modify userId (User.flush u) (User.id_flush u)
      intact := { d.intact with
        quiz_creator := by
          rw [Table.keys_modify]
          exact d.intact.quiz_creator
        favorite_user := by
          rw [Table.keys_modify]
          exact d.intact.favorite_user
        session_host := by
          rw [Table.keys_modify]
          exact d.intact.session_host
        player_user := by
          rw [Table.keys_modify]
          exact d.intact.player_user } }

def insertSession (g : GameSession) : Write := fun d =>
  if h : g.sessionId ∉ d.sessions.keys ∧ g.roomCode ∉ d.sessions.rows.map GameSession.roomCode ∧
      g.quizId ∈ d.quizzes.keys ∧ g.hostId ∈ d.users.keys then
    .ok
      { d with
        sessions := d.sessions.add g h.1
        intact := { d.intact with
          session_quiz := d.intact.session_quiz.snoc fun _ hk => Option.some.inj hk ▸ h.2.2.1
          session_host := d.intact.session_host.snoc fun _ hk => Option.some.inj hk ▸ h.2.2.2
          player_session := by
            rw [Table.keys_add]
            exact d.intact.player_session.grow _
          room_codes := by
            rw [Table.rows_add, List.map_append]
            exact d.intact.room_codes.append (List.nodup_singleton _)
              (List.disjoint_singleton.mpr h.2.1) } }
  else .error .integrityError

def updateSession (sessionId : UUID) (c : SessionSet) : Write := fun d =>
  .ok
    { d with
      sessions := d.sessions.modify sessionId c.apply c.sessionId_apply
      intact := { d.intact with
        session_quiz := d.intact.session_quiz.modified c.sessionId_apply fun _ => rfl
        session_host := d.intact.session_host.modified c.sessionId_apply fun _ => rfl
        player_session := by
          rw [Table.keys_modify]
          exact d.intact.player_session
        room_codes := by
          rw [Table.rows_modify, List.map_map]
          refine (List.map_congr_left fun g _ => ?_).symm ▸ d.intact.room_codes
          simp only [Function.comp_apply]
          split <;> rfl } }

def insertPlayer (p : GamePlayer) : Write := fun d =>
  if h : p.playerId ∉ d.players.keys ∧ p.sessionId ∈ d.sessions.keys ∧ ∀ u ∈ p.userId,
    u ∈ d.users.keys then
    .ok
      { d with
        players := d.players.add p h.1
        intact := { d.intact with
          player_session := d.intact.player_session.snoc fun _ hk => Option.some.inj hk ▸ h.2.1
          player_user := d.intact.player_user.snoc h.2.2
          record_player := by
            rw [Table.keys_add]
            exact d.intact.record_player.grow _ } }
  else .error .integrityError

def updatePlayer (playerId : UUID) (c : PlayerSet) : Write := fun d =>
  .ok
    { d with
      players := d.players.modify playerId c.apply c.playerId_apply
      intact := { d.intact with
        player_session := d.intact.player_session.modified c.playerId_apply fun _ => rfl
        player_user := d.intact.player_user.modified c.playerId_apply fun _ => rfl
        record_player := by
          rw [Table.keys_modify]
          exact d.intact.record_player } }

def insertRecord (a : GamePlayerAnswer) : Write := fun d =>
  if h : a.key ∉ d.records.keys ∧ a.playerId ∈ d.players.keys ∧ a.questionId ∈ d.questions.keys then
    .ok
      { d with
        records := d.records.add a h.1
        intact := { d.intact with
          record_player := d.intact.record_player.snoc fun _ hk => Option.some.inj hk ▸ h.2.1
          record_question := d.intact.record_question.snoc fun _ hk =>
            Option.some.inj hk ▸ h.2.2 } }
  else .error .integrityError

def insertUser (u : User) : Write := fun d =>
  if h : u.id ∉ d.users.keys then
    .ok
      { d with
        users := d.users.add u h
        intact := { d.intact with
          quiz_creator := by
            rw [Table.keys_add]
            exact d.intact.quiz_creator.grow _
          favorite_user := by
            rw [Table.keys_add]
            exact d.intact.favorite_user.grow _
          session_host := by
            rw [Table.keys_add]
            exact d.intact.session_host.grow _
          player_user := by
            rw [Table.keys_add]
            exact d.intact.player_user.grow _ } }
  else .error .integrityError

def insertTag (name : String) : Write := fun d =>
  if hfits : TagName name then
    if h : name ∉ d.tags.keys then
      .ok
        { d with
          tags := d.tags.add name h
          intact := { d.intact with
            link_tag := by
              rw [Table.keys_add]
              exact d.intact.link_tag.grow _
            tags_fit := List.forall_mem_append.mpr
              ⟨d.intact.tags_fit, List.forall_mem_singleton.mpr hfits⟩ } }
    else .error .integrityError
  else .error .dataError

def insertQuiz (q : Quiz) : Write := fun d =>
  if hfits : q.Fits then
    if h : q.quizId ∉ d.quizzes.keys ∧ q.creatorId ∈ d.users.keys then
      .ok
        { d with
          quizzes := d.quizzes.add q h.1
          intact := { d.intact with
            quiz_creator := d.intact.quiz_creator.snoc fun _ hk => Option.some.inj hk ▸ h.2
            question_quiz := by
              rw [Table.keys_add]
              exact d.intact.question_quiz.grow _
            link_quiz := by
              rw [Table.keys_add]
              exact d.intact.link_quiz.grow _
            favorite_quiz := by
              rw [Table.keys_add]
              exact d.intact.favorite_quiz.grow _
            session_quiz := by
              rw [Table.keys_add]
              exact d.intact.session_quiz.grow _
            quizzes_fit :=
              List.forall_mem_append.mpr ⟨d.intact.quizzes_fit,
                List.forall_mem_singleton.mpr hfits⟩ } }
    else .error .integrityError
  else .error .dataError

/-- The ORM expects its `UPDATE` to find the row. -/
def updateQuiz (quizId : UUID) (c : QuizSet) : Write := fun d =>
  if hfits : c.Fits then
    if quizId ∈ d.quizzes.keys then
      .ok
        { d with
          quizzes := d.quizzes.modify quizId c.apply c.quizId_apply
          intact := { d.intact with
            quiz_creator := d.intact.quiz_creator.modified c.quizId_apply fun _ => rfl
            question_quiz := by
              rw [Table.keys_modify]
              exact d.intact.question_quiz
            link_quiz := by
              rw [Table.keys_modify]
              exact d.intact.link_quiz
            favorite_quiz := by
              rw [Table.keys_modify]
              exact d.intact.favorite_quiz
            session_quiz := by
              rw [Table.keys_modify]
              exact d.intact.session_quiz
            quizzes_fit := by
              intro q hq
              obtain ⟨r, hr, rfl⟩ := List.mem_map.mp hq
              split
              · exact hfits.apply (d.intact.quizzes_fit r hr)
              · exact d.intact.quizzes_fit r hr } }
    else .error .staleDataError
  else .error .dataError

def insertQuestion (q : QuizQuestion) : Write := fun d =>
  if hfits : q.Fits then
    if h : q.questionId ∉ d.questions.keys ∧ q.quizId ∈ d.quizzes.keys then
      .ok
        { d with
          questions := d.questions.add q h.1
          intact := { d.intact with
            question_quiz := d.intact.question_quiz.snoc fun _ hk => Option.some.inj hk ▸ h.2
            answer_question := by
              rw [Table.keys_add]
              exact d.intact.answer_question.grow _
            record_question := by
              rw [Table.keys_add]
              exact d.intact.record_question.grow _
            questions_fit :=
              List.forall_mem_append.mpr ⟨d.intact.questions_fit,
                List.forall_mem_singleton.mpr hfits⟩ } }
    else .error .integrityError
  else .error .dataError

def insertAnswer (a : QuizAnswer) : Write := fun d =>
  if hfits : a.Fits then
    if h : a.answerId ∉ d.answers.keys ∧ a.questionId ∈ d.questions.keys then
      .ok
        { d with
          answers := d.answers.add a h.1
          intact := { d.intact with
            answer_question := d.intact.answer_question.snoc fun _ hk => Option.some.inj hk ▸ h.2
            answers_fit :=
              List.forall_mem_append.mpr ⟨d.intact.answers_fit,
                List.forall_mem_singleton.mpr hfits⟩ } }
    else .error .integrityError
  else .error .dataError

def insertQuizTag (l : QuizTag) : Write := fun d =>
  if h : l ∉ d.quizTags.keys ∧ l.quizId ∈ d.quizzes.keys ∧ l.tag ∈ d.tags.keys then
    .ok
      { d with
        quizTags := d.quizTags.add l h.1
        intact := { d.intact with
          link_quiz := d.intact.link_quiz.snoc fun _ hk => Option.some.inj hk ▸ h.2.1
          link_tag := d.intact.link_tag.snoc fun _ hk => Option.some.inj hk ▸ h.2.2 } }
  else .error .integrityError

def insertFavorite (f : QuizFavorite) : Write := fun d =>
  if h : f ∉ d.favorites.keys ∧ f.userId ∈ d.users.keys ∧ f.quizId ∈ d.quizzes.keys then
    .ok
      { d with
        favorites := d.favorites.add f h.1
        intact := { d.intact with
          favorite_user := d.intact.favorite_user.snoc fun _ hk => Option.some.inj hk ▸ h.2.1
          favorite_quiz := d.intact.favorite_quiz.snoc fun _ hk => Option.some.inj hk ▸ h.2.2 } }
  else .error .integrityError

def deleteQuizTags (gone : QuizTag → Bool) : Write := fun d =>
  .ok
    { d with
      quizTags := d.quizTags.remove gone
      intact := { d.intact with
        link_quiz := d.intact.link_quiz.shrink _
        link_tag := d.intact.link_tag.shrink _ } }

def deleteFavorites (gone : QuizFavorite → Bool) : Write := fun d =>
  .ok
    { d with
      favorites := d.favorites.remove gone
      intact := { d.intact with
        favorite_user := d.intact.favorite_user.shrink _
        favorite_quiz := d.intact.favorite_quiz.shrink _ } }

def deleteAnswers (gone : QuizAnswer → Bool) : Write := fun d =>
  .ok
    { d with
      answers := d.answers.remove gone
      intact := { d.intact with
        answer_question := d.intact.answer_question.shrink _
        answers_fit := fun a ha => d.intact.answers_fit a (List.mem_of_mem_filter ha) } }

def deleteQuestions (gone : QuizQuestion → Bool) : Write := fun d =>
  if h : ∀ a ∈ d.answers.rows, a.questionId ∉ d.questions.removed gone then
    .ok
      { d with
        questions := d.questions.remove gone
        records := d.records.remove fun a => a.questionId ∈ d.questions.removed gone
        intact := { d.intact with
          question_quiz := d.intact.question_quiz.shrink _
          answer_question := d.intact.answer_question.restrict fun a ha _ hk =>
            Option.some.inj hk ▸ h a ha
          record_player := d.intact.record_player.shrink _
          record_question := d.intact.record_question.cascade fun a _ ha hk => by
            obtain rfl := Option.some.inj hk
            simpa using ha
          questions_fit := fun q hq => d.intact.questions_fit q (List.mem_of_mem_filter hq) } }
  else .error .integrityError

def deleteSessions (gone : GameSession → Bool) : Write := fun d =>
  .ok
    { d with
      sessions := d.sessions.remove gone
      players := d.players.remove fun p => p.sessionId ∈ d.sessions.removed gone
      records := d.records.remove fun a =>
        a.playerId ∈ d.players.removed fun p => p.sessionId ∈ d.sessions.removed gone
      intact := { d.intact with
        session_quiz := d.intact.session_quiz.shrink _
        session_host := d.intact.session_host.shrink _
        player_session := d.intact.player_session.cascade fun p _ hp hk => by
          obtain rfl := Option.some.inj hk
          simpa using hp
        player_user := d.intact.player_user.shrink _
        record_player := d.intact.record_player.cascade fun a _ ha hk => by
          obtain rfl := Option.some.inj hk
          simpa using ha
        record_question := d.intact.record_question.shrink _
        room_codes := d.intact.room_codes.sublist (List.filter_sublist.map _) } }

def deleteQuizzes (gone : Quiz → Bool) : Write := fun d =>
  if h : (∀ q ∈ d.questions.rows, q.quizId ∉ d.quizzes.removed gone) ∧
      ∀ g ∈ d.sessions.rows, g.quizId ∉ d.quizzes.removed gone then
    .ok
      { d with
        quizzes := d.quizzes.remove gone
        quizTags := d.quizTags.remove fun l => l.quizId ∈ d.quizzes.removed gone
        favorites := d.favorites.remove fun f => f.quizId ∈ d.quizzes.removed gone
        intact := { d.intact with
          quiz_creator := d.intact.quiz_creator.shrink _
          question_quiz := d.intact.question_quiz.restrict fun q hq _ hk =>
            Option.some.inj hk ▸ h.1 q hq
          link_quiz := d.intact.link_quiz.cascade fun l _ hl hk => by
            obtain rfl := Option.some.inj hk
            simpa using hl
          link_tag := d.intact.link_tag.shrink _
          favorite_user := d.intact.favorite_user.shrink _
          favorite_quiz := d.intact.favorite_quiz.cascade fun f _ hf hk => by
            obtain rfl := Option.some.inj hk
            simpa using hf
          session_quiz := d.intact.session_quiz.restrict fun g hg _ hk =>
            Option.some.inj hk ▸ h.2 g hg
          quizzes_fit := fun q hq => d.intact.quizzes_fit q (List.mem_of_mem_filter hq) } }
  else .error .integrityError

end Sql

namespace Sample

def stored (writes : List Write) : Database :=
  match writes.foldlM (fun d write => write d) Database.empty with
  | .ok d => d
  | .error _ => .empty

def ada : User := ⟨"ada", "ada", "ada@example.org", "hash", 0, none, true, 0⟩

def capitals : Quiz := ⟨"capitals", "ada", "Capitals", none, 30000, .private_, .draft, some 5, 0, 0⟩

def plain : Database := stored [Sql.insertUser ada, Sql.insertQuiz capitals]

def favored : Database :=
  stored [Sql.insertUser ada, Sql.insertQuiz capitals, Sql.insertFavorite ⟨"ada", "capitals"⟩]

def ben : User := ⟨"ben", "ben", "ben@example.org", "hash", 0, none, true, 0⟩

def geography : Database :=
  stored [Sql.insertUser ada, Sql.insertUser ben, Sql.insertQuiz capitals, Sql.insertTag "world",
    Sql.insertQuizTag ⟨"capitals", "world"⟩, Sql.insertQuestion ⟨"france", "capitals", "Of France?",
    1, 20000, false⟩,
    Sql.insertAnswer ⟨"paris", "france", "Paris", true⟩, Sql.insertAnswer
    ⟨"rome", "france", "Rome", false⟩,
    Sql.insertQuiz ⟨"rivers", "ben", "Rivers", none, 30000, .public_, .draft, some 9, 0, 0⟩,
    Sql.insertQuizTag ⟨"rivers", "world"⟩, Sql.insertFavorite ⟨"ben", "rivers"⟩]

end Sample

end Askit.Relational

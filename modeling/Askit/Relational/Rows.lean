import Askit.Auth.Accounts
import Askit.Quizzes.Columns
import Askit.Tables.References

/-! The tables of the database as `upgrade` creates them, with the references between them. -/

namespace Askit.Relational

open Tables
open Game (UUID Time GameSession GamePlayer GamePlayerAnswer)
open Quizzes (QuizStatus QuizVisibility Varchar Integer TagName)
open Auth (User)

structure Quiz where
  quizId : UUID
  creatorId : UUID
  title : String
  description : Option String
  defaultTimePerQuestion : ℤ
  visibility : QuizVisibility
  status : QuizStatus
  maxParticipants : Option ℤ
  createdAt : Time
  updatedAt : Time
  deriving DecidableEq, Repr

structure QuizQuestion where
  questionId : UUID
  quizId : UUID
  text : String
  position : ℕ
  timeLimit : ℤ
  allowMultipleAnswers : Bool
  deriving DecidableEq, Repr

structure QuizAnswer where
  answerId : UUID
  questionId : UUID
  text : String
  isCorrect : Bool
  deriving DecidableEq, Repr

/-- A row of `quiz_tags`, with the unique name of the tag in the place of its identifier. -/
structure QuizTag where
  quizId : UUID
  tag : String
  deriving DecidableEq, Repr

structure QuizFavorite where
  userId : UUID
  quizId : UUID
  deriving DecidableEq, Repr

/-! The values that the columns take. -/

def Quiz.Fits (q : Quiz) : Prop :=
  Varchar 50 q.title ∧ (∀ description ∈ q.description, Varchar 300 description) ∧
    Integer q.defaultTimePerQuestion ∧ ∀ n ∈ q.maxParticipants, Integer n

instance : DecidablePred Quiz.Fits := fun _ => inferInstanceAs (Decidable (_ ∧ _ ∧ _ ∧ _))

def QuizQuestion.Fits (q : QuizQuestion) : Prop :=
  Varchar 255 q.text ∧ Integer q.position ∧ Integer q.timeLimit

instance : DecidablePred QuizQuestion.Fits := fun _ => inferInstanceAs (Decidable (_ ∧ _ ∧ _))

def QuizAnswer.Fits (a : QuizAnswer) : Prop := Varchar 255 a.text

instance : DecidablePred QuizAnswer.Fits := fun _ => inferInstanceAs (Decidable (Varchar 255 _))

structure Rows where
  users : Table User.id
  quizzes : Table Quiz.quizId
  questions : Table QuizQuestion.questionId
  answers : Table QuizAnswer.answerId
  tags : Table (id : String → String)
  quizTags : Table (id : QuizTag → QuizTag)
  favorites : Table (id : QuizFavorite → QuizFavorite)
  sessions : Table GameSession.sessionId
  players : Table GamePlayer.playerId
  records : Table GamePlayerAnswer.key

structure Intact (d : Rows) : Prop where
  quiz_creator : Refers d.quizzes.rows (fun q => some q.creatorId) d.users.keys
  question_quiz : Refers d.questions.rows (fun q => some q.quizId) d.quizzes.keys
  answer_question : Refers d.answers.rows (fun a => some a.questionId) d.questions.keys
  link_quiz : Refers d.quizTags.rows (fun l => some l.quizId) d.quizzes.keys
  link_tag : Refers d.quizTags.rows (fun l => some l.tag) d.tags.keys
  favorite_user : Refers d.favorites.rows (fun f => some f.userId) d.users.keys
  favorite_quiz : Refers d.favorites.rows (fun f => some f.quizId) d.quizzes.keys
  session_quiz : Refers d.sessions.rows (fun g => some g.quizId) d.quizzes.keys
  session_host : Refers d.sessions.rows (fun g => some g.hostId) d.users.keys
  player_session : Refers d.players.rows (fun p => some p.sessionId) d.sessions.keys
  player_user : Refers d.players.rows GamePlayer.userId d.users.keys
  record_player : Refers d.records.rows (fun a => some a.playerId) d.players.keys
  record_question : Refers d.records.rows (fun a => some a.questionId) d.questions.keys
  room_codes : (d.sessions.rows.map GameSession.roomCode).Nodup
  quizzes_fit : ∀ q ∈ d.quizzes.rows, q.Fits
  questions_fit : ∀ q ∈ d.questions.rows, q.Fits
  answers_fit : ∀ a ∈ d.answers.rows, a.Fits
  tags_fit : ∀ t ∈ d.tags.rows, TagName t

structure Database extends Rows where
  intact : Intact toRows

lemma Database.ext {d e : Database} (h : d.toRows = e.toRows) : d = e := by
  cases d
  cases e
  cases h
  rfl

def Database.empty : Database where
  users := .empty
  quizzes := .empty
  questions := .empty
  answers := .empty
  tags := .empty
  quizTags := .empty
  favorites := .empty
  sessions := .empty
  players := .empty
  records := .empty
  intact := by constructor <;> simp [Refers, Table.empty]

end Askit.Relational

import Askit.Codec.Documents
import Askit.Quizzes.Validation

/-! The document that an export returns, and what the schema of an import reads from a document. -/

namespace Askit.Quizzes

open Codec

structure QuizAnswerExport where
  text : String
  isCorrect : Bool
  deriving DecidableEq, Repr

structure QuizQuestionExport where
  text : String
  timeLimit : ℤ
  allowMultipleAnswers : Bool
  answers : List QuizAnswerExport
  deriving DecidableEq, Repr

structure QuizSettingsExport where
  defaultTimePerQuestion : ℤ
  visibility : QuizVisibility
  maxParticipants : ℤ
  deriving DecidableEq, Repr

structure QuizExportOut where
  title : String
  description : Option String
  tags : List String
  settings : QuizSettingsExport
  questions : List QuizQuestionExport
  deriving DecidableEq, Repr

def QuizVisibility.value : QuizVisibility → String
  | private_ => "private"
  | public_ => "public"

/-! The members are named by the serialization aliases. -/

def QuizAnswerExport.toJson (a : QuizAnswerExport) : Value :=
  .obj [("text", .str a.text), ("isCorrect", .bool a.isCorrect)]

def QuizQuestionExport.toJson (q : QuizQuestionExport) : Value :=
  .obj [("text", .str q.text), ("timeLimit", .int q.timeLimit),
    ("allowMultipleAnswers", .bool q.allowMultipleAnswers),
    ("answers", .arr (q.answers.map QuizAnswerExport.toJson))]

def QuizSettingsExport.toJson (s : QuizSettingsExport) : Value :=
  .obj [("defaultTimePerQuestion", .int s.defaultTimePerQuestion),
    ("visibility", .str s.visibility.value), ("maxParticipants", .int s.maxParticipants)]

def QuizExportOut.toJson (doc : QuizExportOut) : Value :=
  .obj [("title", .str doc.title), ("description", doc.description.elim .null .str),
    ("tags", .arr (doc.tags.map .str)), ("settings", doc.settings.toJson),
    ("questions", .arr (doc.questions.map QuizQuestionExport.toJson))]

/-! A field is read under its validation alias, or else under its name. Other members are
ignored. -/

def defaultTimePerQuestionMs : ℤ := 30000

def defaultMaxParticipants : ℤ := 5

def QuizVisibility.read : Value → Option QuizVisibility
  | .str s => if s = "private" then some .private_ else if s = "public" then some .public_ else none
  | _ => none

section Read

variable [Lenient]

def QuizAnswerCreate.read : Value → Option QuizAnswerCreate
  | .obj members => do
    let text ← Value.required ["text"] Value.text members
    let isCorrect ← Value.defaulted ["isCorrect", "is_correct"] Lenient.bool false members
    some ⟨text, isCorrect⟩
  | _ => none

def QuizQuestionCreate.read : Value → Option QuizQuestionCreate
  | .obj members => do
    let text ← Value.required ["text"] Value.text members
    let timeLimit ← Value.defaulted ["timeLimit", "time_limit"] Lenient.int
      defaultTimePerQuestionMs members
    let allowMultipleAnswers ←
      Value.defaulted ["allowMultipleAnswers", "allow_multiple_answers"] Lenient.bool false members
    let answers ← Value.required ["answers"] (Value.array QuizAnswerCreate.read) members
    some ⟨text, timeLimit, allowMultipleAnswers, answers⟩
  | _ => none

def QuizSettingsCreate.read : Value → Option QuizSettingsCreate
  | .obj members => do
    let defaultTimePerQuestion ← Value.defaulted
      ["defaultTimePerQuestion", "default_time_per_question"] Lenient.int
      defaultTimePerQuestionMs members
    let visibility ← Value.defaulted ["visibility"] QuizVisibility.read .private_ members
    let maxParticipants ← Value.defaulted ["maxParticipants", "max_participants"] Lenient.int
      defaultMaxParticipants
      members
    some ⟨defaultTimePerQuestion, visibility, maxParticipants⟩
  | _ => none

def QuizCreate.read : Value → Option QuizCreate
  | .obj members => do
    let title ← Value.required ["title"] Value.text members
    let description ← Value.defaulted ["description"] (Value.nullable Value.text) none members
    let tags ← Value.defaulted ["tags"] (Value.array Value.text) [] members
    let settings ← Value.required ["settings"] QuizSettingsCreate.read members
    let questions ← Value.required ["questions"] (Value.array QuizQuestionCreate.read) members
    some ⟨title, description, tags, settings, questions⟩
  | _ => none

/-- The body that `QuizCreate` lets through, if it does. -/
def QuizCreate.accept [Platform] (document : Value) : Option QuizCreate :=
  (QuizCreate.read document).bind fun data => data.validate.toOption

end Read

def QuizAnswerExport.content (a : QuizAnswerExport) : QuizAnswerCreate := ⟨a.text, a.isCorrect⟩

def QuizQuestionExport.content (q : QuizQuestionExport) : QuizQuestionCreate :=
  ⟨q.text, q.timeLimit, q.allowMultipleAnswers, q.answers.map QuizAnswerExport.content⟩

def QuizSettingsExport.content (s : QuizSettingsExport) : QuizSettingsCreate :=
  ⟨s.defaultTimePerQuestion, s.visibility, s.maxParticipants⟩

def QuizExportOut.content (doc : QuizExportOut) : QuizCreate :=
  ⟨doc.title, doc.description, doc.tags, doc.settings.content, doc.questions.map
    QuizQuestionExport.content⟩

section RoundTrip

variable [Lenient]

omit [Lenient] in
@[simp] lemma QuizVisibility.read_value (v : QuizVisibility) :
    QuizVisibility.read (.str v.value) = some v := by
  cases v <;> rfl

lemma QuizAnswerCreate.read_toJson (a : QuizAnswerExport) :
    QuizAnswerCreate.read a.toJson = some a.content := by
  simp [QuizAnswerExport.toJson, QuizAnswerCreate.read, QuizAnswerExport.content, Value.required,
    Value.defaulted, Value.member?, List.lookup_cons, Value.text]

lemma QuizQuestionCreate.read_toJson (q : QuizQuestionExport) :
    QuizQuestionCreate.read q.toJson = some q.content := by
  have hanswers : Value.array QuizAnswerCreate.read (.arr (q.answers.map QuizAnswerExport.toJson)) =
      some (q.answers.map QuizAnswerExport.content) :=
    Value.array_map fun a _ => QuizAnswerCreate.read_toJson a
  simp [QuizQuestionExport.toJson, QuizQuestionCreate.read, QuizQuestionExport.content,
    Value.required, Value.defaulted, Value.member?, List.lookup_cons, Value.text, hanswers]

lemma QuizSettingsCreate.read_toJson (s : QuizSettingsExport) :
    QuizSettingsCreate.read s.toJson = some s.content := by
  simp [QuizSettingsExport.toJson, QuizSettingsCreate.read, QuizSettingsExport.content,
    Value.defaulted, Value.member?, List.lookup_cons]

lemma QuizCreate.read_toJson (doc : QuizExportOut) :
    QuizCreate.read doc.toJson = some doc.content := by
  have htags : Value.array Value.text (.arr (doc.tags.map .str)) = some (doc.tags.map id) :=
    Value.array_map fun t _ => rfl
  have hquestions : Value.array QuizQuestionCreate.read
    (.arr (doc.questions.map QuizQuestionExport.toJson)) =
      some (doc.questions.map QuizQuestionExport.content) :=
    Value.array_map fun q _ => QuizQuestionCreate.read_toJson q
  have hdescription : Value.nullable Value.text (doc.description.elim .null .str) =
      some doc.description := by
    cases doc.description <;> rfl
  simp [QuizExportOut.toJson, QuizCreate.read, QuizExportOut.content, Value.required,
    Value.defaulted, Value.member?,
    List.lookup_cons, Value.text, htags, hquestions, hdescription, QuizSettingsCreate.read_toJson]

end RoundTrip

end Askit.Quizzes

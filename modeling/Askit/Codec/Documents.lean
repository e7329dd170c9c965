import Mathlib.Tactic.Common

/-! The values of JSON documents, and how a schema reads its fields from them. -/

namespace Askit.Codec

/-- A number that is no integer literal stands as it is written. -/
inductive Value
  | null
  | bool (b : Bool)
  | int (n : Int)
  | real (literal : String)
  | str (s : String)
  | arr (items : List Value)
  | obj (members : List (String × Value))

/-- What a lenient schema makes of a value in the place of an integer or of a truth value. -/
class Lenient where
  int : Value → Option Int
  bool : Value → Option Bool
  int_int (n : Int) : int (.int n) = some n
  bool_bool (b : Bool) : bool (.bool b) = some b

namespace Value

variable {α : Type}

def text : Value → Option String
  | str s => some s
  | _ => none

def nullable (read : Value → Option α) : Value → Option (Option α)
  | null => some none
  | v => (read v).map some

def each (read : Value → Option α) : List Value → Option (List α)
  | [] => some []
  | v :: items => do
    let a ← read v
    let rest ← each read items
    some (a :: rest)

def array (read : Value → Option α) : Value → Option (List α)
  | arr items => each read items
  | _ => none

def member? (keys : List String) (members : List (String × Value)) : Option Value :=
  keys.findSome? fun key => members.lookup key

def required (keys : List String) (read : Value → Option α) (members : List (String × Value)) :
    Option α :=
  (member? keys members).bind read

def defaulted (keys : List String) (read : Value → Option α) (default : α)
    (members : List (String × Value)) :
    Option α :=
  ((member? keys members).map read).getD (some default)

@[simp] lemma nullable_null (read : Value → Option α) : nullable read null = some none := rfl

@[simp] lemma nullable_str (s : String) : nullable text (str s) = some (some s) := rfl

lemma array_map {β : Type} {read : Value → Option α} {write : β → Value} {f : β → α}
    {items : List β} (h : ∀ b ∈ items, read (write b) = some (f b)) :
    array read (arr (items.map write)) = some (items.map f) := by
  change each read (items.map write) = _
  induction items with
  | nil => rfl
  | cons b items ih =>
    obtain ⟨hb, hitems⟩ := List.forall_mem_cons.mp h
    rw [List.map_cons, each, hb, ih hitems]
    rfl

end Value

attribute [simp] Lenient.int_int Lenient.bool_bool

@[reducible] def Lenient.strict : Lenient where
  int
    | .int n => some n
    | _ => none
  bool
    | .bool b => some b
    | _ => none
  int_int _ := rfl
  bool_bool _ := rfl

end Askit.Codec

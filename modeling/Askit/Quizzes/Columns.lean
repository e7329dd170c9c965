import Askit.Quizzes.Operations

/-! The types of the columns of the quiz tables, and the rows that they take. The columns of
enumerations and flags take all their values. -/

namespace Askit.Quizzes

def Varchar (n : ℕ) (s : String) : Prop := s.length ≤ n

instance (n : ℕ) (s : String) : Decidable (Varchar n s) := inferInstanceAs (Decidable (_ ≤ _))

def Integer (z : ℤ) : Prop := -2147483648 ≤ z ∧ z ≤ 2147483647

instance (z : ℤ) : Decidable (Integer z) := inferInstanceAs (Decidable (_ ∧ _))

/-- `tags.name`. -/
def TagName (name : String) : Prop := Varchar 30 name

instance (name : String) : Decidable (TagName name) := inferInstanceAs (Decidable (Varchar 30 name))

end Askit.Quizzes

import Mathlib.Data.Int.Notation
import Mathlib.Data.List.Perm.Basic
import Mathlib.Tactic.Lemma

/-! The parts of Python's standard library that the game code calls, and its settings. -/

namespace Askit.Game

/-- Identifiers are carried in their canonical text form. -/
abbrev UUID := String

/-- Microseconds since the epoch. -/
abbrev Time := ℤ

/-- `shuffle` is `random.shuffle` at the given draw and `seededShuffle` is `Random(seed).shuffle`;
both move positions without looking at the elements. `uuid` is the constructor `UUID(...)`, which
raises on malformed text, and `uuid4` the `n`-th identifier drawn. -/
class Runtime where
  upper : String → String
  lower : String → String
  uuid : String → Option UUID
  uuid4 : ℕ → UUID
  uuid4_injective : Function.Injective uuid4
  shuffle {α : Type} : ℕ → List α → List α
  shuffle_perm {α : Type} (n : ℕ) (l : List α) : (shuffle n l).Perm l
  seededShuffle {α : Type} : String → List α → List α
  seededShuffle_perm {α : Type} (s : String) (l : List α) : (seededShuffle s l).Perm l
  seededShuffle_map {α β : Type} (s : String) (f : α → β) (l : List α) :
    seededShuffle s (l.map f) = (seededShuffle s l).map f
  corsOriginsList : List String

/-- A runtime for concrete runs: ASCII case mapping, and shuffles that draw the identity. -/
@[reducible] def Runtime.ascii : Runtime where
  upper s := String.ofList (s.toList.map Char.toUpper)
  lower s := String.ofList (s.toList.map Char.toLower)
  uuid s := some s
  uuid4 n := String.ofList (List.replicate n 'x')
  uuid4_injective a b h := by simpa using congrArg (fun s => s.toList.length) h
  shuffle _ l := l
  shuffle_perm _ l := .refl l
  seededShuffle _ l := l
  seededShuffle_perm _ l := .refl l
  seededShuffle_map _ _ _ := rfl
  corsOriginsList := []

end Askit.Game

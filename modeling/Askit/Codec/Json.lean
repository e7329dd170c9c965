import Mathlib.Data.List.Flatten
import Mathlib.Data.List.Basic
import Mathlib.Tactic.Lemma

/-! The text that `json.dumps` makes of a list of strings, with its default separators. -/

namespace Askit.Codec.Json

def quote : Char := Char.ofNat 34

def backslash : Char := Char.ofNat 92

/-- Printable ASCII, except the quote and the backslash. -/
def Plain (c : Char) : Prop := 32 ≤ c.toNat ∧ c.toNat ≤ 126 ∧ c ≠ quote ∧ c ≠ backslash

instance : DecidablePred Plain := fun c =>
  inferInstanceAs (Decidable (32 ≤ c.toNat ∧ c.toNat ≤ 126 ∧ c ≠ quote ∧ c ≠ backslash))

def hex4 (n : ℕ) : List Char :=
  [Nat.digitChar (n / 4096), Nat.digitChar (n / 256 % 16), Nat.digitChar (n / 16 % 16),
    Nat.digitChar (n % 16)]

def unicode (n : ℕ) : List Char := backslash :: 'u' :: hex4 n

def letter? : ℕ → Option Char
  | 8 => some 'b'
  | 9 => some 't'
  | 10 => some 'n'
  | 12 => some 'f'
  | 13 => some 'r'
  | 34 => some quote
  | 92 => some backslash
  | _ => none

def escape (c : Char) : List Char :=
  if Plain c then [c]
  else
    match letter? c.toNat with
    | some e => [backslash, e]
    | none =>
      if c.toNat < 65536 then unicode c.toNat
      else unicode (55296 + (c.toNat - 65536) / 1024) ++ unicode (56320 + (c.toNat - 65536) % 1024)

def dumpsStr (s : String) : List Char := quote :: s.toList.flatMap escape ++ [quote]

def dumpsItems : List String → List Char
  | [] => []
  | [s] => dumpsStr s
  | s :: rest => dumpsStr s ++ ',' :: ' ' :: dumpsItems rest

def dumps (l : List String) : List Char := '[' :: dumpsItems l ++ [']']

/-- A text of `n` characters that are written as they are. -/
def Literal (n : ℕ) (s : String) : Prop := s.toList.length = n ∧ ∀ c ∈ s.toList, Plain c

instance (n : ℕ) (s : String) : Decidable (Literal n s) :=
  inferInstanceAs (Decidable (s.toList.length = n ∧ ∀ c ∈ s.toList, Plain c))

lemma escape_of_plain {c : Char} (h : Plain c) : escape c = [c] := if_pos h

lemma flatMap_escape {l : List Char} (h : ∀ c ∈ l, Plain c) : l.flatMap escape = l := by
  induction l with
  | nil => rfl
  | cons c l ih =>
    have hrest := ih fun d hd => h d (List.mem_cons_of_mem c hd)
    rw [List.flatMap_cons, escape_of_plain (h c List.mem_cons_self), hrest]
    rfl

variable {n : ℕ} {l : List String}

lemma length_dumpsStr {s : String} (h : Literal n s) : (dumpsStr s).length = n + 2 := by
  rw [dumpsStr, flatMap_escape h.2, List.length_append, List.length_cons,
    List.length_singleton, h.1]

lemma length_dumpsItems (h : ∀ s ∈ l, Literal n s) :
    (dumpsItems l).length + 2 = (n + 4) * l.length + if l = [] then 2 else 0 := by
  induction l with
  | nil => rfl
  | cons s rest ih =>
    have hs := length_dumpsStr (h s List.mem_cons_self)
    have hrest := ih fun t ht => h t (List.mem_cons_of_mem s ht)
    cases rest with
    | nil => simp [dumpsItems, hs]
    | cons t rest =>
      simp only [dumpsItems, List.length_append, List.length_cons, hs] at hrest ⊢
      simp only [reduceCtorEq, if_false] at hrest ⊢
      rw [Nat.mul_succ]
      omega

lemma length_dumps (h : ∀ s ∈ l, Literal n s) (hl : l ≠ []) :
    (dumps l).length = (n + 4) * l.length := by
  have hitems := length_dumpsItems h
  rw [if_neg hl] at hitems
  rw [dumps, List.length_append, List.length_cons, List.length_singleton]
  omega

example : String.ofList (dumps ["a", "b"]) = "[\"a\", \"b\"]" := by decide

end Askit.Codec.Json

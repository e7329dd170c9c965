import Mathlib.Data.List.Basic
import Mathlib.Tactic.Lemma

/-! Regular expressions with anchors, as Python's `re` matches them without `MULTILINE`: a dollar
sign matches at the end of the text and before a newline that ends it. -/

namespace Askit.Patterns

inductive Regex
  | start
  | finish
  | chars (p : Char → Bool)
  | seq (a b : Regex)
  | repeated (a : Regex) (min max : ℕ)

/-- Where a match has come to: whether it is still at the start of the text, and what is left of
it. -/
structure Position where
  atStart : Bool
  rest : List Char
  deriving DecidableEq, Repr

namespace Regex

/-- To do the same thing `n` times in a row. -/
def times (f : Position → List Position) : ℕ → Position → List Position
  | 0, x => [x]
  | n + 1, x => (f x).flatMap (times f n)

def ends : Regex → Position → List Position
  | start, x => if x.atStart then [x] else []
  | finish, x => if x.rest = [] ∨ x.rest = ['\n'] then [x] else []
  | chars p, x =>
    match x.rest with
    | c :: rest => if p c then [⟨false, rest⟩] else []
    | [] => []
  | seq a b, x => (ends a x).flatMap (ends b)
  | repeated a min max, x => (List.range' min (max + 1 - min)).flatMap fun n => times (ends a) n x

/-- `re.match`: the expression matches at the start of the text. -/
def accepts (r : Regex) (s : String) : Bool := !(r.ends ⟨true, s.toList⟩).isEmpty

lemma accepts_iff {r : Regex} {s : String} :
    r.accepts s = true ↔ ∃ y, y ∈ r.ends ⟨true, s.toList⟩ := by
  rw [accepts, Bool.not_eq_true', List.isEmpty_eq_false_iff_exists_mem]

lemma mem_ends_seq {a b : Regex} {x y : Position} :
    y ∈ (seq a b).ends x ↔ ∃ z ∈ a.ends x, y ∈ b.ends z := by
  rw [ends, List.mem_flatMap]

lemma mem_ends_start {x y : Position} : y ∈ start.ends x ↔ x.atStart = true ∧ y = x := by
  rw [ends]
  split
  · next h => simp [h]
  · next h => simp [h]

lemma mem_ends_finish {x y : Position} :
    y ∈ finish.ends x ↔ (x.rest = [] ∨ x.rest = ['\n']) ∧ y = x := by
  rw [ends]
  split
  · next h => simp [h]
  · next h => simp [h]

lemma mem_ends_repeated {a : Regex} {min max : ℕ} {x y : Position} :
    y ∈ (repeated a min max).ends x ↔ ∃ n, min ≤ n ∧ n ≤ max ∧ y ∈ times a.ends n x := by
  rw [ends, List.mem_flatMap]
  simp only [List.mem_range'_1]
  constructor
  · rintro ⟨n, ⟨hmin, hmax⟩, hy⟩
    exact ⟨n, hmin, by omega, hy⟩
  · rintro ⟨n, hmin, hmax, hy⟩
    exact ⟨n, ⟨hmin, by omega⟩, hy⟩

lemma mem_times_chars {p : Char → Bool} {n : ℕ} {x y : Position} :
    y ∈ times (chars p).ends n x ↔ ∃ u, u.length = n ∧ (∀ c ∈ u, p c) ∧ x.rest = u ++ y.rest ∧
      y.atStart = (x.atStart && n == 0) := by
  induction n generalizing x with
  | zero =>
    rw [times, List.mem_singleton]
    constructor
    · rintro rfl
      exact ⟨[], rfl, List.forall_mem_nil _, rfl, by simp⟩
    · rintro ⟨u, hlength, -, happend, hstart⟩
      obtain rfl := List.length_eq_zero_iff.mp hlength
      obtain ⟨b, rest⟩ := x
      obtain ⟨b', rest'⟩ := y
      simp only [List.nil_append] at happend
      simp only [beq_self_eq_true, Bool.and_true] at hstart
      rw [happend, hstart]
  | succ n ih =>
    obtain ⟨b, rest⟩ := x
    cases rest with
    | nil =>
      simp only [times, ends, List.flatMap_nil, List.not_mem_nil, false_iff, not_exists]
      rintro u ⟨hlength, -, happend, -⟩
      obtain ⟨rfl, -⟩ := List.append_eq_nil_iff.mp happend.symm
      cases hlength
    | cons c rest =>
      have hstep : times (chars p).ends (n + 1) ⟨b, c :: rest⟩ =
          if p c then times (chars p).ends n ⟨false, rest⟩ else [] := by
        by_cases hc : p c <;> simp [times, ends, hc]
      rw [hstep]
      constructor
      · intro hy
        split at hy
        · next hc =>
          obtain ⟨u, hlength, hu, happend, hstart⟩ := ih.mp hy
          refine ⟨c :: u, by simp [hlength], ?_, by simpa using happend, by simpa using hstart⟩
          exact List.forall_mem_cons.mpr ⟨hc, hu⟩
        · cases hy
      · rintro ⟨u, hlength, hu, happend, hstart⟩
        cases u with
        | nil => cases hlength
        | cons d u =>
          obtain ⟨rfl, hrest⟩ := List.cons.inj happend
          obtain ⟨hc, hu⟩ := List.forall_mem_cons.mp hu
          rw [if_pos hc]
          exact ih.mpr ⟨u, by simpa using hlength, hu, hrest, by simpa using hstart⟩

/-- An expression for a whole text of characters of a class lets a final newline through as well. -/
theorem accepts_whole {p : Char → Bool} {min max : ℕ} {s : String} :
    (seq start (seq (repeated (chars p) min max) finish)).accepts s = true ↔
      ∃ u, min ≤ u.length ∧ u.length ≤ max ∧ (∀ c ∈ u, p c) ∧
      (s.toList = u ∨ s.toList = u ++ ['\n']) := by
  rw [accepts_iff]
  simp only [mem_ends_seq, mem_ends_start, mem_ends_repeated, mem_ends_finish, mem_times_chars]
  constructor
  · rintro ⟨y, _, ⟨-, rfl⟩, z, ⟨n, hmin, hmax, u, rfl, hu, happend, -⟩, hend, rfl⟩
    refine ⟨u, hmin, hmax, hu, ?_⟩
    rcases hend with hnil | hnewline
    · left
      simpa [hnil] using happend
    · right
      simpa [hnewline] using happend
  · rintro ⟨u, hmin, hmax, hu, hend⟩
    obtain ⟨rest, happend, hrest⟩ : ∃ rest, s.toList = u ++ rest ∧ (rest = [] ∨ rest = ['\n']) := by
      rcases hend with h | h
      · exact ⟨[], by simpa using h, .inl rfl⟩
      · exact ⟨['\n'], h, .inr rfl⟩
    exact ⟨_, _, ⟨trivial, rfl⟩, ⟨_, rest⟩, ⟨u.length, hmin, hmax, u, rfl, hu, happend,
      rfl⟩, hrest, rfl⟩

end Regex

end Askit.Patterns

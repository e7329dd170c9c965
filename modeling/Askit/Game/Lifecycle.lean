import Askit.Game.Models
import Mathlib.Data.Nat.Notation
import Mathlib.Tactic.Common

/-! The life of a room: the order in which a session goes through its questions. -/

namespace Askit.Game

structure Position where
  status : GameSessionStatus
  index : ℕ
  deriving DecidableEq, Repr

namespace Position

/-- The steps of a session over `n` questions. -/
inductive Next (n : ℕ) : Position → Position → Prop
  | start : Next n ⟨.waiting, 0⟩ ⟨.starting, 0⟩
  | first : 0 < n → Next n ⟨.starting, 0⟩ ⟨.question, 1⟩
  | empty : n = 0 → Next n ⟨.starting, 0⟩ ⟨.finished, 0⟩
  | reveal {i : ℕ} : Next n ⟨.question, i⟩ ⟨.revealing, i⟩
  | next {i : ℕ} : i < n → Next n ⟨.revealing, i⟩ ⟨.question, i + 1⟩
  | finish : 0 < n → Next n ⟨.revealing, n⟩ ⟨.finished, n⟩

def Valid (n : ℕ) : Position → Prop
  | ⟨.waiting, i⟩ | ⟨.starting, i⟩ => i = 0
  | ⟨.question, i⟩ | ⟨.revealing, i⟩ => 1 ≤ i ∧ i ≤ n
  | ⟨.finished, i⟩ => i = n

/-- How many steps a session has made. -/
def rank : Position → ℕ
  | ⟨.waiting, _⟩ => 0
  | ⟨.starting, _⟩ => 1
  | ⟨.question, i⟩ => 2 * i
  | ⟨.revealing, i⟩ => 2 * i + 1
  | ⟨.finished, i⟩ => 2 * i + 2

variable {n : ℕ} {p q : Position}

lemma Next.valid (h : Next n p q) (hp : p.Valid n) : q.Valid n := by
  cases h with
  | first h => exact ⟨le_rfl, h⟩
  | next h => exact ⟨by omega, h⟩
  | _ => simp_all [Valid]

lemma Next.index_of_finished {i : ℕ} (h : Next n p ⟨.finished, i⟩) : p.index = i := by
  cases h <;> rfl

lemma Next.index_le_of_question {i : ℕ} (h : Next n p ⟨.question, i⟩) : 1 ≤ i ∧ i ≤ n := by
  cases h with
  | first h => exact ⟨le_rfl, h⟩
  | next h => exact ⟨by omega, h⟩

lemma Next.eq_revealing {i : ℕ} (h : Next n ⟨.question, i⟩ q) : q = ⟨.revealing, i⟩ := by
  cases h
  rfl

lemma Next.rank_eq (h : Next n p q) : q.rank = p.rank + 1 := by
  cases h with
  | empty | finish _ => rfl
  | _ => simp only [rank]; try omega

lemma eq_of_rank_eq (hp : p.Valid n) (hq : q.Valid n) (h : p.rank = q.rank) : p = q := by
  obtain ⟨s, i⟩ := p
  obtain ⟨t, j⟩ := q
  cases s <;> cases t <;> simp only [Valid, rank, mk.injEq, true_and, reduceCtorEq,
    false_and] at * <;>
    omega

lemma Valid.rank_le (hp : p.Valid n) : p.rank ≤ 2 * n + 2 := by
  obtain ⟨s, i⟩ := p
  cases s <;> simp only [Valid, rank] at * <;> omega

lemma Valid.index_le (hp : p.Valid n) : p.index ≤ n := by
  obtain ⟨s, i⟩ := p
  cases s <;> simp only [Valid] at * <;> omega

lemma Valid.waiting (hp : p.Valid n) (h : p.status = .waiting) : p = ⟨.waiting, 0⟩ := by
  obtain ⟨s, i⟩ := p
  obtain rfl : s = .waiting := h
  exact congrArg (Position.mk .waiting) hp

lemma Valid.starting (hp : p.Valid n) (h : p.status = .starting) : p = ⟨.starting, 0⟩ := by
  obtain ⟨s, i⟩ := p
  obtain rfl : s = .starting := h
  exact congrArg (Position.mk .starting) hp

lemma rank_le_of_finished (hq : q.Valid n) (hf : q.status = .finished) (hi : p.index ≤ n) :
    p.rank ≤ q.rank := by
  obtain ⟨s, i⟩ := p
  obtain ⟨t, j⟩ := q
  obtain rfl : t = .finished := hf
  obtain rfl : j = n := hq
  cases s <;> simp only [rank] at * <;> omega

lemma Valid.finished_of_rank_le (hp : p.Valid n) (hq : q.Valid n) (hf : p.status = .finished)
    (h : p.rank ≤ q.rank) : q.status = .finished := by
  obtain ⟨s, i⟩ := p
  obtain rfl : s = .finished := hf
  have hi : i = n := hp
  have hr : q.rank ≤ 2 * n + 2 := hq.rank_le
  have he : (⟨.finished, i⟩ : Position) = q :=
    eq_of_rank_eq hp hq (le_antisymm h (by subst hi; exact hr))
  exact he ▸ rfl

end Position

end Askit.Game

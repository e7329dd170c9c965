import Askit.Game.Services
import Askit.Interleaving.Sequential
import Askit.Quizzes.Validation

/-! The range of `calculate_score`, over the times that `submit_answer` measures. -/

open Askit.Quizzes (QuizQuestionCreate)

namespace Askit.Game

open Interleaving Coro

/-- What `submit_answer` takes for the time, from the moment at which the question has been started,
if it is known, and the moment at which the clock is read. -/
def elapsed (timeLimit : ℤ) (start : Option Time) (now : Time) : ℤ := start.elim timeLimit fun s =>
    (now - s).tdiv 1000

/-- A correct answer is worth points between the constants, and no more points when it comes
later. -/
structure Graded (timeTakenMs timeLimitMs : ℤ) (isCorrect : Bool) : Prop where
  wrong : isCorrect = false → calculateScore timeTakenMs timeLimitMs isCorrect = 0
  least : isCorrect = true → minPointsPerQuestion ≤ calculateScore timeTakenMs timeLimitMs isCorrect
  most : isCorrect = true → calculateScore timeTakenMs timeLimitMs isCorrect ≤ maxPointsPerQuestion
  antitone : ∀ later, timeTakenMs ≤ later →
    calculateScore later timeLimitMs isCorrect ≤ calculateScore timeTakenMs timeLimitMs isCorrect

lemma timeTaken_eq [Runtime] (question : QuizQuestion) (start : Option Time) (s : State) :
    (timeTaken question start).alone exec s =
      (.ok (elapsed question.timeLimit start s.now), s) := by
  cases start <;> rfl

section Score

variable {timeTakenMs timeLimitMs : ℤ}

lemma calculateScore_wrong : calculateScore timeTakenMs timeLimitMs false = 0 := rfl

lemma calculateScore_correct : calculateScore timeTakenMs timeLimitMs true =
    minPointsPerQuestion + (900 * max 0 (1 - (timeTakenMs : ℚ) / timeLimitMs)).floor := by
  norm_num [calculateScore, maxPointsPerQuestion, minPointsPerQuestion]

lemma minPoints_le_calculateScore (timeTakenMs timeLimitMs : ℤ) :
    minPointsPerQuestion ≤ calculateScore timeTakenMs timeLimitMs true := by
  rw [calculateScore_correct]
  refine le_add_of_nonneg_right (Rat.le_floor_iff.mpr ?_)
  exact mul_nonneg (by norm_num) (le_max_left _ _)

lemma le_maxPoints_iff (hlimit : 0 < timeLimitMs) :
    calculateScore timeTakenMs timeLimitMs true ≤ maxPointsPerQuestion ↔
    900 * -timeTakenMs < timeLimitMs := by
  have hpos : (0 : ℚ) < timeLimitMs := Int.cast_pos.mpr hlimit
  have hfloor (x : ℚ) : x.floor < 901 ↔ x < 901 := by
    rw [← not_le, ← not_le, Rat.le_floor_iff]
    norm_cast
  calc calculateScore timeTakenMs timeLimitMs true ≤ maxPointsPerQuestion
      ↔ (900 * max 0 (1 - (timeTakenMs : ℚ) / timeLimitMs)).floor < 901 := by
        rw [calculateScore_correct, minPointsPerQuestion, maxPointsPerQuestion]
        omega
    _ ↔ 1 - (timeTakenMs : ℚ) / timeLimitMs < 901 / 900 := by
        rw [hfloor, ← lt_div_iff₀' (by norm_num), max_lt_iff]
        exact and_iff_right (by norm_num)
    _ ↔ 900 * -(timeTakenMs : ℚ) < timeLimitMs := by
        rw [sub_lt_comm, lt_div_iff₀ hpos]
        constructor <;> intro h <;> linarith
    _ ↔ 900 * -timeTakenMs < timeLimitMs := by norm_cast

lemma calculateScore_antitone (hlimit : 0 ≤ timeLimitMs) {t later : ℤ} (h : t ≤ later) :
    calculateScore later timeLimitMs true ≤ calculateScore t timeLimitMs true := by
  have hpos : (0 : ℚ) ≤ timeLimitMs := Int.cast_nonneg hlimit
  have hle : (t : ℚ) / timeLimitMs ≤ later / timeLimitMs := by
    have hcast : (t : ℚ) ≤ later := Int.cast_le.mpr h
    gcongr
  have hbonus : 900 * max 0 (1 - (later : ℚ) / timeLimitMs) ≤ 900 * max 0
      (1 - (t : ℚ) / timeLimitMs) := by gcongr
  rw [calculateScore_correct, calculateScore_correct]
  exact add_le_add_right (Rat.le_floor_iff.mpr ((Rat.floor_le _).trans hbonus)) _

end Score

/-- Scores are within their bounds unless the clock has stepped back too far since the question was
started. -/
theorem graded_iff {question : QuizQuestionCreate} (h : question.inBounds) (start : Option Time)
    (now : Time) (isCorrect : Bool) : Graded (elapsed question.timeLimit start now)
      question.timeLimit isCorrect ↔
      (isCorrect = true → ∀ s ∈ start, 900 * (s - now).tdiv 1000 < question.timeLimit) := by
  have hlimit : 0 < question.timeLimit := lt_of_lt_of_le (by decide) h.1
  have hback : (∀ s ∈ start, 900 * (s - now).tdiv 1000 < question.timeLimit) ↔
      900 * -elapsed question.timeLimit start now < question.timeLimit := by
    cases start with
    | none =>
      simp only [elapsed, Option.elim_none, Option.not_mem_none, false_imp_iff,
        implies_true, true_iff]
      omega
    | some s => simp [elapsed, ← Int.neg_tdiv]
  cases isCorrect with
  | false =>
    refine iff_of_true ⟨fun _ => calculateScore_wrong, fun hc => (by cases hc), fun hc =>
      (by cases hc), ?_⟩
      fun hc => (by cases hc)
    exact fun _ _ => le_refl _
  | true =>
    rw [hback, ← le_maxPoints_iff hlimit]
    constructor
    · exact fun hgraded _ => hgraded.most rfl
    · intro hmost
      exact ⟨fun hc => (by cases hc), fun _ => minPoints_le_calculateScore _ _, fun _ => hmost rfl,
        fun _ hlater => calculateScore_antitone hlimit.le hlater⟩

theorem graded_iff_in_time : Graded (elapsed 20000 (some 0) 5000000) 20000 true ↔
    (true = true → ∀ s ∈ some (0 : Time), 900 * (s - 5000000).tdiv 1000 < 20000) :=
  graded_iff (by decide : QuizQuestionCreate.inBounds ⟨"2 + 2?", 20000, false, []⟩)
    (some 0) 5000000 true

/-- The clock has stepped back by ten seconds. -/
theorem stepped_back_not_graded : ¬Graded (elapsed 5000 (some 10000000) 0) 5000 true := by
  intro h
  exact absurd ((le_maxPoints_iff (by decide)).mp (h.most rfl)) (by decide)

end Askit.Game

import RmTest.Algorithms.FastMath
import RmTest.Library.Newton
import Mathlib.Algebra.Order.Archimedean.Basic

/-! The square root in exact arithmetic: the loop ends, and the residual it ends with is
the one after the residual that it has looked at. -/
namespace RmTest.Algorithms.FastMath

open FloatModel Repeat

variable {x error : ℚ}

/-- A pass from a positive iterate does not fail, and takes Newton's step. -/
theorem sqrtPass_eq {y : ℚ} (positive : 0 < y) :
    sqrtPass x error y =
      if |y * y - x| ≤ error then .done (Newton.step x y) else .next (Newton.step x y) := by
  have hDivisor : ¬ lit 2 * y = 0 := mul_ne_zero two_ne_zero positive.ne'
  have hStep : y - (y * y - x) / (lit 2 * y) = Newton.step x y := rfl
  simp only [sqrtPass, eq_rat, lt_rat, decide_eq_true_eq, if_neg hDivisor, hStep,
    Bool.or_eq_true]
  by_cases hSmall : |y * y - x| ≤ error
  · obtain ⟨hLow, hHigh⟩ := abs_le.mp hSmall
    have hEnds : ¬(error < y * y - x ∨ y * y - x < -error) :=
      not_or.mpr ⟨not_lt.mpr hHigh, not_lt.mpr hLow⟩
    rw [if_neg hEnds, if_pos hSmall]
  · have hGoesOn : error < y * y - x ∨ y * y - x < -error := by
      rcases lt_abs.mp (not_le.mp hSmall) with hHigh | hLow
      · exact .inl hHigh
      · exact .inr (by linarith)
    rw [if_pos hGoesOn, if_neg hSmall]

/-- What a call may return. -/
def Accurate (x error y : ℚ) : Prop := 0 < y ∧ |y * y - x| ≤ error

theorem accurate_step {y : ℚ} (hX : 0 < x) (hY : 0 < y) (nonneg : 0 ≤ error) (low : error ≤ x / 2)
    (small : |y * y - x| ≤ error) : Accurate x error (Newton.step x y) :=
  ⟨Newton.step_pos hX hY, Newton.residual_step_of_small hX hY nonneg low small⟩

/-- An iterate on the upper side whose residual so many quarterings bring below the error. -/
def Upper (x error : ℚ) (left : Nat) (y : ℚ) : Prop :=
  0 < y ∧ x ≤ y * y ∧ y * y - x ≤ error * 4 ^ left

theorem upper_advances (hX : 0 < x) (hError : 0 < error) (low : error ≤ x / 2) (left : Nat) (y : ℚ)
    (upper : Upper x error left y) :
    Advances (sqrtPass x error) (Upper x error) (Accurate x error) left y := by
  obtain ⟨hY, hAbove, hLeft⟩ := upper
  have hPass := @sqrtPass_eq x error y hY
  by_cases hSmall : |y * y - x| ≤ error
  · rw [if_pos hSmall] at hPass
    exact .done _ hPass (accurate_step hX hY hError.le low hSmall)
  · rw [if_neg hSmall] at hPass
    have hResidual : |y * y - x| = y * y - x := abs_of_nonneg (by linarith)
    cases left with
    | zero =>
        rw [pow_zero, mul_one] at hLeft
        exact absurd (hResidual.trans_le hLeft) hSmall
    | succ left =>
        have hQuarter := Newton.residual_step_le hX hY hAbove
        rw [pow_succ] at hLeft
        refine .next left _ hPass (Nat.lt_succ_self left)
          ⟨Newton.step_pos hX hY, Newton.le_step_mul_self hY, ?_⟩
        linarith

/-- One pass leads from any positive iterate to the upper side, however far. -/
theorem exists_upper_step {y : ℚ} (hX : 0 < x) (hY : 0 < y) (hError : 0 < error) :
    ∃ left, Upper x error left (Newton.step x y) := by
  obtain ⟨left, hLeft⟩ := pow_unbounded_of_one_lt
    ((Newton.step x y * Newton.step x y - x) / error) (by norm_num : (1 : ℚ) < 4)
  refine ⟨left, Newton.step_pos hX hY, Newton.le_step_mul_self hY, ?_⟩
  rw [mul_comm error]
  exact ((div_lt_iff₀ hError).mp hLeft).le

/-- For every positive number the loop ends, without a division by zero, with a positive
root whose square is within a thousandth of the number. -/
theorem sqrt_returns_accurate (positive : 0 < x) :
    ∃ y, Returns (fun budget => sqrt budget x) y ∧ 0 < y ∧ |y * y - x| ≤ 1 / 1000 * x := by
  have hRuns (budget : Nat) :
      sqrt budget x = run (sqrtPass x (x * lit (1 / 1000))) budget (x * lit (5 / 10)) := by
    have hNot : ¬ le x 0 = true := by simpa [le_rat] using positive
    rw [sqrt, if_neg hNot]
  have hError : x * lit (1 / 1000) = 1 / 1000 * x := by rw [lit_rat, mul_comm]
  have hStart : 0 < x * lit (5 / 10) := by
    rw [lit_rat]
    linarith
  simp only [hRuns, hError]
  have hPositive : 0 < 1 / 1000 * x := by linarith
  have hLow : 1 / 1000 * x ≤ x / 2 := by linarith
  have hPass := @sqrtPass_eq x (1 / 1000 * x) _ hStart
  generalize x * lit (5 / 10) = y at hStart hPass ⊢
  by_cases hSmall : |y * y - x| ≤ 1 / 1000 * x
  · rw [if_pos hSmall] at hPass
    exact ⟨_, returns_done hPass, accurate_step positive hStart hPositive.le hLow hSmall⟩
  · rw [if_neg hSmall] at hPass
    obtain ⟨left, hUpper⟩ := exists_upper_step positive hStart hPositive
    obtain ⟨root, hReturns, hAccurate⟩ :=
      returns_of_advances (upper_advances positive hPositive hLow) hUpper
    exact ⟨root, returns_next hPass hReturns, hAccurate⟩

theorem sqrt_returns_accurate_two :
    ∃ y, Returns (fun budget => sqrt budget (2 : ℚ)) y ∧ 0 < y ∧ |y * y - 2| ≤ 1 / 1000 * 2 :=
  sqrt_returns_accurate two_pos

end RmTest.Algorithms.FastMath

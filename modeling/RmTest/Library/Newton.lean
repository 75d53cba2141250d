import Mathlib.Algebra.Order.Field.Basic
import Mathlib.Tactic.FieldSimp
import Mathlib.Tactic.Linarith
import Mathlib.Tactic.Positivity
import Mathlib.Tactic.Ring

/-! Newton's iteration for the square root, and for one over it. After one step from anywhere
the iterate for the root is on the upper side, and from there each step quarters the residual
at least. The other iteration needs no division; from a guess that is not too far off it
squares the error and ends below. -/
namespace Newton

variable {𝕜 : Type} [Field 𝕜] [LinearOrder 𝕜] [IsStrictOrderedRing 𝕜]

def step (x y : 𝕜) : 𝕜 := y - (y * y - x) / (2 * y)

variable {x y : 𝕜}

/-- A step halves the sum of the iterate and what it has to be multiplied with. -/
theorem step_eq (positive : 0 < y) : step x y = (y + x / y) / 2 := by
  have hY : y ≠ 0 := positive.ne'
  unfold step
  field_simp
  ring

theorem step_pos (hX : 0 < x) (hY : 0 < y) : 0 < step x y := by
  rw [step_eq hY]
  positivity

/-- The residual of a step is a square. -/
theorem residual_step (positive : 0 < y) :
    step x y * step x y - x = ((y * y - x) / (2 * y)) ^ 2 := by
  have hY : y ≠ 0 := positive.ne'
  unfold step
  field_simp
  ring

theorem le_step_mul_self (positive : 0 < y) : x ≤ step x y * step x y := by
  have hSquare := sq_nonneg ((y * y - x) / (2 * y))
  rw [← residual_step positive] at hSquare
  linarith

/-- The residual of a step from above. -/
theorem residual_step_le (hX : 0 < x) (hY : 0 < y) (above : x ≤ y * y) :
    step x y * step x y - x ≤ (y * y - x) / 4 := by
  have hResidual : 0 ≤ y * y - x := by linarith
  rw [residual_step hY, div_pow, div_le_div_iff₀ (by positivity) (by norm_num)]
  have hProduct := mul_nonneg hResidual hX.le
  linarith [sq (y * y - x), sq (2 * y)]

/-- A residual that is small against `x` is small after one more step. -/
theorem residual_step_of_small {error : 𝕜} (hX : 0 < x) (hY : 0 < y) (nonneg : 0 ≤ error)
    (low : error ≤ x / 2) (small : |y * y - x| ≤ error) :
    |step x y * step x y - x| ≤ error := by
  obtain ⟨hLow, hHigh⟩ := abs_le.mp small
  rw [residual_step hY, abs_of_nonneg (sq_nonneg _), div_pow, div_le_iff₀ (by positivity)]
  have hSquare : (y * y - x) ^ 2 ≤ error ^ 2 := sq_le_sq' hLow hHigh
  have hRoot : error ≤ (2 * y) ^ 2 := by
    linarith [sq (2 * y)]
  calc (y * y - x) ^ 2 ≤ error ^ 2 := hSquare
    _ = error * error := sq error
    _ ≤ error * (2 * y) ^ 2 := mul_le_mul_of_nonneg_left hRoot nonneg

end Newton

namespace ReciprocalRoot

variable {K : Type*} [Field K]

def step (x y : K) : K := y * (3 / 2 - x / 2 * y * y)

/-- How far `y` is from being one over the root of `x`. -/
def residual (x y : K) : K := x * y ^ 2 - 1

variable [LinearOrder K] [IsStrictOrderedRing K] {x y error : K}

theorem residual_step :
    residual x (step x y) = residual x y ^ 3 / 4 - 3 / 4 * residual x y ^ 2 := by
  unfold residual step
  ring

theorem step_pos (positive : 0 < y) (small : |residual x y| ≤ 1) : 0 < step x y := by
  obtain ⟨_, hHigh⟩ := abs_le.mp small
  have hFactor : 0 < 3 / 2 - x / 2 * y * y := by
    unfold residual at hHigh
    linarith [sq y]
  exact mul_pos positive hFactor

/-- A step ends below, with the square of the error. -/
theorem residual_step_bounds (small : |residual x y| ≤ error) (low : error ≤ 1) :
    -(3 / 4 * error ^ 2 + error ^ 3 / 4) ≤ residual x (step x y) ∧ residual x (step x y) ≤ 0 := by
  have hSquare : residual x y ^ 2 ≤ error ^ 2 := sq_le_sq' (abs_le.mp small).1 (abs_le.mp small).2
  have hNonneg : 0 ≤ residual x y ^ 2 := sq_nonneg _
  have hCube : |residual x y ^ 3| ≤ error ^ 3 := by
    rw [abs_pow]
    exact pow_le_pow_left₀ (abs_nonneg _) small 3
  have hCubeSquare : residual x y ^ 3 ≤ residual x y ^ 2 :=
    calc residual x y ^ 3 = residual x y * residual x y ^ 2 := by ring
      _ ≤ 1 * residual x y ^ 2 :=
          mul_le_mul_of_nonneg_right ((le_abs_self _).trans (small.trans low)) hNonneg
      _ = residual x y ^ 2 := one_mul _
  obtain ⟨hCubeLow, _⟩ := abs_le.mp hCube
  rw [residual_step]
  constructor <;> linarith

end ReciprocalRoot

import Mathlib.Algebra.Order.Round
import Mathlib.Tactic.FieldSimp
import Mathlib.Tactic.Linarith
import Mathlib.Tactic.Ring

/-! Values of an interval sent as integers: the interval is cut into equal steps, and
a value is sent as the nearest of their ends, or as the nearest below. -/
namespace Quantise

variable {𝕜 : Type} [Field 𝕜] [LinearOrder 𝕜]

/-- The value that stands at an integer, `steps` being the integer at `high`. -/
def value (low high : 𝕜) (steps : ℕ) (code : ℤ) : 𝕜 := code * (high - low) / steps + low

/-- The integer nearest to a value. -/
def code [FloorRing 𝕜] (low high : 𝕜) (steps : ℕ) (x : 𝕜) : ℤ :=
  round ((x - low) * steps / (high - low))

/-- The last integer whose value is not above a value. -/
def floorCode [FloorRing 𝕜] (low high : 𝕜) (steps : ℕ) (x : 𝕜) : ℤ :=
  ⌊(x - low) * steps / (high - low)⌋

variable [IsStrictOrderedRing 𝕜] {low high : 𝕜} {steps : ℕ}

theorem scaled_nonneg {x : 𝕜} (order : low < high) (above : low ≤ x) :
    0 ≤ (x - low) * steps / (high - low) := by
  apply div_nonneg
  · exact mul_nonneg (sub_nonneg.mpr above) (Nat.cast_nonneg steps)
  · exact (sub_pos.mpr order).le

theorem scaled_le {x : 𝕜} (order : low < high) (below : x ≤ high) :
    (x - low) * steps / (high - low) ≤ steps := by
  rw [div_le_iff₀ (sub_pos.mpr order), mul_comm]
  exact mul_le_mul_of_nonneg_left (by linarith) (Nat.cast_nonneg steps)

/-- A value is as many steps from `low` as its integer says. -/
theorem scaled_value (order : low < high) (positive : 0 < steps) (n : ℤ) :
    (value low high steps n - low) * steps / (high - low) = n := by
  have hSpan : high - low ≠ 0 := (sub_pos.mpr order).ne'
  have hSteps : (steps : 𝕜) ≠ 0 := Nat.cast_ne_zero.mpr positive.ne'
  unfold value
  field_simp
  ring

theorem value_mem {n : ℕ} (order : low < high) (positive : 0 < steps) (range : n ≤ steps) :
    low ≤ value low high steps n ∧ value low high steps n ≤ high := by
  have hSpan : 0 < high - low := sub_pos.mpr order
  have hSteps : (0 : 𝕜) < steps := Nat.cast_pos.mpr positive
  have hRange : (n : 𝕜) ≤ steps := Nat.cast_le.mpr range
  have hPart : (n : 𝕜) * (high - low) / steps ≤ high - low := by
    rw [div_le_iff₀ hSteps, mul_comm]
    exact mul_le_mul_of_nonneg_left hRange hSpan.le
  have hNonneg : 0 ≤ (n : 𝕜) * (high - low) / steps := by positivity
  rw [value, Int.cast_natCast]
  constructor <;> linarith

section Codes

variable [FloorRing 𝕜]

/-- Values of the interval have codes from 0 to `steps`. -/
theorem code_nonneg (steps : ℕ) {x : 𝕜} (order : low < high) (above : low ≤ x) :
    0 ≤ code low high steps x := by
  have hScaled : 0 ≤ (x - low) * steps / (high - low) := scaled_nonneg order above
  rw [code, round_eq]
  exact Int.floor_nonneg.mpr (by linarith)

theorem code_le (steps : ℕ) {x : 𝕜} (order : low < high) (below : x ≤ high) :
    code low high steps x ≤ steps := by
  have hScaled : (x - low) * steps / (high - low) ≤ steps := scaled_le order below
  rw [code, round_eq]
  apply Int.le_of_lt_add_one
  rw [Int.floor_lt, Int.cast_add, Int.cast_natCast, Int.cast_one]
  linarith

/-- What a code stands for is within half a step of the value coded. -/
theorem abs_value_code_sub_le (order : low < high) (positive : 0 < steps) (x : 𝕜) :
    |value low high steps (code low high steps x) - x| ≤ (high - low) / (2 * steps) := by
  have hSpan : 0 < high - low := sub_pos.mpr order
  have hSteps : (0 : 𝕜) < steps := Nat.cast_pos.mpr positive
  have hStep : 0 < (high - low) / steps := div_pos hSpan hSteps
  have hRound := abs_sub_round ((x - low) * steps / (high - low))
  have hError : value low high steps (code low high steps x) - x =
      -(((x - low) * steps / (high - low) - code low high steps x) * ((high - low) / steps)) := by
    unfold value
    field_simp
    ring
  have hHalf : (high - low) / (2 * steps) = 1 / 2 * ((high - low) / steps) := by
    field_simp
  rw [hError, abs_neg, abs_mul, abs_of_pos hStep, hHalf]
  exact mul_le_mul_of_nonneg_right hRound hStep.le

/-- The value at a code has that code. -/
theorem code_value (order : low < high) (positive : 0 < steps) (n : ℤ) :
    code low high steps (value low high steps n) = n := by
  rw [code, scaled_value order positive, round_intCast]

/-- Rounding down is adjoint to `value`. -/
theorem le_floorCode_iff (order : low < high) (positive : 0 < steps) (n : ℤ) (x : 𝕜) :
    n ≤ floorCode low high steps x ↔ value low high steps n ≤ x := by
  have hSpan : 0 < high - low := sub_pos.mpr order
  have hSteps : (0 : 𝕜) < steps := Nat.cast_pos.mpr positive
  rw [floorCode, Int.le_floor, le_div_iff₀ hSpan, value, ← le_sub_iff_add_le, div_le_iff₀ hSteps]

theorem floorCode_mono (order : low < high) {x y : 𝕜} (le : x ≤ y) :
    floorCode low high steps x ≤ floorCode low high steps y := by
  have hSpan : 0 < high - low := sub_pos.mpr order
  have hSteps : (0 : 𝕜) ≤ steps := Nat.cast_nonneg steps
  have hScaled : (x - low) * steps ≤ (y - low) * steps :=
    mul_le_mul_of_nonneg_right (by linarith) hSteps
  exact Int.floor_mono (div_le_div_of_nonneg_right hScaled hSpan.le)

theorem value_floorCode_le (order : low < high) (positive : 0 < steps) (x : 𝕜) :
    value low high steps (floorCode low high steps x) ≤ x :=
  (le_floorCode_iff order positive _ x).mp le_rfl

/-- What a code stands for is less than a step below the value coded. -/
theorem sub_value_floorCode_lt (order : low < high) (positive : 0 < steps) (x : 𝕜) :
    x - value low high steps (floorCode low high steps x) < (high - low) / steps := by
  have hSucc : value low high steps (floorCode low high steps x + 1) =
      value low high steps (floorCode low high steps x) + (high - low) / steps := by
    unfold value
    push_cast
    ring
  have hAbove : x < value low high steps (floorCode low high steps x + 1) := by
    rw [← not_le, ← le_floorCode_iff order positive]
    exact Int.not_le.mpr (Int.lt_succ _)
  linarith

theorem floorCode_value (order : low < high) (positive : 0 < steps) (n : ℤ) :
    floorCode low high steps (value low high steps n) = n := by
  rw [floorCode, scaled_value order positive, Int.floor_intCast]

/-- Values of the interval have codes from 0 to `steps`. -/
theorem floorCode_mem (order : low < high) {x : 𝕜} (above : low ≤ x) (below : x ≤ high) :
    0 ≤ floorCode low high steps x ∧ floorCode low high steps x ≤ steps := by
  refine ⟨Int.floor_nonneg.mpr (scaled_nonneg order above), ?_⟩
  have hScaled : (x - low) * steps / (high - low) ≤ steps := scaled_le order below
  have hBelow := (Int.floor_le _).trans hScaled
  rw [floorCode]
  exact_mod_cast hBelow

end Codes

end Quantise

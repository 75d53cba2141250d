import Mathlib.Algebra.Order.Field.Basic
import RmTest.Algorithms.Pid
import RmTest.Library.Run

/-! The integral of the PID controller against its limit, in exact arithmetic. -/
namespace RmTest.Algorithms.Pid

open FloatModel

/-- The integral contribution is within its limit. -/
def Limited (p : Pid ℚ) : Prop := |p.config.kI * p.integralError| ≤ p.config.iOutMax

instance (p : Pid ℚ) : Decidable p.Limited := inferInstanceAs (Decidable (_ ≤ _))

/-- One call of `update`, with a target and a measurement. -/
def updateCall (p : Pid ℚ) (call : ℚ × ℚ) : Pid ℚ := (p.update call.1 call.2).1

/-- The error and the absolute error that a call goes by. -/
def errors (p : Pid ℚ) (call : ℚ × ℚ) : ℚ × ℚ :=
  (applyDeadZone { p with target := call.1, now := call.2 }).2

/-- The call is in the separation range, where nothing is integrated. -/
def Separated (p : Pid ℚ) (call : ℚ × ℚ) : Prop :=
  p.config.iSeparateThreshold ≠ 0 ∧ p.config.iSeparateThreshold ≤ (p.errors call).2

/-- What a call would add to the integral contribution. -/
def increment (p : Pid ℚ) (call : ℚ × ℚ) : ℚ :=
  p.config.kI * (p.speedRatio (p.errors call).2 * p.config.dT * (p.errors call).1)

/-- The call does not integrate, or the integral contribution leaves room for what it adds. -/
def RoomFor (p : Pid ℚ) (call : ℚ × ℚ) : Prop :=
  p.Separated call ∨
    p.increment call ≤ p.config.iOutMax - p.config.kI * p.integralError ∧
      -p.increment call ≤ p.config.iOutMax + p.config.kI * p.integralError

theorem integralError_updateCall (p : Pid ℚ) (call : ℚ × ℚ) :
    (p.updateCall call).integralError =
      (p.integrate (p.errors call).1 (p.errors call).2).1 := by
  rfl

theorem integralError_of_separated {p : Pid ℚ} {call : ℚ × ℚ} (separated : p.Separated call) :
    (p.updateCall call).integralError = 0 := by
  obtain ⟨hOn, hFar⟩ := separated
  simp only [integralError_updateCall, integrate, eq_rat, lt_rat, decide_eq_true_eq, if_neg hOn,
    if_neg (not_lt.mpr hFar)]

/-- The limit changes nothing of an integral that is within it. -/
theorem integralError_of_limited {p : Pid ℚ} (positive : 0 < p.config.kI) (limited : p.Limited)
    {call : ℚ × ℚ} (joined : ¬ p.Separated call) :
    (p.updateCall call).integralError =
      p.integralError + p.speedRatio (p.errors call).2 * p.config.dT * (p.errors call).1 := by
  have hBound : |p.integralError| ≤ p.config.iOutMax / p.config.kI := by
    rw [le_div_iff₀ positive, mul_comm]
    calc p.config.kI * |p.integralError| = |p.config.kI * p.integralError| := by
          rw [abs_mul, abs_of_pos positive]
      _ ≤ p.config.iOutMax := limited
  have hKept : mathConstrain p.integralError (-p.config.iOutMax / p.config.kI)
      (p.config.iOutMax / p.config.kI) = p.integralError := by
    rw [mathConstrain_eq_clamp, neg_div]
    exact clamp_rat_of_abs_le hBound
  simp only [integralError_updateCall, integrate, hKept, ite_self, eq_rat, lt_rat,
    decide_eq_true_eq]
  by_cases hOff : p.config.iSeparateThreshold = 0
  · rw [if_pos hOff]
  · have hNear : (p.errors call).2 < p.config.iSeparateThreshold :=
      not_le.mp fun hFar => joined ⟨hOff, hFar⟩
    rw [if_neg hOff, if_pos hNear]

/-- A call from within the limit stays within it exactly if there is room. -/
theorem roomFor_iff {p : Pid ℚ} (positive : 0 < p.config.kI) (bound : 0 < p.config.iOutMax)
    (limited : p.Limited) (call : ℚ × ℚ) : p.RoomFor call ↔ (p.updateCall call).Limited := by
  have hConfig : (p.updateCall call).config = p.config := rfl
  rw [Limited, hConfig, RoomFor]
  by_cases hSeparated : p.Separated call
  · rw [integralError_of_separated hSeparated, mul_zero, abs_zero]
    exact iff_of_true (.inl hSeparated) bound.le
  · rw [integralError_of_limited positive limited hSeparated, or_iff_right hSeparated, mul_add,
      abs_le, increment]
    constructor
    · rintro ⟨hHigh, hLow⟩
      exact ⟨by linarith, by linarith⟩
    · rintro ⟨hLow, hHigh⟩
      exact ⟨by linarith, by linarith⟩

/-- From the reset state the integral contribution stays within its limit exactly if every
call finds room for what it adds. -/
theorem integral_limited_iff (config : PidConfig ℚ) (positive : 0 < config.kI)
    (bound : 0 < config.iOutMax) (p : Pid ℚ) (calls : List (ℚ × ℚ)) :
    Run.Along updateCall RoomFor (p.init config).reset calls ↔
      Run.Always updateCall Limited (p.init config).reset calls := by
  have hKept : ∀ (p : Pid ℚ) (call : ℚ × ℚ), p.config = config →
      (p.updateCall call).config = config :=
    fun p call hConfig => hConfig
  have hStart : (p.init config).reset.Limited := by
    show |config.kI * 0| ≤ config.iOutMax
    rw [mul_zero, abs_zero]
    exact bound.le
  refine Run.along_iff_always hKept ?_ rfl hStart calls
  rintro p call rfl hLimited
  exact roomFor_iff positive bound hLimited call

/-- Integral gain, limit and time slice 1. -/
def unitConfig : PidConfig ℚ := .basic 0 1 0 0 1 0 1

theorem integral_limited_iff_half :
    Run.Always updateCall Limited ((zeroed ℚ).init unitConfig).reset [(1 / 2, 0), (1 / 4, 0)] := by
  refine (integral_limited_iff unitConfig (by decide) (by decide) (zeroed ℚ) _).mp ?_
  refine ⟨.inr ?_, .inr ?_, trivial⟩
  · decide +kernel
  · decide +kernel

/-- One large error takes the integral contribution from zero to twice its limit. -/
theorem integral_exceeds_limit :
    ¬ Run.Always updateCall Limited ((zeroed ℚ).init unitConfig).reset [(2, 0)] := by
  have hBeyond : ¬ (updateCall ((zeroed ℚ).init unitConfig).reset (2, 0)).Limited := by
    decide +kernel
  exact fun hAlways => hBeyond hAlways.2

end RmTest.Algorithms.Pid

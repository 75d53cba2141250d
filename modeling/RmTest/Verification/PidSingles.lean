import RmTest.Algorithms.Pid
import RmTest.Library.SingleArithmetic

/-! A step of the PID controller on single precision floats, with the defaults of `Init`: no
dead zone, no variable integration speed and no filter. -/
namespace RmTest.Algorithms.Pid

open FloatModel Single

/-- A number for an error is the same number behind the dead zone. -/
theorem applyDeadZone_num (pid : Pid Single) (noZone : pid.config.deadZone = 0) {e : ℚ}
    (num : (pid.target - pid.now).read = .num e) :
    ∃ error absError, pid.applyDeadZone = (pid.target, error, absError) ∧ error.read = .num e := by
  have hNearest : nearest e = e := nearest_of_read num
  have hBound : |e| ≤ largest := abs_le_largest num
  have hOrder := lt_num read_zero num
  have hOrder' := lt_num num read_zero
  simp only [applyDeadZone, noZone, mathAbs, hOrder, hOrder', decide_eq_true_eq]
  rcases lt_trichotomy e 0 with hNegative | rfl | hPositive
  · have hAbs := read_neg_num num
    have hBelow : ¬ 0 < e := hNegative.not_gt
    have hMirrored : 0 < -e := by linarith
    have hSum : (pid.target - pid.now + 0).read = .num e := by
      have hRounded := read_add num read_zero ((add_zero e).symm ▸ hBound)
      rwa [add_zero, hNearest] at hRounded
    have hLow := lt_num hAbs read_zero
    have hHigh := lt_num read_zero hAbs
    simp only [hBelow, hNegative, if_false, hLow, hHigh, hMirrored, hMirrored.not_gt, decide_true,
      decide_false, Bool.false_eq_true, Bool.true_and, Bool.false_and, if_true]
    exact ⟨_, _, rfl, hSum⟩
  · have hAbs := read_neg_num num
    rw [neg_zero] at hAbs
    have hLow := lt_num hAbs read_zero
    have hHigh := lt_num read_zero hAbs
    simp only [lt_irrefl, if_false, hLow, hHigh, decide_false, Bool.false_eq_true, Bool.false_and]
    exact ⟨_, _, rfl, num⟩
  · have hAbove : ¬ e < 0 := hPositive.not_gt
    have hDifference : (pid.target - pid.now - 0).read = .num e := by
      have hRounded := read_sub num read_zero ((sub_zero e).symm ▸ hBound)
      rwa [sub_zero, hNearest] at hRounded
    simp only [hPositive, hAbove, if_true, hOrder, hOrder', decide_true, decide_false,
      Bool.false_eq_true, Bool.true_and, if_false]
    exact ⟨_, _, rfl, hDifference⟩

/-- A NaN for an error passes the dead zone. -/
theorem applyDeadZone_nan (pid : Pid Single) (nan : (pid.target - pid.now).read = .nan) :
    ∃ error absError, pid.applyDeadZone = (pid.target, error, absError) ∧ error.read = .nan := by
  have hAbs : (mathAbs (pid.target - pid.now)).read = .nan := by
    rw [mathAbs, lt_of_nan (.inr nan), if_neg Bool.false_ne_true]
    exact read_neg_nan nan
  refine ⟨pid.target - pid.now, mathAbs (pid.target - pid.now), ?_, nan⟩
  simp only [applyDeadZone, lt_of_nan (.inl hAbs), lt_of_nan (.inr nan), lt_of_nan (.inl nan),
    Bool.false_and, Bool.false_eq_true, if_false]

/-- The integral after the limit. -/
def clampedIntegral (pid : Pid Single) : Single :=
  if eq pid.config.iOutMax 0 then pid.integralError
  else mathConstrain pid.integralError (-pid.config.iOutMax / pid.config.kI)
    (pid.config.iOutMax / pid.config.kI)

/-- The integral after a step with this error. -/
def accumulated (pid : Pid Single) (error : Single) : Single :=
  pid.clampedIntegral + lit 1 * pid.config.dT * error

/-- The sum of the four terms. -/
def terms (pid : Pid Single) (target error : Single) : Single :=
  pid.config.kP * error + pid.config.kI * pid.accumulated error +
    pid.config.kD * (error - pid.preError) / pid.config.dT +
    pid.config.kF * (target - pid.preTarget)

/-- What a step leaves behind, and its output. -/
theorem update_basic {pid : Pid Single} {kP kI kD kF iOutMax outMax dT : Single}
    (config : pid.config = .basic kP kI kD kF iOutMax outMax dT)
    {target now error absError : Single}
    (dead : applyDeadZone { pid with target := target, now := now } = (target, error, absError)) :
    (pid.update target now).1.integralError = pid.accumulated error ∧
      (pid.update target now).1.preError = error ∧
      (pid.update target now).1.preTarget = target ∧
      (pid.update target now).2 =
        if eq outMax 0 then pid.terms target error
        else mathConstrain (pid.terms target error) (-outMax) outMax := by
  have hEqual : eq (0 : Single) 0 = true := by decide
  have hLess : lt (0 : Single) 0 = false := by decide
  have hIntegrate : integrate { pid with target := target, now := now } error absError =
      (pid.accumulated error, kI * pid.accumulated error) := by
    simp only [integrate, speedRatio, accumulated, clampedIntegral, config, PidConfig.basic, hEqual,
      Bool.and_self, if_true]
  have hDifferentiate : differentiate { pid with target := target, now := now } error =
      (kD * (error - pid.preError) / dT, pid.dLpfOutput) := by
    simp only [differentiate, config, PidConfig.basic, hLess, if_true, Bool.false_eq_true, if_false]
  simp only [update, calculatePeriodElapsedCallback, dead, hIntegrate, hDifferentiate]
  refine ⟨trivial, trivial, trivial, ?_⟩
  simp only [terms, config, PidConfig.basic]

end RmTest.Algorithms.Pid

import Mathlib.Data.List.Chain
import RmTest.Verification.PidIntegral
import RmTest.Verification.PidReset

/-! The angle controller against the plain one, away from the wrap and in exact
arithmetic. The two differ in what they do with the integral before they add to it. -/
namespace RmTest.Algorithms.Pid

open FloatModel

/-- What the limit leaves of the integral. -/
def limitedIntegral (p : Pid ℚ) : ℚ :=
  if p.config.iOutMax = 0 then p.integralError
  else mathConstrain p.integralError (-p.config.iOutMax / p.config.kI)
    (p.config.iOutMax / p.config.kI)

/-- The separation range as one test. -/
theorem separation_eq {α : Type} (threshold absError : ℚ) (joined separated : α) :
    (if eq threshold 0 then joined else if lt absError threshold then joined else separated) =
      if threshold ≠ 0 ∧ threshold ≤ absError then separated else joined := by
  simp only [eq_rat, lt_rat, decide_eq_true_eq]
  by_cases hOff : threshold = 0
  · rw [if_pos hOff, if_neg (fun h => h.1 hOff)]
  · rw [if_neg hOff]
    by_cases hNear : absError < threshold
    · rw [if_pos hNear, if_neg (fun h => not_le.mpr hNear h.2)]
    · rw [if_neg hNear, if_pos ⟨hOff, not_lt.mp hNear⟩]

/-- The integral and the I term that come of an integral to start from. -/
def integrateFrom (p : Pid ℚ) (start error absError : ℚ) : ℚ × ℚ :=
  if p.config.iSeparateThreshold ≠ 0 ∧ p.config.iSeparateThreshold ≤ absError then (0, 0)
  else
    (start + p.speedRatio absError * p.config.dT * error,
      p.config.kI * (start + p.speedRatio absError * p.config.dT * error))

theorem integrate_eq (p : Pid ℚ) (error absError : ℚ) :
    p.integrate error absError = p.integrateFrom p.limitedIntegral error absError := by
  rw [integrate, separation_eq, integrateFrom, limitedIntegral]
  simp only [eq_rat, decide_eq_true_eq]

theorem angleSpeedRatio_eq (p : Pid ℚ) (absError : ℚ) :
    p.angleSpeedRatio absError = p.speedRatio absError := by
  simp only [angleSpeedRatio, speedRatio, eq_rat, le_rat, lt_rat, lit_rat, Bool.and_eq_true,
    decide_eq_true_eq]
  split_ifs with hFixed hLow hBetween hHigh
  · rfl
  · rfl
  · rfl
  · rfl
  · exact absurd ⟨not_le.mp hLow, not_le.mp hHigh⟩ hBetween

/-- The test that clears the integral of the angle controller. -/
def Clears (p : Pid ℚ) (error : ℚ) : Prop :=
  (p.config.outMax ≤ p.out ∨ p.out ≤ -p.config.outMax) ∨
    0 < p.preError ∧ error < 0 ∨ p.preError < 0 ∧ 0 < error

instance (p : Pid ℚ) (error : ℚ) : Decidable (p.Clears error) :=
  inferInstanceAs (Decidable (_ ∨ _))

theorem clears_eq (p : Pid ℚ) (error : ℚ) :
    (le p.config.outMax p.out || le p.out (-p.config.outMax) ||
      (lt 0 p.preError && lt error 0 || lt p.preError 0 && lt 0 error)) =
        decide (p.Clears error) := by
  rw [Bool.eq_iff_iff, decide_eq_true_eq]
  simp only [Clears, lt_rat, le_rat, Bool.or_eq_true, Bool.and_eq_true, decide_eq_true_eq]

theorem integrateAngle_eq (p : Pid ℚ) (error absError : ℚ) :
    p.integrateAngle error absError =
      p.integrateFrom (if p.Clears error then 0 else p.limitedIntegral) error absError := by
  rw [integrateAngle, separation_eq, integrateFrom, limitedIntegral, angleSpeedRatio_eq, clears_eq]
  simp only [eq_rat, decide_eq_true_eq]

/-- The controller with the arguments of a call in place. -/
def withArguments (p : Pid ℚ) (call : ℚ × ℚ) : Pid ℚ :=
  { p with target := call.1, now := call.2 }

/-- The output for a target, an error and an I term. -/
def command (p : Pid ℚ) (target error iOut : ℚ) : ℚ :=
  let dOut :=
    if p.config.dFirst = .disable then p.config.kD * (error - p.preError) / p.config.dT
    else -p.config.kD * (p.now - p.preNow) / p.config.dT
  let sum := p.config.kP * error + iOut + dOut + p.config.kF * (target - p.preTarget)
  if p.config.outMax = 0 then sum else mathConstrain sum (-p.config.outMax) p.config.outMax

/-- What a call leaves behind. -/
def afterCall (p : Pid ℚ) (target error integral out : ℚ) : Pid ℚ :=
  { p with
    target := target
    integralError := integral
    out := out
    preNow := p.now
    preTarget := target
    preOut := out
    preError := error }

/-- A call of either controller, by the integral that it starts from. -/
def callFrom (p : Pid ℚ) (call : ℚ × ℚ) (start : ℚ) : Pid ℚ :=
  let ready := p.withArguments call
  let target := ready.applyDeadZone.1
  let error := ready.applyDeadZone.2.1
  let integrated := ready.integrateFrom start error ready.applyDeadZone.2.2
  ready.afterCall target error integrated.1 (ready.command target error integrated.2)

theorem update_eq_callFrom {p : Pid ℚ} (unfiltered : p.config.dLpfTau = 0) (call : ℚ × ℚ) :
    p.update call.1 call.2 =
      (p.callFrom call p.limitedIntegral, (p.callFrom call p.limitedIntegral).out) := by
  have hTau : lt 0 p.config.dLpfTau = false := by
    rw [unfiltered]
    rfl
  have hCall : calculatePeriodElapsedCallback (p.withArguments call) =
      p.callFrom call p.limitedIntegral := by
    simp only [calculatePeriodElapsedCallback, callFrom, integrate_eq, differentiate, afterCall,
      command, eq_rat, decide_eq_true_eq]
    rw [show (p.withArguments call).config = p.config from rfl, hTau]
    rfl
  rw [← hCall]
  rfl

/-- Without a wrap, the two dead zones are one. -/
theorem applyAngleDeadZone_eq {p : Pid ℚ} (near : |p.target - p.now| ≤ pi) :
    p.applyAngleDeadZone = p.applyDeadZone := by
  obtain ⟨hLow, hHigh⟩ := abs_le.mp near
  have hError : p.angleError = p.target - p.now := by
    simp only [angleError, lt_rat, decide_eq_true_eq, if_neg (not_lt.mpr hLow),
      if_neg (not_lt.mpr hHigh)]
  rw [applyAngleDeadZone, applyDeadZone, hError]

theorem updateAngle_eq_callFrom {p : Pid ℚ} {call : ℚ × ℚ} (near : |call.1 - call.2| ≤ pi) :
    p.updateAngle call.1 call.2 =
      (p.callFrom call (if p.Clears (p.errors call).1 then 0 else p.limitedIntegral),
        (p.callFrom call (if p.Clears (p.errors call).1 then 0 else p.limitedIntegral)).out) := by
  have hCall : calculateAnglePid (p.withArguments call) =
      p.callFrom call (if p.Clears (p.errors call).1 then 0 else p.limitedIntegral) := by
    simp only [calculateAnglePid, applyAngleDeadZone_eq (p := p.withArguments call) near, callFrom,
      integrateAngle_eq, afterCall, command, eq_rat, decide_eq_true_eq]
    rfl
  rw [← hCall]
  rfl

/-- The integral and the outputs of the past are not looked at again. -/
theorem callFrom_congr (p : Pid ℚ) (integral out preOut : ℚ) (call : ℚ × ℚ) (start : ℚ) :
    callFrom { p with integralError := integral, out := out, preOut := preOut } call start =
      p.callFrom call start := rfl

/-- Where a call starts from shows in the integral and in the output only. -/
theorem callFrom_beside (p : Pid ℚ) (call : ℚ × ℚ) (start start' : ℚ) :
    ∃ integral out preOut, p.callFrom call start' =
      { p.callFrom call start with integralError := integral, out := out, preOut := preOut } :=
  ⟨(p.callFrom call start').integralError, (p.callFrom call start').out,
    (p.callFrom call start').preOut, rfl⟩

/-- Without a limit the output shows where the call starts from, unless it does not
integrate or the I term of the start is zero. -/
theorem out_callFrom_eq_iff {p : Pid ℚ} (unlimited : p.config.outMax = 0) (call : ℚ × ℚ)
    (start : ℚ) :
    (p.callFrom call 0).out = (p.callFrom call start).out ↔
      p.Separated call ∨ p.config.kI * start = 0 := by
  have hOut : ∀ start, (p.callFrom call start).out =
      (p.withArguments call).command (p.withArguments call).applyDeadZone.1 (p.errors call).1
        ((p.withArguments call).integrateFrom start (p.errors call).1 (p.errors call).2).2 :=
    fun _ => rfl
  have hConfig : (p.withArguments call).config = p.config := rfl
  rw [hOut, hOut]
  simp only [command, integrateFrom, hConfig, if_pos unlimited]
  by_cases hSeparated : p.Separated call
  · have hTest : p.config.iSeparateThreshold ≠ 0 ∧
        p.config.iSeparateThreshold ≤ (p.errors call).2 := hSeparated
    rw [if_pos hTest, if_pos hTest]
    exact iff_of_true rfl (Or.inl hSeparated)
  · have hTest : ¬(p.config.iSeparateThreshold ≠ 0 ∧
        p.config.iSeparateThreshold ≤ (p.errors call).2) := hSeparated
    simp only [if_neg hTest, or_iff_right hSeparated, mul_add, zero_add]
    constructor
    · intro hSame
      linarith
    · intro hZero
      rw [hZero, zero_add]

/-- The dead zone does not turn an error around. -/
theorem sign_errors (p : Pid ℚ) (call : ℚ × ℚ) :
    (0 < (p.errors call).1 → 0 < call.1 - call.2) ∧
      ((p.errors call).1 < 0 → call.1 - call.2 < 0) := by
  simp only [errors, applyDeadZone, mathAbs, lt_rat, Bool.and_eq_true, decide_eq_true_eq]
  split_ifs <;> constructor <;> intro h <;> dsimp only at h <;> linarith

/-- An output that is not at its limit is inside it. -/
theorem inside_of_ne {value maxOut : ℚ}
    (high : mathConstrain value (-maxOut) maxOut ≠ maxOut)
    (low : mathConstrain value (-maxOut) maxOut ≠ -maxOut) :
    0 < maxOut ∧ -maxOut < mathConstrain value (-maxOut) maxOut ∧
      mathConstrain value (-maxOut) maxOut < maxOut := by
  revert high low
  simp only [mathConstrain, lt_rat, decide_eq_true_eq]
  split_ifs with hBelow hAbove
  · exact fun _ hNot => absurd rfl hNot
  · exact fun hNot => absurd rfl hNot
  · intro hHigh hLow
    have hUnder : value < maxOut := lt_of_le_of_ne (not_lt.mp hAbove) hHigh
    have hOver : -maxOut < value := lt_of_le_of_ne (not_lt.mp hBelow) hLow.symm
    exact ⟨by linarith, hOver, hUnder⟩

/-- The output of the call is not at a limit. -/
def WithinLimit (p : Pid ℚ) (call : ℚ × ℚ) : Prop :=
  p.config.outMax ≠ 0 →
    (p.updateCall call).out ≠ p.config.outMax ∧ (p.updateCall call).out ≠ -p.config.outMax

/-- Calls away from the wrap, with errors that do not change from one sign to the other,
and without an output at its limit. -/
structure AwayFromWrap (p : Pid ℚ) (calls : List (ℚ × ℚ)) : Prop where
  near : ∀ call ∈ calls, |call.1 - call.2| ≤ pi
  oneSided : calls.IsChain fun call next => 0 ≤ (call.1 - call.2) * (next.1 - next.2)
  within : Run.Along updateCall WithinLimit p calls

/-- With a limit configured the call starts from the same integral in both controllers;
without one it does if it does not integrate or if nothing has been integrated. -/
def NothingToClear (p : Pid ℚ) (call : ℚ × ℚ) : Prop :=
  p.config.outMax = 0 → p.Separated call ∨ p.config.kI * p.limitedIntegral = 0

/-- What the run assumes of a single call. -/
structure Near (p : Pid ℚ) (call : ℚ × ℚ) : Prop where
  near : |call.1 - call.2| ≤ pi
  oneSided : 0 ≤ p.preError * (call.1 - call.2)
  within : p.WithinLimit call

theorem along_near {p : Pid ℚ} {calls : List (ℚ × ℚ)} (away : p.AwayFromWrap calls)
    (first : ∀ call ∈ calls.head?, 0 ≤ p.preError * (call.1 - call.2)) :
    Run.Along updateCall Near p calls := by
  induction calls generalizing p with
  | nil => trivial
  | cons call rest ih =>
      obtain ⟨hNear, hOneSided, hWithin⟩ := away
      obtain ⟨hSigns, hChain⟩ := List.isChain_cons.mp hOneSided
      have hRest : (p.updateCall call).AwayFromWrap rest :=
        ⟨fun next hNext => hNear next (List.mem_cons_of_mem call hNext), hChain, hWithin.2⟩
      refine ⟨⟨hNear call List.mem_cons_self, first call rfl, hWithin.1⟩, ih hRest ?_⟩
      intro next hNext
      have hSign := hSigns next hNext
      have hError : (p.updateCall call).preError = (p.errors call).1 := rfl
      obtain ⟨hPositive, hNegative⟩ := sign_errors p call
      rw [hError]
      rcases lt_trichotomy (p.errors call).1 0 with hLow | hZero | hHigh
      · exact mul_nonneg_of_nonpos_of_nonpos hLow.le
          (nonpos_of_mul_nonneg_right hSign (hNegative hLow))
      · rw [hZero, zero_mul]
      · exact mul_nonneg hHigh.le (nonneg_of_mul_nonneg_right hSign (hPositive hHigh))

/-- The angle controller beside the plain one. With a limit of the output they are the
same, and the output is inside it. -/
structure Beside (p q : Pid ℚ) : Prop where
  unfiltered : p.config.dLpfTau = 0
  history : ∃ integral out preOut,
    q = { p with integralError := integral, out := out, preOut := preOut }
  same : p.config.outMax ≠ 0 → q = p
  inside : 0 < p.config.outMax → -p.config.outMax < p.out ∧ p.out < p.config.outMax

theorem updateCall_eq_callFrom {p : Pid ℚ} (unfiltered : p.config.dLpfTau = 0) (call : ℚ × ℚ) :
    p.updateCall call = p.callFrom call p.limitedIntegral := by
  rw [updateCall, update_eq_callFrom unfiltered]

/-- One call of `updateAngle`, with a target and a measurement. -/
def updateAngleCall (p : Pid ℚ) (call : ℚ × ℚ) : Pid ℚ := (p.updateAngle call.1 call.2).1

theorem updateAngleCall_eq_callFrom {p : Pid ℚ} {call : ℚ × ℚ} (near : |call.1 - call.2| ≤ pi) :
    p.updateAngleCall call =
      p.callFrom call (if p.Clears (p.errors call).1 then 0 else p.limitedIntegral) := by
  rw [updateAngleCall, updateAngle_eq_callFrom near]

/-- With a limit of zero the test for saturation always holds. -/
theorem clears_of_unlimited {p : Pid ℚ} (unlimited : p.config.outMax = 0) (error : ℚ) :
    p.Clears error := by
  left
  rw [unlimited, neg_zero]
  exact le_total 0 p.out

theorem not_clears {p : Pid ℚ} {call : ℚ × ℚ} (low : -p.config.outMax < p.out)
    (high : p.out < p.config.outMax) (oneSided : 0 ≤ p.preError * (call.1 - call.2)) :
    ¬p.Clears (p.errors call).1 := by
  obtain ⟨hPositive, hNegative⟩ := sign_errors p call
  rintro (hSaturated | hTurned | hTurned)
  · rcases hSaturated with hHigh | hLow
    · exact absurd high (not_lt.mpr hHigh)
    · exact absurd low (not_lt.mpr hLow)
  · exact absurd (mul_neg_of_pos_of_neg hTurned.1 (hNegative hTurned.2)) (not_lt.mpr oneSided)
  · exact absurd (mul_neg_of_neg_of_pos hTurned.1 (hPositive hTurned.2)) (not_lt.mpr oneSided)

/-- An output that is not at its limit is inside it, and the limit is positive. -/
theorem WithinLimit.inside {p : Pid ℚ} {call : ℚ × ℚ} (within : p.WithinLimit call)
    (unfiltered : p.config.dLpfTau = 0) (limited : p.config.outMax ≠ 0) :
    0 < p.config.outMax ∧ -p.config.outMax < (p.updateCall call).out ∧
      (p.updateCall call).out < p.config.outMax := by
  obtain ⟨hHigh, hLow⟩ := within limited
  have hConfig : (p.withArguments call).config.outMax = p.config.outMax := rfl
  rw [updateCall_eq_callFrom unfiltered] at hHigh hLow ⊢
  simp only [callFrom, afterCall, command, hConfig, if_neg limited] at hHigh hLow ⊢
  exact inside_of_ne hHigh hLow

/-- Side by side, a call puts out the same exactly if there was nothing to clear. -/
theorem beside_call (p q : Pid ℚ) (call : ℚ × ℚ) (beside : p.Beside q) (near : p.Near call) :
    (p.updateCall call).Beside (q.updateAngleCall call) ∧
      ((q.updateAngleCall call).out = (p.updateCall call).out ↔ p.NothingToClear call) := by
  obtain ⟨hUnfiltered, ⟨integral, out, preOut, hHistory⟩, hSame, hInside⟩ := beside
  obtain ⟨hNear, hOneSided, hWithin⟩ := near
  have hPlain := updateCall_eq_callFrom hUnfiltered call
  have hAngle := updateAngleCall_eq_callFrom (p := q) hNear
  by_cases hLimited : p.config.outMax = 0
  · have hUnlimited : q.config.outMax = 0 := by
      rw [hHistory]
      exact hLimited
    rw [if_pos (clears_of_unlimited hUnlimited _), hHistory, callFrom_congr, ← hHistory] at hAngle
    rw [hAngle, hPlain, out_callFrom_eq_iff hLimited]
    refine ⟨⟨hUnfiltered, callFrom_beside p call _ 0, fun h => absurd hLimited h, ?_⟩, ?_⟩
    · intro hPositive
      exact absurd hLimited hPositive.ne'
    · exact ⟨fun h _ => h, fun h => h hLimited⟩
  · obtain ⟨hPositive, hAfter⟩ := hWithin.inside hUnfiltered hLimited
    obtain ⟨hLow, hHigh⟩ := hInside hPositive
    have hQ := hSame hLimited
    rw [hQ, if_neg (not_clears hLow hHigh hOneSided), ← hPlain] at hAngle
    rw [hQ, hAngle]
    refine ⟨⟨hUnfiltered, ⟨_, _, _, rfl⟩, fun _ => rfl, fun _ => hAfter⟩, ?_⟩
    exact iff_of_true rfl fun h => absurd h hLimited

/-- Away from the wrap, the two controllers put out the same from reset exactly if, as long
as there is no limit of the output, no call that integrates finds an I term to start from. -/
theorem angle_outputs_eq_iff (config : PidConfig ℚ) (unfiltered : config.dLpfTau = 0) (p : Pid ℚ)
    (calls : List (ℚ × ℚ)) (away : (p.init config).reset.AwayFromWrap calls) :
    (p.init config).reset.outputs (calls.map fun call => .updateAngle call.1 call.2) =
        (p.init config).reset.outputs (calls.map fun call => .update call.1 call.2) ↔
      Run.Along updateCall NothingToClear (p.init config).reset calls := by
  have hStart : (p.init config).reset.Beside (p.init config).reset := by
    refine ⟨unfiltered, ⟨_, _, _, rfl⟩, fun _ => rfl, fun hPositive => ?_⟩
    exact ⟨neg_lt_zero.mpr hPositive, hPositive⟩
  have hFirst : ∀ call ∈ calls.head?, 0 ≤ (p.init config).reset.preError * (call.1 - call.2) := by
    intro call _
    rw [show (p.init config).reset.preError = 0 from rfl, zero_mul]
  rw [outputs, outputs, Run.trace_map, Run.trace_map]
  exact Run.trace_eq_iff_along Beside beside_call hStart (along_near away hFirst)

/-- Integral gain and time slice 1, without a limit. -/
def unlimitedConfig : PidConfig ℚ := .basic 0 1 0 0 0 0 1

/-- The same with a limit that is not reached. -/
def limitedConfig : PidConfig ℚ := .basic 0 1 0 0 0 10 1

theorem angle_outputs_eq_limited :
    ((zeroed ℚ).init limitedConfig).reset.outputs [.updateAngle 1 0, .updateAngle 1 0] =
      ((zeroed ℚ).init limitedConfig).reset.outputs [.update 1 0, .update 1 0] := by
  have hLimit : limitedConfig.outMax ≠ 0 := by decide
  refine (angle_outputs_eq_iff limitedConfig rfl (zeroed ℚ) [(1, 0), (1, 0)] ⟨?_, ?_, ?_⟩).mpr ?_
  · decide +kernel
  · decide +kernel
  · exact ⟨fun _ => by decide +kernel, fun _ => by decide +kernel, trivial⟩
  · exact ⟨fun h => absurd h hLimit, fun h => absurd h hLimit, trivial⟩

/-- Without a limit the second of two calls does not add to the integral of the first. -/
theorem angle_outputs_ne_unlimited :
    ((zeroed ℚ).init unlimitedConfig).reset.AwayFromWrap [(1, 0), (1, 0)] ∧
      ((zeroed ℚ).init unlimitedConfig).reset.outputs [.updateAngle 1 0, .updateAngle 1 0] ≠
        ((zeroed ℚ).init unlimitedConfig).reset.outputs [.update 1 0, .update 1 0] := by
  have hLimit : unlimitedConfig.outMax = 0 := rfl
  refine ⟨⟨?_, ?_, ?_⟩, ?_⟩
  · decide +kernel
  · decide +kernel
  · exact ⟨fun h => absurd hLimit h, fun h => absurd hLimit h, trivial⟩
  · decide +kernel

end RmTest.Algorithms.Pid

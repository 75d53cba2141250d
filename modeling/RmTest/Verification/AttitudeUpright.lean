import Mathlib.Algebra.BigOperators.Fin
import Mathlib.Data.Rat.Lemmas
import Mathlib.Tactic.FieldSimp
import RmTest.Verification.AttitudeCorrection

/-! The attitude filter of a device that stands upright and turns about the vertical axis. What
it measures is what it expects, so that the filter only integrates the rate. -/
namespace RmTest.Algorithms.QuaternionEkf

open FloatModel Kf

variable {dsp : RiscvDsp ℚ} {math : AttitudeMath ℚ}

/-- Roots of squares are exact. -/
structure ExactRoots (math : AttitudeMath ℚ) : Prop where
  sqrt : ∀ x, 0 < x → math.sqrt (x * x) = x
  invSqrt : ∀ x, 0 < x → math.invSqrt (x * x) = 1 / x

/-- The filter has the attitude `(c, 0, 0, s)` and no bias. -/
structure Upright (dt c s : ℚ) (ekf : QuaternionEkf ℚ) : Prop where
  sound : Sound ekf
  on : ekf.ins.initialized ≠ 0
  time : ekf.ins.dt = dt
  unfiltered : ekf.ins.accLpfCoef = 0
  bias : ekf.ins.gyroBias = ⟨0, 0, 0⟩
  state : ∀ i : Fin 6, ekf.kf.xhat.data i = ![c, 0, 0, s, 0, 0] i

theorem upright_init {ekf : QuaternionEkf ℚ} (sound : Sound ekf)
    (bias : ekf.ins.gyroBias = ⟨0, 0, 0⟩) {params : EkfParams ℚ}
    (unfiltered : params.accelLpfCoef = 0) : Upright params.dt 1 0 (ekf.init params) where
  sound := sound_call exactDsp flatMath sound (.init params)
  on := show (1 : UInt8) ≠ 0 by decide
  time := rfl
  unfiltered := by simp [init, unfiltered]
  bias := bias
  state i := by fin_cases i <;> rfl

/-- The rate turns the attitude about the vertical axis. -/
theorem carried_upright (math : AttitudeMath ℚ) (exact : dsp.Exact) {dt c s : ℚ}
    {ekf : QuaternionEkf ℚ}
    (upright : Upright dt c s ekf) (rate : ℚ) (a : Axes ℚ) (i : Fin 6) :
    carried dsp (prepare math ekf ⟨0, 0, rate⟩ a) i =
      ![c - 1 / 2 * rate * dt * s, 0, 0, s + 1 / 2 * rate * dt * c, 0, 0] i := by
  have hState (j : Fin 6) :
      (prepare math ekf ⟨0, 0, rate⟩ a).kf.xhat.data j = ![c, 0, 0, s, 0, 0] j := upright.state j
  have hData : (prepare math ekf ⟨0, 0, rate⟩ a).kf.f.data =
      (setRates ekf ⟨0, 0, rate⟩).kf.f.data := rfl
  rw [carried_apply exact (sound_prepare math upright.sound _ a)]
  simp only [hState, hData, setRates, upright.bias, upright.time, Fin.sum_univ_six]
  fin_cases i <;> simp [identity] <;> ring

/-- The prediction is that attitude, scaled. -/
theorem xhatminus_upright (exact : dsp.Exact) (roots : ExactRoots math) {dt c s n : ℚ}
    {ekf : QuaternionEkf ℚ} (upright : Upright dt c s ekf) (rate : ℚ) (a : Axes ℚ)
    (positive : 0 < n)
    (length : n * n = (c - 1 / 2 * rate * dt * s) * (c - 1 / 2 * rate * dt * s) +
      (s + 1 / 2 * rate * dt * c) * (s + 1 / 2 * rate * dt * c)) (i : Fin 6) :
    (predicted dsp math (prepare math ekf ⟨0, 0, rate⟩ a)).2.xhatminus.data i =
      ![(c - 1 / 2 * rate * dt * s) / n, 0, 0, (s + 1 / 2 * rate * dt * c) / n, 0, 0] i := by
  have hCarried := carried_upright math exact upright rate a
  have h0 : carried dsp (prepare math ekf ⟨0, 0, rate⟩ a) 0 = _ := hCarried 0
  have h1 : carried dsp (prepare math ekf ⟨0, 0, rate⟩ a) 1 = _ := hCarried 1
  have h2 : carried dsp (prepare math ekf ⟨0, 0, rate⟩ a) 2 = _ := hCarried 2
  have h3 : carried dsp (prepare math ekf ⟨0, 0, rate⟩ a) 3 = _ := hCarried 3
  rw [xhatminus_predicted math (sound_prepare math upright.sound _ a)]
  dsimp only
  rw [hCarried i, h0, h1, h2, h3]
  simp only [Matrix.cons_val, mul_zero, add_zero]
  rw [← length, roots.invSqrt n positive]
  fin_cases i <;> simp [div_eq_mul_inv]

/-- An acceleration along the vertical axis is measured as such. -/
theorem measuredVector_upright (roots : ExactRoots math) {dt c s : ℚ} {ekf : QuaternionEkf ℚ}
    (upright : Upright dt c s ekf) (rate : ℚ) {accel : ℚ} (time : 0 < dt) (up : 0 < accel)
    (j : Fin 3) :
    (prepare math ekf ⟨0, 0, rate⟩ ⟨0, 0, accel⟩).kf.measuredVector j = ![0, 0, 1] j := by
  have hPass (old new : ℚ) : lowPass dt 0 old new = new := by
    simp only [lowPass, lit_rat]
    field_simp
    ring
  have hAccel : (filterAccel (setRates ekf ⟨0, 0, rate⟩).ins ⟨0, 0, accel⟩).accel =
      ⟨0, 0, accel⟩ := by
    have hTime : (setRates ekf ⟨0, 0, rate⟩).ins.dt = dt := upright.time
    have hCoefficient : (setRates ekf ⟨0, 0, rate⟩).ins.accLpfCoef = 0 := upright.unfiltered
    simp only [filterAccel, hTime, hCoefficient, hPass]
  have hNorm : norm math (⟨0, 0, accel⟩ : Axes ℚ) = accel := by
    simp only [norm, mul_zero, zero_add]
    exact roots.sqrt accel up
  have hUnit : accel * (1 / accel) = 1 := mul_one_div_cancel up.ne'
  simp only [prepare, hAccel, hNorm, lit_rat, zero_mul, hUnit]
  fin_cases j <;> rfl

theorem z_predicted (dsp : RiscvDsp ℚ) (math : AttitudeMath ℚ) (ekf : QuaternionEkf ℚ) :
    (predicted dsp math ekf).2.z =
      { ekf.kf.z with data := ekf.kf.z.data.copy ekf.kf.measuredVector 3 } := by
  have hSpread (kf : KalmanFilter ℚ) : (kf.pminusUpdate dsp).1.z = kf.z := by
    unfold KalmanFilter.pminusUpdate
    split_ifs <;> simp [KalmanFilter.setStatus]
  have hCarry (kf : KalmanFilter ℚ) : (kf.xhatMinusUpdate dsp 6 0).1.z = kf.z := by
    unfold KalmanFilter.xhatMinusUpdate
    split_ifs <;> simp [KalmanFilter.setStatus]
  rw [predicted_eq, setHCb]
  dsimp only
  rw [hSpread]
  simp only [fLinearizationPFadingCb, observeCb, hCarry]
  rfl

/-- The residual of a test. -/
theorem residual_tested (exact : dsp.Exact) {s : QekfIns ℚ × KalmanFilter ℚ}
    (sizes : s.2.sizes = (KalmanFilter.constructed 6 0 3 : KalmanFilter ℚ).sizes) (j : Fin 3) :
    (testStatistic dsp math s).2.tempVector1.data j =
      s.2.z.data j - setAxes s.2.tempVector.data (expected s.2) j := by
  have hKept : (invertSum dsp s.2).z = s.2.z ∧ (invertSum dsp s.2).tempVector = s.2.tempVector ∧
      (invertSum dsp s.2).xhatminus = s.2.xhatminus ∧ (invertSum dsp s.2).h = s.2.h := by
    simp [invertSum, KalmanFilter.setS, KalmanFilter.setStatus]
  obtain ⟨hZ, hVector, hMinus, hH⟩ := hKept
  have hSizeZ : s.2.z.size = (3, 1) := congrArg Sizes.z sizes
  have hRowsZ : s.2.z.numRows = 3 := congrArg Prod.fst hSizeZ
  have hRowsH : s.2.h.numRows = 3 := congrArg (fun sizes => sizes.h.1) sizes
  have hExpected : expected (invertSum dsp s.2) = expected s.2 := by
    rw [expected, expected, hMinus]
  rw [tempVector1_testStatistic]
  simp only [setResidual, hExpected, hVector, hZ, hH]
  exact entry_sub exact hSizeZ (by rw [size_scaled, Mat.size_resize, hRowsH])
    (by rw [Mat.size_resize, hRowsZ]) j

/-- Upright, the direction of gravity that is measured is the one that is expected. -/
theorem residual_upright (exact : dsp.Exact) (roots : ExactRoots math) {dt c s n : ℚ}
    {ekf : QuaternionEkf ℚ} (upright : Upright dt c s ekf) (rate : ℚ) {accel : ℚ}
    (time : 0 < dt) (up : 0 < accel) (positive : 0 < n)
    (length : n * n = (c - 1 / 2 * rate * dt * s) * (c - 1 / 2 * rate * dt * s) +
      (s + 1 / 2 * rate * dt * c) * (s + 1 / 2 * rate * dt * c)) (j : Fin 3) :
    (tested dsp math ekf ⟨0, 0, rate⟩ ⟨0, 0, accel⟩).2.tempVector1.data j = 0 := by
  have hPrepared := sound_prepare math upright.sound ⟨0, 0, rate⟩ ⟨0, 0, accel⟩
  have hSizes : (predicted dsp math (prepare math ekf ⟨0, 0, rate⟩ ⟨0, 0, accel⟩)).2.sizes =
      (KalmanFilter.constructed 6 0 3 : KalmanFilter ℚ).sizes := by
    rw [sizes_predicted]
    exact hPrepared.sizes
  have hMinus := xhatminus_upright exact roots upright rate ⟨0, 0, accel⟩ positive length
  have h0 : (predicted dsp math (prepare math ekf ⟨0, 0, rate⟩ ⟨0, 0, accel⟩)).2.xhatminus.data 0 =
      _ := hMinus 0
  have h1 : (predicted dsp math (prepare math ekf ⟨0, 0, rate⟩ ⟨0, 0, accel⟩)).2.xhatminus.data 1 =
      _ := hMinus 1
  have h2 : (predicted dsp math (prepare math ekf ⟨0, 0, rate⟩ ⟨0, 0, accel⟩)).2.xhatminus.data 2 =
      _ := hMinus 2
  have h3 : (predicted dsp math (prepare math ekf ⟨0, 0, rate⟩ ⟨0, 0, accel⟩)).2.xhatminus.data 3 =
      _ := hMinus 3
  have hUnit : (c - 1 / 2 * rate * dt * s) / n * ((c - 1 / 2 * rate * dt * s) / n) +
      (s + 1 / 2 * rate * dt * c) / n * ((s + 1 / 2 * rate * dt * c) / n) = 1 := by
    rw [div_mul_div_comm, div_mul_div_comm, ← add_div, ← length]
    exact div_self (mul_pos positive positive).ne'
  have hExpected : expected (predicted dsp math
      (prepare math ekf ⟨0, 0, rate⟩ ⟨0, 0, accel⟩)).2 = ⟨0, 0, 1⟩ := by
    rw [expected, h0, h1, h2, h3]
    simp only [gravity, Matrix.cons_val, mul_zero, zero_mul, sub_zero, add_zero, hUnit]
  rw [tested, residual_tested exact hSizes, hExpected, z_predicted, sub_eq_zero]
  have hMeasured := measuredVector_upright roots upright rate time up j
  dsimp only
  rw [Buffer.copy, if_pos j.isLt, hMeasured]
  fin_cases j <;> rfl

/-- Nothing to correct is not changed by the limits. -/
theorem limitCorrection_zero {ins : QekfIns ℚ} (time : 0 < ins.dt) {v : Buffer ℚ} {i : Fin 6}
    (zero : v i = 0) : limitCorrection ins v i = 0 := by
  have hBias : limitBias ins.dt 0 = 0 := by
    have hAbove : ¬ 1 / 100 * ins.dt < 0 := by linarith
    have hBelow : ¬ 0 < -(1 / 100) * ins.dt := by linarith
    simp only [limitBias, lit_rat, lt_rat, decide_eq_true_eq, if_neg hAbove, if_neg hBelow]
  have hOther (n : Nat) (other : v n = 0) :
      (if (n = 4 ∨ n = 5) ∧ ins.convergeFlag ≠ 0 then limitBias ins.dt (v n) else v n) = 0 := by
    rw [other, hBias, ite_self]
  fin_cases i
  · exact hOther 0 zero
  · exact hOther 1 zero
  · exact hOther 2 zero
  · rfl
  · exact hOther 4 zero
  · exact hOther 5 zero

/-- The attitude turns on by the rate. -/
theorem upright_update (exact : dsp.Exact) (roots : ExactRoots math) {dt c s n : ℚ}
    {ekf : QuaternionEkf ℚ} (upright : Upright dt c s ekf) (rate accel : ℚ)
    (time : 0 < dt) (up : 0 < accel) (positive : 0 < n)
    (length : n * n = (c - 1 / 2 * rate * dt * s) * (c - 1 / 2 * rate * dt * s) +
      (s + 1 / 2 * rate * dt * c) * (s + 1 / 2 * rate * dt * c)) :
    Upright dt ((c - 1 / 2 * rate * dt * s) / n) ((s + 1 / 2 * rate * dt * c) / n)
      (ekf.update dsp math ⟨0, 0, rate⟩ ⟨0, 0, accel⟩) := by
  obtain ⟨-, hState⟩ := xhat_corrected math exact upright.sound ⟨0, 0, rate⟩ ⟨0, 0, accel⟩
  obtain ⟨-, -, (hBias : (ekf.update dsp math _ _).ins.gyroBias = _)⟩ :=
    result_update math upright.sound upright.on ⟨0, 0, rate⟩ ⟨0, 0, accel⟩
  have hSettled := settled_runFilter dsp math (prepare math ekf ⟨0, 0, rate⟩ ⟨0, 0, accel⟩)
  have hDt : (chiSquareTest (tested dsp math ekf ⟨0, 0, rate⟩ ⟨0, 0, accel⟩).1).1.dt = dt :=
    (congrArg QekfIns.dt (settled_chiSquareTest
      (tested dsp math ekf ⟨0, 0, rate⟩ ⟨0, 0, accel⟩).1) :).trans upright.time
  have hPredicted : (tested dsp math ekf ⟨0, 0, rate⟩ ⟨0, 0, accel⟩).2.xhatminus =
      (predicted dsp math (prepare math ekf ⟨0, 0, rate⟩ ⟨0, 0, accel⟩)).2.xhatminus :=
    xhatminus_testStatistic math _
  have hCorrected (i : Fin 6) :
      (corrected dsp math ekf ⟨0, 0, rate⟩ ⟨0, 0, accel⟩).xhat.data i =
        ![(c - 1 / 2 * rate * dt * s) / n, 0, 0, (s + 1 / 2 * rate * dt * c) / n, 0, 0] i := by
    rw [← xhatminus_upright exact roots upright rate ⟨0, 0, accel⟩ positive length i, ← hPredicted]
    rcases hState with hKept | ⟨v, hMoved, hNothing⟩
    · exact hKept i i.isLt
    · have hZero := hNothing (residual_upright exact roots upright rate time up positive length) i
      rw [hMoved i, limitCorrection_zero (hDt ▸ time) hZero, add_zero]
  refine ⟨sound_call dsp math upright.sound (.update _ _), ?_, ?_, ?_, ?_, fun i => ?_⟩
  · exact (congrArg QekfIns.initialized hSettled :) ▸ upright.on
  · exact (congrArg QekfIns.dt hSettled :).trans upright.time
  · exact (congrArg QekfIns.accLpfCoef hSettled :).trans upright.unfiltered
  · have h4 : (corrected dsp math ekf ⟨0, 0, rate⟩ ⟨0, 0, accel⟩).xhat.data 4 = 0 := hCorrected 4
    have h5 : (corrected dsp math ekf ⟨0, 0, rate⟩ ⟨0, 0, accel⟩).xhat.data 5 = 0 := hCorrected 5
    rw [hBias, h4, h5]
  · rw [update_eq dsp math upright.sound upright.on]
    exact (congrArg (fun m => m.data i) (xhat_pUpdate _).1).trans (hCorrected i)

/-- The yaw is that of the attitude. -/
theorem yaw_upright {dt c s : ℚ} {ekf : QuaternionEkf ℚ} {g a : Axes ℚ}
    (upright : Upright dt c s (ekf.update dsp math g a)) :
    (ekf.update dsp math g a).ins.yaw = math.atan2 (c * s) (1 / 2 - s * s) * 57.29578 := by
  obtain ⟨kf, hKf⟩ := finished_runFilter math dsp (prepare math ekf g a)
  have hXhat : (ekf.update dsp math g a).kf.xhat = kf.xhat := by
    show (runFilter dsp math (prepare math ekf g a)).kf.xhat = kf.xhat
    rw [hKf]
    rfl
  have hState := upright.state
  rw [hXhat] at hState
  have h0 : kf.xhat.data 0 = c := hState 0
  have h1 : kf.xhat.data 1 = 0 := hState 1
  have h2 : kf.xhat.data 2 = 0 := hState 2
  have h3 : kf.xhat.data 3 = s := hState 3
  have hFiltered (i : Nat) (inside : i < 6) : (kf.finish 6).filteredValue i = kf.xhat.data i :=
    if_pos inside
  simp only [update, takeResult, setAngles, hKf, hFiltered, Nat.reduceLT, h0, h1, h2, h3, lit_rat,
    zero_mul, zero_add, sub_zero]

end RmTest.Algorithms.QuaternionEkf

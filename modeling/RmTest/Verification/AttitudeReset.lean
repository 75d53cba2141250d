import RmTest.Verification.AttitudePhases

/-! What is left of the past in the attitude filter after `Init` and `Reset`. -/
namespace RmTest.Algorithms

open FloatModel Kf

variable {F : Type}

namespace KalmanFilter

/-- What no phase reads before it has written it. -/
structure Work where
  status : Int8
  s : Nat × Nat
  tempMatrix : Nat × Nat
  tempMatrix1 : Nat × Nat
  tempVector : Nat × Nat
  tempVector1 : Nat × Nat

def withWork (kf : KalmanFilter F) (w : Work) : KalmanFilter F :=
  { kf with
    matStatus := w.status
    s := kf.s.resize w.s.1 w.s.2
    tempMatrix := kf.tempMatrix.resize w.tempMatrix.1 w.tempMatrix.2
    tempMatrix1 := kf.tempMatrix1.resize w.tempMatrix1.1 w.tempMatrix1.2
    tempVector := kf.tempVector.resize w.tempVector.1 w.tempVector.2
    tempVector1 := kf.tempVector1.resize w.tempVector1.1 w.tempVector1.2 }

/-- The work space of a filter. -/
def work (kf : KalmanFilter F) : Work where
  status := kf.matStatus
  s := kf.s.size
  tempMatrix := kf.tempMatrix.size
  tempMatrix1 := kf.tempMatrix1.size
  tempVector := kf.tempVector.size
  tempVector1 := kf.tempVector1.size

@[simp] theorem Mat.resize_resize (m : Mat F) (r c r' c' : Nat) :
    (m.resize r c).resize r' c' = m.resize r' c' := rfl

variable (dsp : RiscvDsp F)

@[simp] theorem resize_mul (a b m : Mat F) (r c : Nat) :
    (mul dsp a b (m.resize r c)).1.resize r c = (mul dsp a b (m.resize r c)).1 := by
  obtain ⟨hRows, hCols⟩ := Prod.mk.inj (size_mul dsp a b (m.resize r c))
  exact congrArg₂ (fun r c => (mul dsp a b (m.resize _ _)).1.resize r c) hRows.symm hCols.symm

@[simp] theorem resize_add (a b m : Mat F) (r c : Nat) :
    (add dsp a b (m.resize r c)).1.resize r c = (add dsp a b (m.resize r c)).1 := by
  obtain ⟨hRows, hCols⟩ := Prod.mk.inj (size_add dsp a b (m.resize r c))
  exact congrArg₂ (fun r c => (add dsp a b (m.resize _ _)).1.resize r c) hRows.symm hCols.symm

theorem xhatMinusUpdate_withWork {kf : KalmanFilter F} (used : kf.skipEq1 = 0) (w : Work) :
    ((kf.withWork w).xhatMinusUpdate dsp 6 0).1 =
      (kf.xhatMinusUpdate dsp 6 0).1.withWork
        { w with status := (kf.xhatMinusUpdate dsp 6 0).1.matStatus } := by
  simp [xhatMinusUpdate, used, withWork, setStatus]

theorem pminusUpdate_withWork {kf : KalmanFilter F} (used : kf.skipEq2 = 0) (w : Work) :
    ((kf.withWork w).pminusUpdate dsp).1 =
      (kf.pminusUpdate dsp).1.withWork
        { w with
          status := (kf.pminusUpdate dsp).1.matStatus
          tempMatrix := (kf.pminusUpdate dsp).1.tempMatrix.size } := by
  simp [pminusUpdate, used, withWork, setStatus]

/-- The first operation that needs all of the work space but the vectors. -/
theorem setS_withWork (kf : KalmanFilter F) (w : Work) :
    ((kf.withWork w).setS dsp).1 =
      (kf.setS dsp).1.withWork
        { (kf.setS dsp).1.work with tempVector := w.tempVector, tempVector1 := w.tempVector1 } := by
  simp [setS, withWork, work, setStatus]

/-- What no phase writes to, in a filter without controls. -/
def fixed (kf : KalmanFilter F) : UInt8 × UInt8 × Buffer F × Mat F × Mat F :=
  (kf.useAutoAdjustment, kf.measurementValidNum, kf.controlVector, kf.u, kf.b)

theorem fixed_xhatMinusUpdate (XHAT U : Nat) (kf : KalmanFilter F) :
    (kf.xhatMinusUpdate dsp XHAT U).1.fixed = kf.fixed := by
  unfold xhatMinusUpdate
  split_ifs <;> simp [fixed, setStatus]

theorem fixed_pminusUpdate (kf : KalmanFilter F) : (kf.pminusUpdate dsp).1.fixed = kf.fixed := by
  unfold pminusUpdate
  split_ifs <;> simp [fixed, setStatus]

theorem fixed_setK [Zero F] (kf : KalmanFilter F) : (kf.setK dsp).1.fixed = kf.fixed := by
  unfold setK
  split_ifs <;> simp [fixed, setS, setGain, setStatus]

theorem fixed_xhatUpdate (kf : KalmanFilter F) : (kf.xhatUpdate dsp).1.fixed = kf.fixed := by
  unfold xhatUpdate
  split_ifs <;> simp [fixed, setStatus]

theorem fixed_pUpdate (kf : KalmanFilter F) : (kf.pUpdate dsp).1.fixed = kf.fixed := by
  unfold pUpdate
  split_ifs <;> simp [fixed, setStatus]

end KalmanFilter

namespace QuaternionEkf

variable [FloatModel F] (dsp : RiscvDsp F) (math : AttitudeMath F)

theorem fixed_testStatistic (s : QekfIns F × KalmanFilter F) :
    (testStatistic dsp math s).2.fixed = s.2.fixed := by
  have hSummed (kf : KalmanFilter F) : (invertSum dsp kf).fixed = kf.fixed := by
    simp [KalmanFilter.fixed, invertSum, KalmanFilter.setS, KalmanFilter.setStatus]
  have hWeighed (kf : KalmanFilter F) : (weigh dsp (setResidual dsp kf)).fixed = kf.fixed := by
    simp [KalmanFilter.fixed, weigh, setResidual, KalmanFilter.setStatus]
  have hStatus (kf : KalmanFilter F) (status : Status) :
      (kf.setStatus status).fixed = kf.fixed := rfl
  rw [testStatistic, hStatus, hWeighed, hSummed]

theorem fixed_correctState (ins : QekfIns F) (kf : KalmanFilter F) :
    (correctState dsp ins kf).fixed = kf.fixed := by
  have hScaled (kf : KalmanFilter F) : (setScaledGain dsp ins kf).fixed = kf.fixed := by
    simp [KalmanFilter.fixed, setScaledGain, KalmanFilter.setStatus]
  have hAdded (kf : KalmanFilter F) : (addCorrection dsp ins kf).fixed = kf.fixed := by
    simp [KalmanFilter.fixed, addCorrection, KalmanFilter.setStatus]
  rw [correctState, hAdded, hScaled]
  rfl

theorem fixed_xhatUpdateCb (s : QekfIns F × KalmanFilter F) :
    (xhatUpdateCb dsp math s).2.fixed = s.2.fixed := by
  have hKept (kf : KalmanFilter F) : (keepPrediction kf).fixed = kf.fixed := rfl
  rw [xhatUpdateCb_eq]
  split_ifs
  · rw [hKept, fixed_testStatistic]
  · rw [fixed_correctState, fixed_testStatistic]

theorem fixed_predicted (ekf : QuaternionEkf F) :
    (predicted dsp math ekf).2.fixed = ekf.kf.fixed := by
  have hLinearised (s : QekfIns F × KalmanFilter F) :
      (fLinearizationPFadingCb math s).2.fixed = s.2.fixed := rfl
  have hObserved (s : QekfIns F × KalmanFilter F) : (setHCb s).2.fixed = s.2.fixed := rfl
  rw [predicted_eq, hObserved, KalmanFilter.fixed_pminusUpdate, hLinearised]
  exact KalmanFilter.fixed_xhatMinusUpdate dsp 6 0 _

theorem fixed_runFilter {ekf : QuaternionEkf F} (ready : Ready ekf.kf)
    (replaced : ekf.ins.initialized ≠ 0 → Replaced ekf.kf) :
    (runFilter dsp math ekf).kf.fixed = ekf.kf.fixed := by
  have hFinished (kf : KalmanFilter F) : (kf.finish 6).fixed = kf.fixed := rfl
  by_cases hOn : ekf.ins.initialized ≠ 0
  · rw [runFilter_eq dsp math hOn ready (replaced hOn), hFinished, KalmanFilter.fixed_pUpdate,
      fixed_xhatUpdateCb, fixed_predicted]
  · have hSpread : (ekf.kf.spread dsp 6 0 3).fixed = ekf.kf.fixed := by
      rw [KalmanFilter.spread, KalmanFilter.fixed_pminusUpdate, KalmanFilter.fixed_xhatMinusUpdate]
      rfl
    have hMeasured : (ekf.kf.spread dsp 6 0 3).takesMeasurement = true :=
      (congrArg Prod.fst (ekf.kf.control_spread dsp 6 0 3)).trans ready.measures
    simp only [runFilter, if_neg hOn, KalmanFilter.updateHooked_none]
    rw [KalmanFilter.update_eq, hFinished, KalmanFilter.correct_of_measured dsp 6 hMeasured,
      KalmanFilter.fixed_pUpdate, KalmanFilter.fixed_xhatUpdate, KalmanFilter.fixed_setK, hSpread]

/-- The results, which are written at the end of an update. -/
def withResults (ins w : QekfIns F) : QekfIns F :=
  { ins with q := w.q, gyroBias := w.gyroBias, roll := w.roll, pitch := w.pitch, yaw := w.yaw }

/-- What the test writes before it reads it. -/
def withMeasures (ins w : QekfIns F) : QekfIns F :=
  { ins with orientationCosine := w.orientationCosine, chiSquareData := w.chiSquareData }

/-- What the first user function writes. -/
def withCopies (ins w : QekfIns F) : QekfIns F :=
  { ins with
    imuQuaternionEkfP := w.imuQuaternionEkfP
    imuQuaternionEkfK := w.imuQuaternionEkfK
    imuQuaternionEkfH := w.imuQuaternionEkfH }

/-- A filter with other results, measures and copies, and with another work space. -/
def scratched (ekf : QuaternionEkf F) (w : QekfIns F) (v : KalmanFilter.Work) : QuaternionEkf F :=
  ⟨withResults (withMeasures (withCopies ekf.ins w) w) w, ekf.kf.withWork v⟩

/-- What the first update after a start writes before it reads it. -/
def withInputs (ins w : QekfIns F) : QekfIns F :=
  { ins with
    gyro := w.gyro
    accel := w.accel
    gyroNorm := w.gyroNorm
    acclNorm := w.acclNorm
    stableFlag := w.stableFlag }

/-- The routine for products writes every entry of its destination. -/
def Overwrites : Prop :=
  ∀ a b dst dst' rows inner cols, ∀ i < rows * cols,
    dsp.mul a b dst rows inner cols i = dsp.mul a b dst' rows inner cols i

theorem predicted_scratch {ekf : QuaternionEkf F} (ready : Ready ekf.kf) (w : QekfIns F)
    (v : KalmanFilter.Work) :
    ∃ v', predicted dsp math (scratched ekf w v) =
      (withResults (withMeasures (predicted dsp math ekf).1 w) w,
        (predicted dsp math ekf).2.withWork v') := by
  have hMeasured : (ekf.kf.withWork v).measure 0 3 = (ekf.kf.measure 0 3).withWork v := rfl
  have hCarries : (ekf.kf.measure 0 3).skipEq1 = 0 := ready.carries
  have hCarried := KalmanFilter.xhatMinusUpdate_withWork dsp hCarries v
  have hSpreads : ((ekf.kf.measure 0 3).xhatMinusUpdate dsp 6 0).1.skipEq2 = 0 := by
    have hControl := congrArg Prod.snd (ekf.kf.carried_spec dsp 6 0 3).2.1
    simp only [KalmanFilter.control, KalmanFilter.skips, List.cons.injEq] at hControl
    exact hControl.2.1.trans ready.spreads
  suffices hKf : ∃ v', (predicted dsp math (scratched ekf w v)).2 =
      (predicted dsp math ekf).2.withWork v' by
    obtain ⟨v', hKf⟩ := hKf
    exact ⟨v', Prod.ext rfl hKf⟩
  rw [predicted_eq, predicted_eq, scratched, hMeasured, hCarried]
  generalize ((ekf.kf.measure 0 3).xhatMinusUpdate dsp 6 0).1 = carried at hSpreads ⊢
  have hUsed : (fLinearizationPFadingCb math (ekf.ins, carried)).2.skipEq2 = 0 := hSpreads
  obtain ⟨v', hSpread⟩ : ∃ v', (((fLinearizationPFadingCb math (ekf.ins, carried)).2.withWork
      { v with status := carried.matStatus }).pminusUpdate dsp).1 =
        ((fLinearizationPFadingCb math (ekf.ins, carried)).2.pminusUpdate dsp).1.withWork v' :=
    ⟨_, KalmanFilter.pminusUpdate_withWork dsp hUsed _⟩
  refine ⟨v', ?_⟩
  calc
    _ = (setHCb (ekf.ins, (((fLinearizationPFadingCb math (ekf.ins, carried)).2.withWork
        { v with status := carried.matStatus }).pminusUpdate dsp).1)).2 := rfl
    _ = (setHCb (ekf.ins,
        ((fLinearizationPFadingCb math (ekf.ins, carried)).2.pminusUpdate
          dsp).1.withWork v')).2 := by
          rw [hSpread]
    _ = _ := rfl

/-- The work space of a filter but for its vectors. -/
def withVectors (kf : KalmanFilter F) (v : KalmanFilter.Work) : KalmanFilter F :=
  { kf with
    tempVector := kf.tempVector.resize v.tempVector.1 v.tempVector.2
    tempVector1 := kf.tempVector1.resize v.tempVector1.1 v.tempVector1.2 }

omit [FloatModel F] in
theorem setS_withVectors (kf : KalmanFilter F) (v : KalmanFilter.Work) :
    ((kf.withWork v).setS dsp).1 = withVectors (kf.setS dsp).1 v := by
  rw [KalmanFilter.setS_withWork]
  generalize (kf.setS dsp).1 = summed
  rfl

theorem invertSum_withWork (kf : KalmanFilter F) (v : KalmanFilter.Work) :
    invertSum dsp (kf.withWork v) = withVectors (invertSum dsp kf) v := by
  simp only [invertSum, setS_withVectors]
  generalize (kf.setS dsp).1 = summed
  simp [withVectors, KalmanFilter.setStatus]

theorem setResidual_withVectors (kf : KalmanFilter F) (v : KalmanFilter.Work) :
    setResidual dsp (withVectors kf v) = setResidual dsp kf := by
  simp [setResidual, withVectors, expected, KalmanFilter.setStatus]

/-- Up to the residual the work space is written anew. -/
theorem setResidual_invertSum_withWork (kf : KalmanFilter F) (v : KalmanFilter.Work) :
    setResidual dsp (invertSum dsp (kf.withWork v)) = setResidual dsp (invertSum dsp kf) := by
  rw [invertSum_withWork, setResidual_withVectors]

theorem expected_withWork (kf : KalmanFilter F) (v : KalmanFilter.Work) :
    expected (invertSum dsp (kf.withWork v)) = expected (invertSum dsp kf) := by
  rw [invertSum_withWork]
  rfl

omit [FloatModel F] in
/-- The statistic does not depend on what was there before. -/
theorem chiSquare_overwrites {dsp : RiscvDsp F} (overwrites : Overwrites dsp) {ins : QekfIns F}
    (size : ins.chiSquareRows = 1 ∧ ins.chiSquareCols = 1) (w : QekfIns F) (kf : KalmanFilter F) :
    (chiSquare dsp (withMeasures ins w) (weigh dsp kf)).1.data 0 =
        (chiSquare dsp ins (weigh dsp kf)).1.data 0 ∧
      (chiSquare dsp (withMeasures ins w) (weigh dsp kf)).2 =
      (chiSquare dsp ins (weigh dsp kf)).2 := by
  obtain ⟨hRows, hCols⟩ := size
  have hRow : (weigh dsp kf).tempVector.size = (1, kf.tempVector1.numRows) := by
    simp [weigh, KalmanFilter.setStatus]
  have hColumn : (weigh dsp kf).tempMatrix.size = (kf.tempVector1.numRows, 1) := by
    simp [weigh, KalmanFilter.setStatus]
  obtain ⟨hRowRows, hRowCols⟩ := Prod.mk.inj hRow
  obtain ⟨hColumnRows, hColumnCols⟩ := Prod.mk.inj hColumn
  have hProduct (data : Buffer F) :
      mul dsp (weigh dsp kf).tempVector (weigh dsp kf).tempMatrix ⟨1, 1, data⟩ =
        (⟨1, 1, dsp.mul (weigh dsp kf).tempVector.data (weigh dsp kf).tempMatrix.data data
          (weigh dsp kf).tempVector.numRows (weigh dsp kf).tempVector.numCols
          (weigh dsp kf).tempMatrix.numCols⟩, kStatusOk) :=
    mul_of_fits dsp (hRowCols.trans hColumnRows.symm) (by rw [hRowRows, hColumnCols]; rfl)
  rw [chiSquare, chiSquare, withMeasures, hRows, hCols, hProduct, hProduct]
  refine ⟨overwrites _ _ _ _ _ _ _ 0 ?_, rfl⟩
  rw [hRowRows, hColumnCols]
  exact Nat.one_pos

theorem testStatistic_scratch {dsp : RiscvDsp F} (overwrites : Overwrites dsp) {ins : QekfIns F}
    (size : ins.chiSquareRows = 1 ∧ ins.chiSquareCols = 1) (w : QekfIns F) (kf : KalmanFilter F)
    (v : KalmanFilter.Work) :
    testStatistic dsp math (withResults (withMeasures ins w) w, kf.withWork v) =
      (withResults (testStatistic dsp math (ins, kf)).1 w,
        (testStatistic dsp math (ins, kf)).2) := by
  obtain ⟨hData, hStatus⟩ :=
    chiSquare_overwrites overwrites size w (setResidual dsp (invertSum dsp kf))
  have hResults (kf : KalmanFilter F) : chiSquare dsp (withResults (withMeasures ins w) w) kf =
      chiSquare dsp (withMeasures ins w) kf := rfl
  simp only [testStatistic, setResidual_invertSum_withWork, expected_withWork, hResults, hData,
    hStatus]
  rfl

theorem chiSquareTest_withResults (ins w : QekfIns F) :
    chiSquareTest (withResults ins w) =
      (withResults (chiSquareTest ins).1 w, (chiSquareTest ins).2) := by
  have hConverge : convergeFlagSeen (withResults ins w) = convergeFlagSeen ins := rfl
  have hErrors : errorCountSeen (withResults ins w) = errorCountSeen ins := rfl
  rcases chiSquareTest_cases ins with ⟨hFails, hConverged, hShort, hTest⟩ |
    ⟨hFails, hConverged, hLong, hTest⟩ | ⟨hTaken, hTest⟩
  · rw [hTest]
    exact (if_pos ⟨hFails, hConverged⟩).trans (if_neg hShort)
  · rw [hTest]
    exact (if_pos ⟨hFails, hConverged⟩).trans (if_pos hLong)
  · rw [hTest]
    exact if_neg hTaken

/-- The update of the filter does not read what is left in the results, the measures and the
work space. -/
theorem runFilter_scratch {dsp : RiscvDsp F} (overwrites : Overwrites dsp) {ekf : QuaternionEkf F}
    (on : ekf.ins.initialized ≠ 0) (ready : Ready ekf.kf) (replaced : Replaced ekf.kf)
    (size : ekf.ins.chiSquareRows = 1 ∧ ekf.ins.chiSquareCols = 1) (w : QekfIns F)
    (v : KalmanFilter.Work) :
    runFilter dsp math (scratched ekf w v) =
      ⟨withResults (runFilter dsp math ekf).ins w, (runFilter dsp math ekf).kf⟩ := by
  obtain ⟨v', hPredicted⟩ := predicted_scratch dsp math ready w v
  have hSize : (predicted dsp math ekf).1.chiSquareRows = 1 ∧
      (predicted dsp math ekf).1.chiSquareCols = 1 := size
  have hTested := testStatistic_scratch math overwrites hSize w (predicted dsp math ekf).2 v'
  have hScratchReady : Ready (scratched ekf w v).kf :=
    ⟨ready.measures, ready.carries, ready.spreads⟩
  have hScratchReplaced : Replaced (scratched ekf w v).kf := replaced
  have hOn : (scratched ekf w v).ins.initialized ≠ 0 := on
  have hCorrect (ins : QekfIns F) (kf : KalmanFilter F) :
      correctState dsp (withResults ins w) kf = correctState dsp ins kf := rfl
  have hCorrected : xhatUpdateCb dsp math
      (withResults (withMeasures (predicted dsp math ekf).1 w) w,
        (predicted dsp math ekf).2.withWork v') =
        (withResults (xhatUpdateCb dsp math (predicted dsp math ekf)).1 w,
          (xhatUpdateCb dsp math (predicted dsp math ekf)).2) := by
    rw [xhatUpdateCb_eq, hTested, xhatUpdateCb_eq]
    simp only [chiSquareTest_withResults, hCorrect]
  rw [runFilter_eq dsp math hOn hScratchReady hScratchReplaced, hPredicted, hCorrected,
    runFilter_eq dsp math on ready replaced]

end QuaternionEkf

namespace QuaternionEkf

variable {dsp : RiscvDsp ℚ} (math : AttitudeMath ℚ)

/-- Rates that are measured with another bias. -/
def shifted (g bias : Axes ℚ) : Axes ℚ := ⟨g.x - bias.x, g.y - bias.y, g.z - bias.z⟩

/-- A filter that has just been started, with everything that its past may have left. -/
def withPast (ekf : QuaternionEkf ℚ) (w : QekfIns ℚ) (v : KalmanFilter.Work) : QuaternionEkf ℚ :=
  { scratched ekf w v with ins := withInputs (scratched ekf w v).ins w }

/-- Of the past only the bias reaches the filter. -/
theorem prepare_withPast {ekf : QuaternionEkf ℚ} (first : ekf.ins.updateCount = 0)
    (unbiased : ekf.ins.gyroBias = ⟨0, 0, 0⟩) (w : QekfIns ℚ) (v : KalmanFilter.Work)
    (g a : Axes ℚ) :
    prepare math (withPast ekf w v) g a =
      scratched (prepare math ekf (shifted g w.gyroBias) a) w v := by
  simp [prepare, setRates, filterAccel, withPast, scratched, withInputs, withResults, withMeasures,
    withCopies, KalmanFilter.withWork, shifted, first, unbiased]

/-- The first update after a start overwrites what the past has left, but for the bias that it
subtracts from the rates. -/
theorem update_withPast (overwrites : Overwrites dsp) {ekf : QuaternionEkf ℚ}
    (sound : Sound ekf) (on : ekf.ins.initialized ≠ 0)
    (size : ekf.ins.chiSquareRows = 1 ∧ ekf.ins.chiSquareCols = 1)
    (first : ekf.ins.updateCount = 0) (unbiased : ekf.ins.gyroBias = ⟨0, 0, 0⟩) (w : QekfIns ℚ)
    (v : KalmanFilter.Work) (g a : Axes ℚ) :
    (withPast ekf w v).update dsp math g a = ekf.update dsp math (shifted g w.gyroBias) a := by
  have hPrepared := sound_prepare math sound (shifted g w.gyroBias) a
  have hOn : (prepare math ekf (shifted g w.gyroBias) a).ins.initialized ≠ 0 := on
  have hSize : (prepare math ekf (shifted g w.gyroBias) a).ins.chiSquareRows = 1 ∧
      (prepare math ekf (shifted g w.gyroBias) a).ins.chiSquareCols = 1 := size
  have hResult (ekf : QuaternionEkf ℚ) :
      takeResult math ⟨withResults ekf.ins w, ekf.kf⟩ = takeResult math ekf := rfl
  rw [update, update, prepare_withPast math first unbiased,
    runFilter_scratch math overwrites hOn hPrepared.ready (hPrepared.replaced hOn) hSize, hResult]

/-- What the calls keep. -/
structure Kept (ekf : QuaternionEkf ℚ) : Prop where
  sound : Sound ekf
  fixed : ekf.kf.fixed = (KalmanFilter.constructed 6 0 3 : KalmanFilter ℚ).fixed

theorem clear_of_size {m : Mat ℚ} {rows cols : Nat} (size : m.size = (rows, cols)) :
    KalmanFilter.clear m = Mat.zeros rows cols := by
  obtain ⟨hRows, hCols⟩ := Prod.mk.inj size
  simp [KalmanFilter.clear, Mat.zeros, hRows, hCols]

/-- After `Reset` a filter is as constructed, but for its work space. -/
theorem resetFilter_eq {kf : KalmanFilter ℚ}
    (sizes : kf.sizes = (KalmanFilter.constructed 6 0 3 : KalmanFilter ℚ).sizes)
    (fixed : kf.fixed = (KalmanFilter.constructed 6 0 3 : KalmanFilter ℚ).fixed) :
    kf.resetFilter 6 0 3 = (KalmanFilter.constructed 6 0 3 : KalmanFilter ℚ).withWork kf.work := by
  simp only [KalmanFilter.fixed, Prod.mk.injEq] at fixed
  obtain ⟨hAuto, hValid, hControls, hU, hB⟩ := fixed
  have hXhat := clear_of_size (congrArg Sizes.xhat sizes)
  have hMinus := clear_of_size (congrArg Sizes.xhatminus sizes)
  have hP := clear_of_size (congrArg Sizes.p sizes)
  have hPminus := clear_of_size (congrArg Sizes.pminus sizes)
  have hF := clear_of_size (congrArg Sizes.f sizes)
  have hFt := clear_of_size (congrArg Sizes.ft sizes)
  have hQ := clear_of_size (congrArg Sizes.q sizes)
  simp only [KalmanFilter.resetFilter, hAuto, hValid, hControls, hU, hB, hXhat, hMinus, hP, hPminus,
    hF, hFt, hQ]
  rfl

theorem kept_call {ekf : QuaternionEkf ℚ} (kept : Kept ekf) (call : EkfCall ℚ) :
    Kept (ekf.call dsp math call) := by
  refine ⟨sound_call dsp math kept.sound call, ?_⟩
  cases call with
  | init params => exact kept.fixed
  | reset => exact kept.fixed
  | update g a =>
      have hPrepared := sound_prepare math kept.sound g a
      exact (fixed_runFilter dsp math hPrepared.ready hPrepared.replaced).trans kept.fixed

/-- What `Init` takes from its parameters. -/
def configuration (ins : QekfIns ℚ) : UInt8 × Nat × Nat × List ℚ :=
  (ins.initialized, ins.chiSquareRows, ins.chiSquareCols,
    [ins.q1, ins.q2, ins.r, ins.dt, ins.accLpfCoef, ins.chiSquareTestThreshold, ins.lambda])

theorem configuration_call (ekf : QuaternionEkf ℚ) {call : EkfCall ℚ}
    (later : ∀ params, call ≠ .init params) :
    configuration (ekf.call dsp math call).ins = configuration ekf.ins := by
  cases call with
  | init params => exact absurd rfl (later params)
  | reset => rfl
  | update g a =>
      exact (congrArg configuration (settled_runFilter dsp math (prepare math ekf g a)) :)

/-- `again` starts the filter with the given parameters, those of the last `Init` if it is
`Reset`. -/
def Restarts (past : List (EkfCall ℚ)) (params : EkfParams ℚ) (again : EkfCall ℚ) : Prop :=
  again = .init params ∨
    again = .reset ∧ ∃ before later, past = before ++ .init params :: later ∧
      ∀ call ∈ later, ∀ params, call ≠ .init params

theorem configuration_later (ekf : QuaternionEkf ℚ) {later : List (EkfCall ℚ)}
    (noInit : ∀ call ∈ later, ∀ params, call ≠ .init params) :
    configuration (later.foldl (call dsp math) ekf).ins = configuration ekf.ins := by
  induction later generalizing ekf with
  | nil => rfl
  | cons first rest ih =>
      obtain ⟨hFirst, hRest⟩ := List.forall_mem_cons.mp noInit
      exact (ih _ hRest).trans (configuration_call math ekf hFirst)

/-- A start leaves nothing of the past but what the first update overwrites, and the bias. -/
theorem call_restarts {past : List (EkfCall ℚ)} {params : EkfParams ℚ} {again : EkfCall ℚ}
    (restarts : Restarts past params again) {old : QuaternionEkf ℚ}
    (reached : old = past.foldl (call dsp math) constructed) :
    ∃ w v, old.call dsp math again = withPast (constructed.init params) w v ∧
      w.gyroBias = old.ins.gyroBias := by
  have hCall : ∀ ekf calling, Kept ekf → Kept (call dsp math ekf calling) :=
    fun _ calling kept => kept_call math kept calling
  have hKept : Kept old := by
    rw [reached]
    exact Run.foldl_invariant hCall ⟨sound_constructed, rfl⟩ past
  have hReset := resetFilter_eq hKept.sound.sizes hKept.fixed
  have hPrimed : primed (old.kf.resetFilter 6 0 3) =
      (constructed.init params : QuaternionEkf ℚ).kf.withWork old.kf.work := by
    rw [hReset]
    rfl
  rcases restarts with rfl | ⟨rfl, before, later, rfl, hLater⟩
  · refine ⟨(old.init params).ins, old.kf.work, ?_, rfl⟩
    exact congrArg (QuaternionEkf.mk (old.init params).ins) hPrimed
  · have hSame : configuration old.ins =
        configuration (constructed.init params : QuaternionEkf ℚ).ins := by
      rw [reached, List.foldl_append, List.foldl_cons, configuration_later math _ hLater]
      rfl
    simp only [configuration, Prod.mk.injEq, List.cons.injEq] at hSame
    obtain ⟨hOn, hRows, hCols, hQ1, hQ2, hR, hDt, hCoef, hThreshold, hLambda, _⟩ := hSame
    refine ⟨old.reset.ins, old.kf.work, congrArg₂ QuaternionEkf.mk ?_ hPrimed, rfl⟩
    simp only [reset, hOn, hRows, hCols, hQ1, hQ2, hR, hDt, hCoef, hThreshold, hLambda]
    rfl

/-- After a start, a filter with a past does what a new one does that is given the rates of
the first update less the bias that was found before. -/
theorem restart_forgets (overwrites : Overwrites dsp) {past : List (EkfCall ℚ)}
    {params : EkfParams ℚ} {again : EkfCall ℚ} (restarts : Restarts past params again)
    (g a : Axes ℚ) (future : List (EkfCall ℚ)) :
    (past ++ again :: .update g a :: future).foldl (call dsp math) constructed =
      (.init params ::
        .update (shifted g (past.foldl (call dsp math) constructed).ins.gyroBias) a ::
          future).foldl (call dsp math) constructed := by
  obtain ⟨w, v, hStart, hBias⟩ := call_restarts math restarts rfl
  have hFirst := update_withPast math overwrites
    (sound_call dsp math sound_constructed (.init params)) (show (1 : UInt8) ≠ 0 by decide)
    ⟨rfl, rfl⟩ rfl rfl w v g a
  rw [List.foldl_append, List.foldl_cons, List.foldl_cons, hStart, ← hBias]
  exact congrArg (fun ekf => future.foldl (call dsp math) ekf) hFirst

theorem overwrites_exactDsp : Overwrites exactDsp := by
  intro a b dst dst' rows inner cols i hi
  have hCols : 0 < cols := Nat.pos_of_mul_pos_left (Nat.zero_lt_of_lt hi)
  have hInside : i / cols < rows ∧ i % cols < cols :=
    ⟨Nat.div_lt_of_lt_mul (by rwa [Nat.mul_comm]), Nat.mod_lt i hCols⟩
  simp only [exactDsp, Buffer.write, dif_pos hInside]

/-- One update after `Init`. -/
def plainPast : List (EkfCall ℚ) := [.init plainParams, .update ⟨1, 0, 0⟩ ⟨0, 0, 1⟩]

theorem restart_forgets_plain :
    (plainPast ++ EkfCall.reset :: .update ⟨0, 1, 0⟩ ⟨0, 0, 1⟩ :: []).foldl
        (call exactDsp flatMath) constructed =
      (EkfCall.init plainParams ::
        .update (shifted ⟨0, 1, 0⟩
          (plainPast.foldl (call exactDsp flatMath) constructed).ins.gyroBias) ⟨0, 0, 1⟩ ::
          []).foldl (call exactDsp flatMath) constructed :=
  restart_forgets flatMath overwrites_exactDsp
    (.inr ⟨rfl, [], [.update ⟨1, 0, 0⟩ ⟨0, 0, 1⟩], rfl, by simp⟩) _ _ _

end QuaternionEkf

end RmTest.Algorithms

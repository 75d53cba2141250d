import RmTest.Algorithms.QuaternionEkf
import RmTest.Library.Run
import RmTest.Verification.KalmanPhases

/-! The phases of an update of the attitude filter, and what each leaves as it is. -/
namespace RmTest.Algorithms

open FloatModel Kf

variable {F : Type}

section Fields

variable [Zero F]

/-- What no user function writes to. -/
def QekfIns.settled (ins : QekfIns F) : QekfIns F :=
  { ins with
    convergeFlag := 0
    errorCount := 0
    adaptiveGainScale := 0
    orientationCosine := ⟨0, 0, 0⟩
    chiSquareData := 0
    imuQuaternionEkfP := fun _ => 0
    imuQuaternionEkfK := fun _ => 0
    imuQuaternionEkfH := fun _ => 0 }

end Fields

namespace QuaternionEkf

variable [FloatModel F] (dsp : RiscvDsp F) (math : AttitudeMath F)

/-- The first half of the update of the filter, with the user functions. -/
def predicted (ekf : QuaternionEkf F) : QekfIns F × KalmanFilter F :=
  KalmanFilter.predictHooked dsp (userFunctions dsp math) 6 0 3 ekf.ins ekf.kf

theorem predicted_eq (ekf : QuaternionEkf F) :
    predicted dsp math ekf =
      setHCb ((fLinearizationPFadingCb math
        ((observeCb (ekf.ins, ekf.kf.measure 0 3)).1,
          ((ekf.kf.measure 0 3).xhatMinusUpdate dsp 6 0).1)).1,
        ((fLinearizationPFadingCb math
          ((observeCb (ekf.ins, ekf.kf.measure 0 3)).1,
            ((ekf.kf.measure 0 3).xhatMinusUpdate dsp 6 0).1)).2.pminusUpdate dsp).1) := rfl

/-- The settings, of which the user functions write the last. -/
def settings (kf : KalmanFilter F) : List UInt8 :=
  [kf.useAutoAdjustment, kf.measurementValidNum, kf.skipEq1, kf.skipEq2, kf.skipEq3, kf.skipEq4,
    kf.skipEq5]

omit [FloatModel F] in
theorem control_of_settings {before after : KalmanFilter F}
    (same : settings after = settings before) :
    after.control = before.control := by
  simp only [settings, List.cons.injEq] at same
  obtain ⟨hAuto, hValid, hSkip1, hSkip2, hSkip3, hSkip4, hSkip5, _⟩ := same
  simp only [KalmanFilter.control, KalmanFilter.takesMeasurement, KalmanFilter.skips, hAuto, hValid,
    hSkip1, hSkip2, hSkip3, hSkip4, hSkip5]

theorem control_predicted (ekf : QuaternionEkf F) :
    (predicted dsp math ekf).2.control = ekf.kf.control := by
  have hLinearised (s : QekfIns F × KalmanFilter F) :
      (fLinearizationPFadingCb math s).2.control = s.2.control := control_of_settings rfl
  have hObserved (s : QekfIns F × KalmanFilter F) : (setHCb s).2.control = s.2.control :=
    control_of_settings rfl
  rw [predicted_eq, hObserved, KalmanFilter.control_pminusUpdate, hLinearised]
  exact (ekf.kf.carried_spec dsp 6 0 3).2.1

omit [FloatModel F] in
theorem settings_setStatus (kf : KalmanFilter F) (status : Status) :
    settings (kf.setStatus status) = settings kf := rfl

theorem settings_invertSum (kf : KalmanFilter F) : settings (invertSum dsp kf) = settings kf := by
  simp [settings, invertSum, KalmanFilter.setS, KalmanFilter.setStatus]

theorem settings_setResidual (kf : KalmanFilter F) :
    settings (setResidual dsp kf) = settings kf := by
  simp [settings, setResidual, KalmanFilter.setStatus]

omit [FloatModel F] in
theorem settings_weigh (kf : KalmanFilter F) : settings (weigh dsp kf) = settings kf := by
  simp [settings, weigh, KalmanFilter.setStatus]

theorem settings_setScaledGain (ins : QekfIns F) (kf : KalmanFilter F) :
    settings (setScaledGain dsp ins kf) = settings kf := by
  simp [settings, setScaledGain, KalmanFilter.setStatus]

theorem settings_addCorrection (ins : QekfIns F) (kf : KalmanFilter F) :
    settings (addCorrection dsp ins kf) = settings kf := by
  simp [settings, addCorrection, KalmanFilter.setStatus]

theorem control_testStatistic (s : QekfIns F × KalmanFilter F) :
    (testStatistic dsp math s).2.control = s.2.control := by
  apply control_of_settings
  rw [testStatistic, settings_setStatus, settings_weigh, settings_setResidual, settings_invertSum]

theorem control_correctState (ins : QekfIns F) (kf : KalmanFilter F) :
    (correctState dsp ins kf).control = { kf with skipEq5 := 0 }.control := by
  apply control_of_settings
  rw [correctState, settings_addCorrection, settings_setScaledGain]

/-- What the test does: it rejects the measurement, gives up on the filter, or takes the
measurement. -/
theorem chiSquareTest_cases (ins : QekfIns F) :
    (lt ins.chiSquareTestThreshold ins.chiSquareData = true ∧ convergeFlagSeen ins ≠ 0 ∧
        ¬ errorCountSeen ins > 50 ∧
        chiSquareTest ins =
          ({ ins with convergeFlag := convergeFlagSeen ins, errorCount := errorCountSeen ins },
            true)) ∨
      (lt ins.chiSquareTestThreshold ins.chiSquareData = true ∧ convergeFlagSeen ins ≠ 0 ∧
        errorCountSeen ins > 50 ∧
        chiSquareTest ins =
          ({ ins with convergeFlag := 0, errorCount := errorCountSeen ins }, false)) ∨
      (¬ (lt ins.chiSquareTestThreshold ins.chiSquareData = true ∧ convergeFlagSeen ins ≠ 0) ∧
        chiSquareTest ins =
          ({ ins with
              convergeFlag := convergeFlagSeen ins
              adaptiveGainScale := gainScale { ins with convergeFlag := convergeFlagSeen ins }
              errorCount := 0 }, false)) := by
  by_cases hFails : lt ins.chiSquareTestThreshold ins.chiSquareData = true ∧
      convergeFlagSeen ins ≠ 0
  · by_cases hLong : errorCountSeen ins > 50
    · refine .inr (.inl ⟨hFails.1, hFails.2, hLong, ?_⟩)
      exact (if_pos hFails).trans (if_pos hLong)
    · refine .inl ⟨hFails.1, hFails.2, hLong, ?_⟩
      exact (if_pos hFails).trans (if_neg hLong)
  · exact .inr (.inr ⟨hFails, if_neg hFails⟩)

theorem settled_chiSquareTest (ins : QekfIns F) : (chiSquareTest ins).1.settled = ins.settled := by
  rcases chiSquareTest_cases ins with ⟨_, _, _, hTest⟩ | ⟨_, _, _, hTest⟩ | ⟨_, hTest⟩ <;>
    rw [hTest] <;> rfl

/-- The correction by the test that it makes. -/
theorem xhatUpdateCb_eq (s : QekfIns F × KalmanFilter F) :
    xhatUpdateCb dsp math s =
      ((chiSquareTest (testStatistic dsp math s).1).1,
        if (chiSquareTest (testStatistic dsp math s).1).2 = true then
          keepPrediction (testStatistic dsp math s).2
        else
          correctState dsp (chiSquareTest (testStatistic dsp math s).1).1
            (testStatistic dsp math s).2) := rfl

/-- The test decides about the update of the covariance, and about nothing else in the
settings. -/
theorem control_xhatUpdateCb (s : QekfIns F × KalmanFilter F) :
    (xhatUpdateCb dsp math s).2.control =
      { s.2 with
        skipEq5 :=
          if (chiSquareTest (testStatistic dsp math s).1).2 = true then 1 else 0 }.control := by
  have hTested := control_testStatistic dsp math s
  have hSkip {a b : KalmanFilter F} (skip : UInt8) (same : a.control = b.control) :
      { a with skipEq5 := skip }.control = { b with skipEq5 := skip }.control := by
    simp only [KalmanFilter.control, KalmanFilter.skips, Prod.mk.injEq, List.cons.injEq] at same ⊢
    tauto
  rw [xhatUpdateCb_eq]
  split_ifs with hRejected
  · exact (control_of_settings rfl).trans (hSkip 1 hTested)
  · exact (control_correctState dsp _ _).trans (hSkip 0 hTested)

/-- The filter runs through all phases but the two that the user functions replace. -/
structure Ready (kf : KalmanFilter F) : Prop where
  measures : kf.takesMeasurement = true
  carries : kf.skipEq1 = 0
  spreads : kf.skipEq2 = 0

/-- The user functions replace two phases. -/
def Replaced (kf : KalmanFilter F) : Prop := kf.skipEq3 ≠ 0 ∧ kf.skipEq4 ≠ 0

theorem settled_xhatUpdateCb (s : QekfIns F × KalmanFilter F) :
    (xhatUpdateCb dsp math s).1.settled = s.1.settled := by
  rw [xhatUpdateCb_eq, settled_chiSquareTest]
  rfl

theorem settled_correctHooked (s : QekfIns F × KalmanFilter F) :
    (KalmanFilter.correctHooked dsp (userFunctions dsp math) 6 s.1 s.2).1.settled =
      s.1.settled := by
  unfold KalmanFilter.correctHooked
  split_ifs
  · exact settled_xhatUpdateCb dsp math _
  · rfl

/-- What the user functions write to is all of the instance that the filter changes. -/
theorem settled_runFilter (ekf : QuaternionEkf F) :
    (runFilter dsp math ekf).ins.settled = ekf.ins.settled := by
  by_cases hOn : ekf.ins.initialized ≠ 0
  · have hRun : (runFilter dsp math ekf).ins =
        (KalmanFilter.correctHooked dsp (userFunctions dsp math) 6 (predicted dsp math ekf).1
          (predicted dsp math ekf).2).1 := by
      simp only [runFilter, if_pos hOn]
      rfl
    rw [hRun]
    exact settled_correctHooked dsp math (predicted dsp math ekf)
  · simp only [runFilter, if_neg hOn, KalmanFilter.updateHooked_none]

/-- In a filter that is set up, the correction of the user functions stands between the
prediction and the update of the covariance. -/
theorem runFilter_eq {ekf : QuaternionEkf F} (on : ekf.ins.initialized ≠ 0) (ready : Ready ekf.kf)
    (replaced : Replaced ekf.kf) :
    runFilter dsp math ekf =
      ⟨(xhatUpdateCb dsp math (predicted dsp math ekf)).1,
        ((xhatUpdateCb dsp math (predicted dsp math ekf)).2.pUpdate dsp).1.finish 6⟩ := by
  have hControl := control_predicted dsp math ekf
  have hCorrected := control_xhatUpdateCb dsp math (predicted dsp math ekf)
  have hRun : runFilter dsp math ekf =
      ⟨(KalmanFilter.correctHooked dsp (userFunctions dsp math) 6 (predicted dsp math ekf).1
          (predicted dsp math ekf).2).1,
        (KalmanFilter.correctHooked dsp (userFunctions dsp math) 6 (predicted dsp math ekf).1
          (predicted dsp math ekf).2).2.finish 6⟩ := by
    simp only [runFilter, if_pos on]
    rfl
  rw [hRun]
  generalize predicted dsp math ekf = p at hControl hCorrected ⊢
  simp only [KalmanFilter.control, KalmanFilter.skips, Prod.mk.injEq, List.cons.injEq]
    at hControl hCorrected
  have hGain : p.2.setK dsp = (p.2, []) := if_pos (by rw [hControl.2.2.2.1]; exact replaced.1)
  have hMove : (xhatUpdateCb dsp math p).2.xhatUpdate dsp = ((xhatUpdateCb dsp math p).2, []) :=
    if_pos (by rw [hCorrected.2.2.2.2.1, hControl.2.2.2.2.1]; exact replaced.2)
  have hCorrect : KalmanFilter.correctHooked dsp (userFunctions dsp math) 6 p.1 p.2 =
      ((xhatUpdateCb dsp math p).1, ((xhatUpdateCb dsp math p).2.pUpdate dsp).1) := by
    rw [KalmanFilter.correctHooked, if_pos (hControl.1.trans ready.measures), hGain]
    simp only [userFunctions, Option.getD_some, Option.getD_none, id, hMove]
  rw [hCorrect]

omit [FloatModel F] in
theorem ready_of_control {before after : KalmanFilter F} {skip5 : UInt8}
    (same : after.control = { before with skipEq5 := skip5 }.control) (ready : Ready before) :
    Ready after := by
  simp only [KalmanFilter.control, KalmanFilter.skips, Prod.mk.injEq, List.cons.injEq] at same
  obtain ⟨hTakes, hSkip1, hSkip2, _⟩ := same
  exact ⟨hTakes.trans ready.measures, hSkip1.trans ready.carries, hSkip2.trans ready.spreads⟩

omit [FloatModel F] in
theorem replaced_of_control {before after : KalmanFilter F} {skip5 : UInt8}
    (same : after.control = { before with skipEq5 := skip5 }.control) (replaced : Replaced before) :
    Replaced after := by
  simp only [KalmanFilter.control, KalmanFilter.skips, Prod.mk.injEq, List.cons.injEq] at same
  obtain ⟨_, _, _, hSkip3, hSkip4, _⟩ := same
  exact ⟨hSkip3 ▸ replaced.1, hSkip4 ▸ replaced.2⟩

/-- The settings after an update of the filter. -/
theorem control_runFilter {ekf : QuaternionEkf F} (ready : Ready ekf.kf)
    (replaced : ekf.ins.initialized ≠ 0 → Replaced ekf.kf) :
    ∃ skip5, (runFilter dsp math ekf).kf.control = { ekf.kf with skipEq5 := skip5 }.control := by
  by_cases hOn : ekf.ins.initialized ≠ 0
  · have hPredicted := control_predicted dsp math ekf
    refine ⟨if (chiSquareTest (testStatistic dsp math (predicted dsp math ekf)).1).2 = true then 1
      else 0, ?_⟩
    rw [runFilter_eq dsp math hOn ready (replaced hOn)]
    rw [(KalmanFilter.finish_spec 6 _).2.2, KalmanFilter.control_pUpdate, control_xhatUpdateCb]
    generalize predicted dsp math ekf = p at hPredicted ⊢
    simp only [KalmanFilter.control, KalmanFilter.skips, Prod.mk.injEq, List.cons.injEq]
      at hPredicted ⊢
    obtain ⟨hTakes, hSkip1, hSkip2, hSkip3, hSkip4, _⟩ := hPredicted
    exact ⟨hTakes, hSkip1, hSkip2, hSkip3, hSkip4, trivial⟩
  · refine ⟨ekf.kf.skipEq5, ?_⟩
    simp only [runFilter, if_neg hOn, KalmanFilter.updateHooked_none]
    exact KalmanFilter.control_update dsp 6 0 3 ekf.kf

theorem sizes_predicted (ekf : QuaternionEkf F) :
    (predicted dsp math ekf).2.sizes = ekf.kf.sizes := by
  have hLinearised (s : QekfIns F × KalmanFilter F) :
      (fLinearizationPFadingCb math s).2.sizes = s.2.sizes := rfl
  have hObserved (s : QekfIns F × KalmanFilter F) : (setHCb s).2.sizes = s.2.sizes := rfl
  rw [predicted_eq, hObserved, KalmanFilter.sizes_pminusUpdate, hLinearised]
  exact (ekf.kf.carried_spec dsp 6 0 3).1

theorem sizes_invertSum (kf : KalmanFilter F) : (invertSum dsp kf).sizes = kf.sizes := by
  simp [KalmanFilter.sizes, invertSum, KalmanFilter.setS, KalmanFilter.setStatus]

theorem sizes_setResidual (kf : KalmanFilter F) : (setResidual dsp kf).sizes = kf.sizes := rfl

omit [FloatModel F] in
theorem sizes_weigh (kf : KalmanFilter F) : (weigh dsp kf).sizes = kf.sizes := by
  simp [KalmanFilter.sizes, weigh, KalmanFilter.setStatus]

omit [FloatModel F] in
theorem sizes_setStatus (kf : KalmanFilter F) (status : Status) :
    (kf.setStatus status).sizes = kf.sizes := rfl

theorem sizes_testStatistic (s : QekfIns F × KalmanFilter F) :
    (testStatistic dsp math s).2.sizes = s.2.sizes := by
  rw [testStatistic, sizes_setStatus, sizes_weigh, sizes_setResidual, sizes_invertSum]

omit [FloatModel F] in
theorem size_scaled (m : Mat F) (data : Buffer F) : { m with data := data }.size = m.size := rfl

theorem sizes_setScaledGain (ins : QekfIns F) (kf : KalmanFilter F) :
    (setScaledGain dsp ins kf).sizes = kf.sizes := by
  simp [KalmanFilter.sizes, setScaledGain, KalmanFilter.setStatus, size_scaled]

theorem sizes_addCorrection (ins : QekfIns F) (kf : KalmanFilter F) :
    (addCorrection dsp ins kf).sizes = kf.sizes := by
  simp [KalmanFilter.sizes, addCorrection, KalmanFilter.setStatus]

/-- The correction keeps the sizes. -/
theorem sizes_correctState (ins : QekfIns F) (kf : KalmanFilter F) :
    (correctState dsp ins kf).sizes = kf.sizes := by
  rw [correctState, sizes_addCorrection, sizes_setScaledGain]
  rfl

omit [FloatModel F] in
theorem sizes_keepPrediction (kf : KalmanFilter F) : (keepPrediction kf).sizes = kf.sizes := rfl

theorem sizes_xhatUpdateCb (s : QekfIns F × KalmanFilter F) :
    (xhatUpdateCb dsp math s).2.sizes = s.2.sizes := by
  rw [xhatUpdateCb_eq]
  split_ifs
  · rw [sizes_keepPrediction]
    exact sizes_testStatistic dsp math s
  · rw [sizes_correctState]
    exact sizes_testStatistic dsp math s

/-- What holds of the filter in every run of calls. -/
structure Sound (ekf : QuaternionEkf F) : Prop where
  ready : Ready ekf.kf
  replaced : ekf.ins.initialized ≠ 0 → Replaced ekf.kf
  sizes : ekf.kf.sizes = (KalmanFilter.constructed 6 0 3 : KalmanFilter F).sizes

theorem sound_constructed : Sound (constructed : QuaternionEkf F) where
  ready := ⟨rfl, rfl, rfl⟩
  replaced on := absurd rfl on
  sizes := rfl

/-- `Init` and `Reset` set the filter up, whatever was before. -/
theorem sound_primed {ekf : QuaternionEkf F} (sound : Sound ekf) :
    Ready (primed (ekf.kf.resetFilter 6 0 3)) ∧ Replaced (primed (ekf.kf.resetFilter 6 0 3)) ∧
      (primed (ekf.kf.resetFilter 6 0 3)).sizes =
        (KalmanFilter.constructed 6 0 3 : KalmanFilter F).sizes := by
  refine ⟨⟨sound.ready.measures, rfl, rfl⟩, ⟨nofun, nofun⟩, ?_⟩
  have hSizes := sound.sizes
  simp only [KalmanFilter.sizes, Sizes.mk.injEq] at hSizes
  obtain ⟨hXhat, hXhatminus, hU, _, hP, hPminus, hF, hFt, hB, _, _, hQ, _, _⟩ := hSizes
  simp only [KalmanFilter.sizes, Sizes.mk.injEq]
  exact ⟨hXhat, hXhatminus, hU, rfl, hP, hPminus, hF, hFt, hB, rfl, rfl, hQ, rfl, rfl⟩

theorem sizes_runFilter {ekf : QuaternionEkf F} (ready : Ready ekf.kf)
    (replaced : ekf.ins.initialized ≠ 0 → Replaced ekf.kf) :
    (runFilter dsp math ekf).kf.sizes = ekf.kf.sizes := by
  by_cases hOn : ekf.ins.initialized ≠ 0
  · rw [runFilter_eq dsp math hOn ready (replaced hOn), (KalmanFilter.finish_spec 6 _).2.1,
      KalmanFilter.sizes_pUpdate, sizes_xhatUpdateCb, sizes_predicted]
  · simp only [runFilter, if_neg hOn, KalmanFilter.updateHooked_none]
    exact KalmanFilter.sizes_update dsp 6 0 3 ekf.kf

/-- The preparation of an update changes no setting and no size. -/
theorem kf_prepare (ekf : QuaternionEkf F) (g a : Axes F) :
    (prepare math ekf g a).kf.control = ekf.kf.control ∧
      (prepare math ekf g a).kf.sizes = ekf.kf.sizes ∧
      (prepare math ekf g a).ins.initialized = ekf.ins.initialized :=
  ⟨control_of_settings rfl, rfl, rfl⟩

theorem sound_prepare {ekf : QuaternionEkf F} (sound : Sound ekf) (g a : Axes F) :
    Sound (prepare math ekf g a) := by
  obtain ⟨hControl, hSizes, hOn⟩ := kf_prepare math ekf g a
  have hSame : (prepare math ekf g a).kf.control =
      { ekf.kf with skipEq5 := ekf.kf.skipEq5 }.control := hControl
  exact ⟨ready_of_control hSame sound.ready,
    fun on => replaced_of_control hSame (sound.replaced (hOn ▸ on)), hSizes.trans sound.sizes⟩

theorem sound_call {ekf : QuaternionEkf F} (sound : Sound ekf) (call : EkfCall F) :
    Sound (ekf.call dsp math call) := by
  cases call with
  | init params =>
      obtain ⟨hReady, hReplaced, hSizes⟩ := sound_primed sound
      exact ⟨hReady, fun _ => hReplaced, hSizes⟩
  | reset =>
      obtain ⟨hReady, hReplaced, hSizes⟩ := sound_primed sound
      exact ⟨hReady, fun _ => hReplaced, hSizes⟩
  | update g a =>
      have hPrepared := sound_prepare math sound g a
      obtain ⟨skip5, hControl⟩ := control_runFilter dsp math hPrepared.ready hPrepared.replaced
      have hOn : (ekf.update dsp math g a).ins.initialized =
          (prepare math ekf g a).ins.initialized :=
        (congrArg QekfIns.initialized (settled_runFilter dsp math (prepare math ekf g a)) :)
      exact ⟨ready_of_control hControl hPrepared.ready,
        fun on => replaced_of_control hControl (hPrepared.replaced (hOn ▸ on)),
        (sizes_runFilter dsp math hPrepared.ready hPrepared.replaced).trans hPrepared.sizes⟩

/-- Functions whose angles are zero. -/
def flatMath : AttitudeMath ℚ where
  sqrt x := x
  sin _ := 0
  cos _ := 1
  asin _ := 0
  atan2 _ _ := 0
  invSqrt _ := 1

/-- An ordinary set of parameters. -/
def plainParams : EkfParams ℚ where
  processNoiseQuat := 10
  processNoiseGyroBias := 1 / 1000
  measureNoiseAccel := 1000000
  fadingLambda := 1
  dt := 1 / 1000
  accelLpfCoef := 0

end QuaternionEkf

end RmTest.Algorithms

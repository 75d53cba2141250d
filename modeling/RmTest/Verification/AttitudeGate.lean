import Mathlib.Algebra.BigOperators.Fin
import RmTest.Verification.AttitudePhases
import RmTest.Verification.KalmanCovariance

/-! The chi-square test of the attitude filter over runs of calls: how long it keeps to the
prediction alone, and how far a measurement that it takes can move the state. -/
namespace RmTest.Algorithms.QuaternionEkf

open FloatModel Kf

variable (dsp : RiscvDsp ℚ) (math : AttitudeMath ℚ)

/-- The counters of the test stay in their range. -/
structure Gated (ins : QekfIns ℚ) : Prop where
  errors : ins.errorCount.toNat ≤ 51
  converged : ins.convergeFlag ≠ 0 → ins.errorCount.toNat ≤ 50
  scale : 0 ≤ ins.adaptiveGainScale ∧ ins.adaptiveGainScale ≤ 1

/-- Of an instance that `Init` has set up, the threshold is positive. -/
def Armed (ins : QekfIns ℚ) : Prop := ins.initialized ≠ 0 → 0 < ins.chiSquareTestThreshold

theorem toNat_errorCountSeen {ins : QekfIns ℚ} (bounded : ins.errorCount.toNat ≤ 51) :
    (errorCountSeen ins).toNat = if ins.stableFlag ≠ 0 then ins.errorCount.toNat + 1 else 0 := by
  unfold errorCountSeen
  split_ifs
  · rw [UInt64.toNat_add, UInt64.toNat_one, Nat.mod_eq_of_lt (by omega)]
  · rfl

theorem gainScale_range {ins : QekfIns ℚ} (positive : 0 < ins.chiSquareTestThreshold)
    (taken : ¬ (lt ins.chiSquareTestThreshold ins.chiSquareData = true ∧ ins.convergeFlag ≠ 0)) :
    0 ≤ gainScale ins ∧ gainScale ins ≤ 1 := by
  unfold gainScale
  split_ifs with hScaled
  · obtain ⟨hLow, hConverged⟩ := hScaled
    have hHigh : ins.chiSquareData ≤ ins.chiSquareTestThreshold := by
      simpa [hConverged] using taken
    simp only [lit_rat, lt_rat, decide_eq_true_eq] at hLow ⊢
    have hWidth : 0 < 9 / 10 * ins.chiSquareTestThreshold := by linarith
    refine ⟨div_nonneg (by linarith) hWidth.le, ?_⟩
    rw [div_le_one hWidth]
    linarith
  · simp

/-- A measurement that fails the test has not just made the filter converge. -/
theorem convergeFlagSeen_of_fails {ins : QekfIns ℚ} (positive : 0 < ins.chiSquareTestThreshold)
    (fails : lt ins.chiSquareTestThreshold ins.chiSquareData = true) :
    convergeFlagSeen ins = ins.convergeFlag := by
  unfold convergeFlagSeen
  simp only [lt_rat, lit_rat, decide_eq_true_eq] at fails ⊢
  exact if_neg (by linarith)

/-- A test that begins with counters in their range ends so. -/
theorem gated_chiSquareTest {ins : QekfIns ℚ} (gated : Gated ins)
    (positive : 0 < ins.chiSquareTestThreshold) :
    Gated (chiSquareTest ins).1 := by
  rcases chiSquareTest_cases ins with ⟨_, _, hShort, hTest⟩ | ⟨hFails, hConverged, _, hTest⟩ |
    ⟨hTaken, hTest⟩
  · rw [hTest]
    have hCount : (errorCountSeen ins).toNat ≤ 50 :=
      UInt64.le_iff_toNat_le.mp (UInt64.not_lt.mp hShort)
    exact ⟨Nat.le_succ_of_le hCount, fun _ => hCount, gated.scale⟩
  · -- the filter had converged before, so the count was at most fifty
    rw [convergeFlagSeen_of_fails positive hFails] at hConverged
    have hBefore := gated.converged hConverged
    have hCount : (errorCountSeen ins).toNat ≤ 51 := by
      rw [toNat_errorCountSeen gated.errors]
      split_ifs <;> omega
    rw [hTest]
    exact ⟨hCount, fun h => absurd rfl h, gated.scale⟩
  · rw [hTest]
    exact ⟨Nat.zero_le _, fun _ => Nat.zero_le _, gainScale_range positive hTaken⟩

/-- A rejected measurement counts, at rest. -/
theorem errorCount_of_rejected {ins : QekfIns ℚ} (gated : Gated ins)
    (rejected : (chiSquareTest ins).2 = true) (rest : ins.stableFlag ≠ 0) :
    (chiSquareTest ins).1.errorCount.toNat = ins.errorCount.toNat + 1 ∧
      (chiSquareTest ins).1.errorCount.toNat ≤ 50 := by
  rcases chiSquareTest_cases ins with ⟨_, _, hShort, hTest⟩ | ⟨_, _, _, hTest⟩ | ⟨_, hTest⟩
  · rw [hTest]
    have hCount : (errorCountSeen ins).toNat ≤ 50 :=
      UInt64.le_iff_toNat_le.mp (UInt64.not_lt.mp hShort)
    exact ⟨(toNat_errorCountSeen gated.errors).trans (if_pos rest), hCount⟩
  · rw [hTest] at rejected
    cases rejected
  · rw [hTest] at rejected
    cases rejected

/-- What the test of an update sees. -/
def tested (ekf : QuaternionEkf ℚ) (g a : Axes ℚ) : QekfIns ℚ × KalmanFilter ℚ :=
  testStatistic dsp math (predicted dsp math (prepare math ekf g a))

/-- The fields of the instance that the test of an update begins with. -/
theorem ins_tested (ekf : QuaternionEkf ℚ) (g a : Axes ℚ) :
    (tested dsp math ekf g a).1.settled = (prepare math ekf g a).ins.settled ∧
      (tested dsp math ekf g a).1.convergeFlag = ekf.ins.convergeFlag ∧
      (tested dsp math ekf g a).1.errorCount = ekf.ins.errorCount ∧
      (tested dsp math ekf g a).1.adaptiveGainScale = ekf.ins.adaptiveGainScale :=
  ⟨rfl, rfl, rfl, rfl⟩

/-- The filter after the correction of an update. -/
def corrected (ekf : QuaternionEkf ℚ) (g a : Axes ℚ) : KalmanFilter ℚ :=
  if (chiSquareTest (tested dsp math ekf g a).1).2 = true then
    keepPrediction (tested dsp math ekf g a).2
  else correctState dsp (chiSquareTest (tested dsp math ekf g a).1).1 (tested dsp math ekf g a).2

/-- An update of a filter that `Init` has set up. -/
theorem update_eq {ekf : QuaternionEkf ℚ} (sound : Sound ekf) (on : ekf.ins.initialized ≠ 0)
    (g a : Axes ℚ) :
    ekf.update dsp math g a =
      takeResult math ⟨(chiSquareTest (tested dsp math ekf g a).1).1,
        ((corrected dsp math ekf g a).pUpdate dsp).1.finish 6⟩ := by
  have hPrepared := sound_prepare math sound g a
  have hOn : (prepare math ekf g a).ins.initialized ≠ 0 := on
  rw [update, runFilter_eq dsp math hOn hPrepared.ready (hPrepared.replaced hOn), xhatUpdateCb_eq]
  rfl

/-- Only the prediction was kept. -/
def Rejected (next : QuaternionEkf ℚ) : Prop := next.kf.skipEq5 ≠ 0

theorem skipEq5_pUpdate (kf : KalmanFilter ℚ) : (kf.pUpdate dsp).1.skipEq5 = kf.skipEq5 := by
  have hControl := congrArg Prod.snd (KalmanFilter.control_pUpdate dsp kf)
  simp only [KalmanFilter.control, KalmanFilter.skips, List.cons.injEq] at hControl
  exact hControl.2.2.2.2.1

theorem skipEq5_corrected (ekf : QuaternionEkf ℚ) (g a : Axes ℚ) :
    (corrected dsp math ekf g a).skipEq5 =
      if (chiSquareTest (tested dsp math ekf g a).1).2 = true then 1 else 0 := by
  rw [corrected]
  split_ifs
  · rfl
  · have hControl := congrArg Prod.snd (control_correctState dsp
      (chiSquareTest (tested dsp math ekf g a).1).1 (tested dsp math ekf g a).2)
    simp only [KalmanFilter.control, KalmanFilter.skips, List.cons.injEq] at hControl
    exact hControl.2.2.2.2.1

theorem rejected_iff {ekf : QuaternionEkf ℚ} (sound : Sound ekf) (on : ekf.ins.initialized ≠ 0)
    (g a : Axes ℚ) :
    Rejected (ekf.update dsp math g a) ↔ (chiSquareTest (tested dsp math ekf g a).1).2 = true := by
  have hSkip : (ekf.update dsp math g a).kf.skipEq5 = (corrected dsp math ekf g a).skipEq5 := by
    rw [update_eq dsp math sound on]
    exact skipEq5_pUpdate dsp _
  rw [Rejected, hSkip, skipEq5_corrected]
  split_ifs with hTest
  · exact iff_of_true (by decide) hTest
  · exact iff_of_false (fun h => h rfl) hTest

/-- The counters after an update are those of its test. -/
theorem ins_update {ekf : QuaternionEkf ℚ} (sound : Sound ekf) (on : ekf.ins.initialized ≠ 0)
    (g a : Axes ℚ) :
    (ekf.update dsp math g a).ins.errorCount =
        (chiSquareTest (tested dsp math ekf g a).1).1.errorCount ∧
      (ekf.update dsp math g a).ins.convergeFlag =
        (chiSquareTest (tested dsp math ekf g a).1).1.convergeFlag ∧
      (ekf.update dsp math g a).ins.adaptiveGainScale =
        (chiSquareTest (tested dsp math ekf g a).1).1.adaptiveGainScale ∧
      (ekf.update dsp math g a).ins.stableFlag = (tested dsp math ekf g a).1.stableFlag := by
  have hStable : (chiSquareTest (tested dsp math ekf g a).1).1.stableFlag =
      (tested dsp math ekf g a).1.stableFlag :=
    (congrArg QekfIns.stableFlag (settled_chiSquareTest (tested dsp math ekf g a).1) :)
  rw [update_eq dsp math sound on]
  exact ⟨rfl, rfl, rfl, hStable⟩

/-- What the calls keep. -/
structure Guarded (ekf : QuaternionEkf ℚ) : Prop where
  sound : Sound ekf
  gated : Gated ekf.ins
  armed : Armed ekf.ins

theorem gated_of_eq {ins next : QekfIns ℚ} (gated : Gated ins)
    (errors : next.errorCount = ins.errorCount) (converge : next.convergeFlag = ins.convergeFlag)
    (scale : next.adaptiveGainScale = ins.adaptiveGainScale) : Gated next where
  errors := errors ▸ gated.errors
  converged h := errors ▸ gated.converged (converge ▸ h)
  scale := scale ▸ gated.scale

theorem gated_tested {ekf : QuaternionEkf ℚ} (gated : Gated ekf.ins) (g a : Axes ℚ) :
    Gated (tested dsp math ekf g a).1 := by
  obtain ⟨_, hConverge, hErrors, hScale⟩ := ins_tested dsp math ekf g a
  exact gated_of_eq gated hErrors hConverge hScale

theorem guarded_update {ekf : QuaternionEkf ℚ} (guarded : Guarded ekf) (g a : Axes ℚ) :
    Guarded (ekf.update dsp math g a) := by
  have hThreshold : (ekf.update dsp math g a).ins.chiSquareTestThreshold =
      ekf.ins.chiSquareTestThreshold :=
    (congrArg QekfIns.chiSquareTestThreshold (settled_runFilter dsp math (prepare math ekf g a)) :)
  have hInitialized : (ekf.update dsp math g a).ins.initialized = ekf.ins.initialized :=
    (congrArg QekfIns.initialized (settled_runFilter dsp math (prepare math ekf g a)) :)
  refine ⟨sound_call dsp math guarded.sound (.update g a), ?_, fun on => ?_⟩
  · by_cases hOn : ekf.ins.initialized ≠ 0
    · obtain ⟨hErrors, hConverge, hScale, _⟩ := ins_update dsp math guarded.sound hOn g a
      have hPositive : 0 < (tested dsp math ekf g a).1.chiSquareTestThreshold := guarded.armed hOn
      exact gated_of_eq (gated_chiSquareTest (gated_tested dsp math guarded.gated g a) hPositive)
        hErrors hConverge hScale
    · have hRun : (runFilter dsp math (prepare math ekf g a)).ins = (prepare math ekf g a).ins := by
        have hOff : ¬ (prepare math ekf g a).ins.initialized ≠ 0 := hOn
        simp only [runFilter, if_neg hOff, KalmanFilter.updateHooked_none]
      exact gated_of_eq guarded.gated (congrArg QekfIns.errorCount hRun :)
        (congrArg QekfIns.convergeFlag hRun :) (congrArg QekfIns.adaptiveGainScale hRun :)
  · rw [hThreshold]
    exact guarded.armed (hInitialized ▸ on)

theorem gated_started {ins : QekfIns ℚ} (errors : ins.errorCount = 0)
    (scale : ins.adaptiveGainScale = 1) : Gated ins where
  errors := by rw [errors]; decide
  converged _ := by rw [errors]; decide
  scale := by rw [scale]; exact ⟨zero_le_one, le_rfl⟩

theorem guarded_call {ekf : QuaternionEkf ℚ} (guarded : Guarded ekf) (call : EkfCall ℚ) :
    Guarded (ekf.call dsp math call) := by
  have hSound := sound_call dsp math guarded.sound call
  cases call with
  | init params =>
      exact ⟨hSound, gated_started rfl rfl, fun _ => show (0 : ℚ) < 1 / 10 ^ 8 by norm_num⟩
  | reset => exact ⟨hSound, gated_started rfl rfl, guarded.armed⟩
  | update g a => exact guarded_update dsp math guarded g a

theorem guarded_constructed : Guarded (constructed : QuaternionEkf ℚ) where
  sound := sound_constructed
  gated := ⟨Nat.zero_le _, fun h => absurd rfl h, le_rfl, zero_le_one⟩
  armed on := absurd rfl on

/-- A measurement that the filter rejects while the device is at rest. -/
def RejectedAtRest (ekf : QuaternionEkf ℚ) (call : EkfCall ℚ) : Prop :=
  (∃ g a, call = .update g a) ∧ ekf.ins.initialized ≠ 0 ∧ Rejected (ekf.call dsp math call) ∧
    (ekf.call dsp math call).ins.stableFlag ≠ 0

theorem errorCount_of_rejectedAtRest {ekf : QuaternionEkf ℚ} (guarded : Guarded ekf)
    {call : EkfCall ℚ} (rejected : RejectedAtRest dsp math ekf call) :
    (ekf.call dsp math call).ins.errorCount.toNat = ekf.ins.errorCount.toNat + 1 ∧
      (ekf.call dsp math call).ins.errorCount.toNat ≤ 50 := by
  obtain ⟨⟨g, a, rfl⟩, hOn, hRejected, hRest⟩ := rejected
  obtain ⟨hErrors, _, _, hStable⟩ := ins_update dsp math guarded.sound hOn g a
  have hTest := (rejected_iff dsp math guarded.sound hOn g a).mp hRejected
  have hCount := errorCount_of_rejected (gated_tested dsp math guarded.gated g a) hTest
    (ne_of_eq_of_ne hStable.symm hRest)
  rw [← hErrors] at hCount
  exact hCount

/-- The count leaves room for the rejections to come. -/
theorem rejections_le {ekf : QuaternionEkf ℚ} (guarded : Guarded ekf) (window : List (EkfCall ℚ))
    (rejected : Run.Along (call dsp math) (RejectedAtRest dsp math) ekf window) :
    window.length ≤ 50 - ekf.ins.errorCount.toNat := by
  induction window generalizing ekf with
  | nil => exact Nat.zero_le _
  | cons first rest ih =>
      obtain ⟨hFirst, hRest⟩ := rejected
      obtain ⟨hCount, hBound⟩ := errorCount_of_rejectedAtRest dsp math guarded hFirst
      have hLater := ih (guarded_call dsp math guarded first) hRest
      rw [List.length_cons]
      omega

/-- The state and its covariance are the predicted ones. -/
structure PredictionKept (next : QuaternionEkf ℚ) : Prop where
  state : ∀ i < 6, next.kf.filteredValue i = next.kf.xhatminus.data i
  covariance : next.kf.p.data.matrix 6 6 = next.kf.pminus.data.matrix 6 6 +
    Matrix.diagonal (KalmanFilter.raised 6 next.kf.pminus.data next.kf.stateMinVariance)

theorem raised_copy (dst src stateMinVariance : Buffer ℚ) :
    KalmanFilter.raised 6 (dst.copy src 36) stateMinVariance =
      KalmanFilter.raised 6 src stateMinVariance := by
  funext i
  have hEntry : dst.copy src 36 (i * 6 + i) = src (i * 6 + i) := if_pos (Buffer.index_lt i i)
  rw [KalmanFilter.raised, KalmanFilter.raised, hEntry]

theorem predictionKept_of_rejected {ekf : QuaternionEkf ℚ} (sound : Sound ekf)
    (on : ekf.ins.initialized ≠ 0) {g a : Axes ℚ} (rejected : Rejected (ekf.update dsp math g a)) :
    PredictionKept (ekf.update dsp math g a) := by
  have hTest := (rejected_iff dsp math sound on g a).mp rejected
  have hCorrected : corrected dsp math ekf g a = keepPrediction (tested dsp math ekf g a).2 :=
    if_pos hTest
  have hSkips : (keepPrediction (tested dsp math ekf g a).2).skipEq5 ≠ 0 :=
    show (1 : UInt8) ≠ 0 by decide
  have hKept : ((corrected dsp math ekf g a).pUpdate dsp).1 =
      keepPrediction (tested dsp math ekf g a).2 := by
    rw [hCorrected, KalmanFilter.pUpdate, if_pos hSkips]
  rw [update_eq dsp math sound on, hKept]
  generalize (tested dsp math ekf g a).2 = kf
  refine ⟨fun i hi => ?_, ?_⟩
  · exact (if_pos hi).trans (if_pos hi)
  · refine (KalmanFilter.matrix_floorVariance 6 _ _).trans ?_
    exact congrArg₂ (· + ·) (Buffer.matrix_copy kf.p.data kf.pminus.data 6 6)
      (congrArg Matrix.diagonal (raised_copy kf.p.data kf.pminus.data kf.stateMinVariance))

/-- In every run of calls the gain is scaled by a factor between zero and one, a rejected
measurement leaves the prediction as it is, and at rest no more than fifty measurements in
a row are rejected. -/
theorem rejections_bounded (calls : List (EkfCall ℚ)) :
    Run.Always (call dsp math)
        (fun ekf => (0 ≤ ekf.ins.adaptiveGainScale ∧ ekf.ins.adaptiveGainScale ≤ 1) ∧
          ekf.ins.errorCount.toNat ≤ 51) constructed calls ∧
      Run.Along (call dsp math)
        (fun ekf call => ∀ g a, call = .update g a → ekf.ins.initialized ≠ 0 →
          Rejected (ekf.update dsp math g a) → PredictionKept (ekf.update dsp math g a))
        constructed calls ∧
      ∀ before window, before ++ window = calls →
        Run.Along (call dsp math) (RejectedAtRest dsp math)
          (before.foldl (call dsp math) constructed) window → window.length ≤ 50 := by
  have hKept : ∀ ekf calling, Guarded ekf → True → Guarded (call dsp math ekf calling) :=
    fun _ calling guarded _ => guarded_call dsp math guarded calling
  refine ⟨?_, ?_, fun before window _ hRejected => ?_⟩
  · exact Run.always_of_along hKept (fun ekf guarded => ⟨guarded.gated.scale, guarded.gated.errors⟩)
      guarded_constructed (Run.along_trivial _ calls)
  · refine Run.along_of_invariant hKept (fun ekf calling guarded _ g a _ hOn hRejected => ?_)
      guarded_constructed (Run.along_trivial _ calls)
    exact predictionKept_of_rejected dsp math guarded.sound hOn hRejected
  · have hCall : ∀ ekf calling, Guarded ekf → Guarded (call dsp math ekf calling) :=
      fun _ calling guarded => guarded_call dsp math guarded calling
    have hGuarded := Run.foldl_invariant hCall guarded_constructed before
    exact (rejections_le dsp math hGuarded window hRejected).trans (Nat.sub_le _ _)

end RmTest.Algorithms.QuaternionEkf

import Mathlib.Algebra.BigOperators.Fin
import RmTest.Verification.AttitudeGate

/-! What a measurement of the acceleration can do to the attitude filter: the last component
of the attitude is the one that the rates predict, and the bias of a converged filter moves
slowly. -/
namespace RmTest.Algorithms.QuaternionEkf

open FloatModel Kf

variable {dsp : RiscvDsp ℚ} (math : AttitudeMath ℚ)

theorem abs_limitBias_le (dt correction : ℚ) : |limitBias dt correction| ≤ |dt| / 100 := by
  have hAbs : |dt| = |1 / 100 * dt| * 100 := by
    rw [abs_mul, abs_of_pos (by norm_num : (0 : ℚ) < 1 / 100)]
    ring
  have hNeg : -(1 / 100 : ℚ) * dt = -(1 / 100 * dt) := by ring
  rw [hAbs, mul_div_assoc, div_self (by norm_num), mul_one]
  simp only [limitBias, lit_rat, lt_rat, decide_eq_true_eq, hNeg]
  generalize (1 / 100 : ℚ) * dt = limit
  split_ifs with hHigh hLow hLow
  · rw [abs_neg]
  · exact le_rfl
  · rw [abs_neg]
  · exact abs_le.mpr ⟨by linarith [neg_abs_le limit, le_abs_self limit],
      by linarith [le_abs_self limit]⟩

theorem entry_add (exact : dsp.Exact) {rows : Nat} {a b out : Mat ℚ} (ha : a.size = (rows, 1))
    (hb : b.size = (rows, 1)) (fits : out.size = (rows, 1)) (i : Fin rows) :
    (add dsp a b out).1.data i = a.data i + b.data i := by
  have hRows : a.numRows = rows := congrArg Prod.fst ha
  have hCols : a.numCols = 1 := congrArg Prod.snd ha
  have hSum := congrFun (congrFun (exact.add a.data b.data out.data rows 1) i) 0
  rw [data_add dsp (ha.trans hb.symm) (fits.trans ha.symm), hRows, hCols]
  simpa [Buffer.matrix, Matrix.add_apply] using hSum

theorem entry_sub (exact : dsp.Exact) {rows : Nat} {a b out : Mat ℚ} (ha : a.size = (rows, 1))
    (hb : b.size = (rows, 1)) (fits : out.size = (rows, 1)) (i : Fin rows) :
    (sub dsp a b out).1.data i = a.data i - b.data i := by
  have hRows : a.numRows = rows := congrArg Prod.fst ha
  have hCols : a.numCols = 1 := congrArg Prod.snd ha
  have hDifference := congrFun (congrFun (exact.sub a.data b.data out.data rows 1) i) 0
  have hData : (sub dsp a b out).1.data = dsp.sub a.data b.data out.data a.numRows a.numCols :=
    congrArg (Mat.data ∘ Prod.fst)
      (entrywise_of_fits dsp.sub (ha.trans hb.symm) (fits.trans ha.symm))
  rw [hData, hRows, hCols]
  simpa [Buffer.matrix, Matrix.sub_apply] using hDifference

theorem entry_mul (exact : dsp.Exact) {rows inner : Nat} {a b out : Mat ℚ}
    (ha : a.size = (rows, inner)) (hb : b.size = (inner, 1)) (fits : out.size = (rows, 1))
    (i : Fin rows) :
    (mul dsp a b out).1.data i = ∑ j : Fin inner, a.data (i * inner + j) * b.data j := by
  have hRows : a.numRows = rows := congrArg Prod.fst ha
  have hInner : a.numCols = inner := congrArg Prod.snd ha
  have hInnerB : b.numRows = inner := congrArg Prod.fst hb
  have hCols : b.numCols = 1 := congrArg Prod.snd hb
  have hProduct := congrFun (congrFun (exact.mul a.data b.data out.data rows inner 1) i) 0
  rw [data_mul dsp (hInner.trans hInnerB.symm) (by rw [hRows, hCols]; exact fits), hRows, hInner,
    hCols]
  rw [Matrix.mul_apply] at hProduct
  simpa [Buffer.matrix] using hProduct

/-- The corrected state is the predicted one with the limited correction, which is nothing
without a residual. -/
theorem xhat_addCorrection (exact : dsp.Exact) (ins : QekfIns ℚ) {kf : KalmanFilter ℚ}
    (sizes : kf.sizes = (KalmanFilter.constructed 6 0 3 : KalmanFilter ℚ).sizes)
    (residual : kf.tempVector1.size = (3, 1)) :
    ∃ v, (∀ i : Fin 6, (addCorrection dsp ins kf).xhat.data i =
        kf.xhatminus.data i + limitCorrection ins v i) ∧
      ((∀ j : Fin 3, kf.tempVector1.data j = 0) → ∀ i : Fin 6, v i = 0) := by
  have hMinus : kf.xhatminus.size = (6, 1) := congrArg Sizes.xhatminus sizes
  have hXhat : kf.xhat.size = (6, 1) := congrArg Sizes.xhat sizes
  have hGain : kf.k.size = (6, 3) := congrArg Sizes.k sizes
  have hRows : kf.k.numRows = 6 := congrArg Prod.fst hGain
  have hResized : (kf.tempVector.resize kf.k.numRows 1).size = (6, 1) := by
    rw [Mat.size_resize, hRows]
  refine ⟨(mul dsp kf.k kf.tempVector1 (kf.tempVector.resize kf.k.numRows 1)).1.data,
    fun i => ?_, fun zero i => ?_⟩
  · have hCorrection : ({ (mul dsp kf.k kf.tempVector1
        (kf.tempVector.resize kf.k.numRows 1)).1 with
        data := limitCorrection ins
          (mul dsp kf.k kf.tempVector1 (kf.tempVector.resize kf.k.numRows 1)).1.data } :
        Mat ℚ).size = (6, 1) := by
      rw [size_scaled, size_mul, hResized]
    exact entry_add exact hMinus hCorrection hXhat i
  · rw [entry_mul exact hGain residual hResized i]
    exact Finset.sum_eq_zero fun j _ => by rw [zero j, mul_zero]

/-- Row `i` of `F` only carries the state on. -/
def Carries (f : Buffer ℚ) (i : Fin 6) : Prop := ∀ j : Fin 6, f (i * 6 + j) = if i = j then 1 else 0

theorem carries_prepare (ekf : QuaternionEkf ℚ) (g a : Axes ℚ) :
    Carries (prepare math ekf g a).kf.f.data 4 ∧ Carries (prepare math ekf g a).kf.f.data 5 := by
  constructor
  · intro j
    fin_cases j <;> rfl
  · intro j
    fin_cases j <;> rfl

/-- The state that the rates carry over, before it is scaled. -/
def carried (dsp : RiscvDsp ℚ) (ekf : QuaternionEkf ℚ) : Buffer ℚ :=
  (mul dsp ekf.kf.f ekf.kf.xhat ekf.kf.xhatminus).1.data

theorem carried_apply (exact : dsp.Exact) {ekf : QuaternionEkf ℚ} (sound : Sound ekf) (i : Fin 6) :
    carried dsp ekf i = ∑ j : Fin 6, ekf.kf.f.data (i * 6 + j) * ekf.kf.xhat.data j :=
  entry_mul exact (congrArg Sizes.f sound.sizes) (congrArg Sizes.xhat sound.sizes)
    (congrArg Sizes.xhatminus sound.sizes) i

/-- The prediction scales the attitude and leaves the rest alone. -/
theorem xhatminus_predicted {ekf : QuaternionEkf ℚ} (sound : Sound ekf) :
    (predicted dsp math ekf).2.xhatminus.data = fun i =>
      if i < 4 then
        carried dsp ekf i *
          math.invSqrt (carried dsp ekf 0 * carried dsp ekf 0 +
            carried dsp ekf 1 * carried dsp ekf 1 + carried dsp ekf 2 * carried dsp ekf 2 +
            carried dsp ekf 3 * carried dsp ekf 3)
      else carried dsp ekf i := by
  have hCarried : ((ekf.kf.measure 0 3).xhatMinusUpdate dsp 6 0).1.xhatminus =
      (mul dsp ekf.kf.f ekf.kf.xhat ekf.kf.xhatminus).1 := by
    have hUsed : ¬ (ekf.kf.measure 0 3).skipEq1 ≠ 0 := not_not.mpr sound.ready.carries
    rw [KalmanFilter.xhatMinusUpdate, if_neg hUsed]
    rfl
  have hKept (kf : KalmanFilter ℚ) : (kf.pminusUpdate dsp).1.xhatminus = kf.xhatminus := by
    unfold KalmanFilter.pminusUpdate
    split_ifs <;> simp [KalmanFilter.setStatus]
  rw [predicted_eq, setHCb]
  dsimp only
  rw [hKept]
  simp only [fLinearizationPFadingCb, observeCb, hCarried]
  rfl

/-- The prediction leaves such a state alone. -/
theorem xhatminus_predicted_bias (exact : dsp.Exact) {ekf : QuaternionEkf ℚ} (sound : Sound ekf)
    {i : Fin 6} (bias : ¬ i.val < 4) (carries : Carries ekf.kf.f.data i) :
    (predicted dsp math ekf).2.xhatminus.data i = ekf.kf.xhat.data i := by
  rw [xhatminus_predicted math sound]
  dsimp only
  rw [if_neg bias, carried_apply exact sound]
  calc ∑ j : Fin 6, ekf.kf.f.data (i * 6 + j) * ekf.kf.xhat.data j
    _ = ∑ j : Fin 6, (if i = j then 1 else 0) * ekf.kf.xhat.data j :=
        Finset.sum_congr rfl fun j _ => by rw [← carries j]
    _ = ekf.kf.xhat.data i := by simp

theorem xhatminus_setScaledGain (ins : QekfIns ℚ) (kf : KalmanFilter ℚ) :
    (setScaledGain dsp ins kf).xhatminus = kf.xhatminus := by
  simp [setScaledGain, KalmanFilter.setStatus]

theorem tempVector1_setScaledGain (dsp : RiscvDsp ℚ) (ins : QekfIns ℚ) (kf : KalmanFilter ℚ) :
    (setScaledGain dsp ins kf).tempVector1 = kf.tempVector1 := by
  simp [setScaledGain, KalmanFilter.setStatus]

/-- The residual, which the weights leave alone. -/
theorem tempVector1_testStatistic (s : QekfIns ℚ × KalmanFilter ℚ) :
    (testStatistic dsp math s).2.tempVector1 =
      (setResidual dsp (invertSum dsp s.2)).tempVector1 := by
  have hWeighed (kf : KalmanFilter ℚ) : (weigh dsp kf).tempVector1 = kf.tempVector1 := by
    simp [weigh, KalmanFilter.setStatus]
  have hStatus (kf : KalmanFilter ℚ) (status : Status) :
      (kf.setStatus status).tempVector1 = kf.tempVector1 := rfl
  rw [testStatistic, hStatus, hWeighed]

theorem size_tempVector1_testStatistic (s : QekfIns ℚ × KalmanFilter ℚ) :
    (testStatistic dsp math s).2.tempVector1.size = (s.2.sizes.z.1, 1) := by
  have hRows : (invertSum dsp s.2).z.numRows = s.2.z.numRows :=
    congrArg (fun sizes => sizes.z.1) (sizes_invertSum dsp s.2)
  rw [tempVector1_testStatistic]
  simp [setResidual, KalmanFilter.setStatus, hRows, KalmanFilter.sizes, Mat.size]

theorem xhatminus_addCorrection (ins : QekfIns ℚ) (kf : KalmanFilter ℚ) :
    (addCorrection dsp ins kf).xhatminus = kf.xhatminus := by
  simp [addCorrection, KalmanFilter.setStatus]

/-- Whatever the test decides, the state moves from the predicted one by a limited
correction. -/
theorem xhat_corrected (exact : dsp.Exact) {ekf : QuaternionEkf ℚ} (sound : Sound ekf)
    (g a : Axes ℚ) :
    (corrected dsp math ekf g a).xhatminus = (tested dsp math ekf g a).2.xhatminus ∧
      ((∀ i < 6, (corrected dsp math ekf g a).xhat.data i =
          (tested dsp math ekf g a).2.xhatminus.data i) ∨
        ∃ v, (∀ i : Fin 6, (corrected dsp math ekf g a).xhat.data i =
            (tested dsp math ekf g a).2.xhatminus.data i +
              limitCorrection (chiSquareTest (tested dsp math ekf g a).1).1 v i) ∧
          ((∀ j : Fin 3, (tested dsp math ekf g a).2.tempVector1.data j = 0) →
            ∀ i : Fin 6, v i = 0)) := by
  have hSizes : (tested dsp math ekf g a).2.sizes =
      (KalmanFilter.constructed 6 0 3 : KalmanFilter ℚ).sizes := by
    rw [tested, sizes_testStatistic, sizes_predicted]
    exact (sound_prepare math sound g a).sizes
  have hResidual : (tested dsp math ekf g a).2.tempVector1.size = (3, 1) := by
    rw [tested, size_tempVector1_testStatistic, sizes_predicted]
    exact congrArg (fun sizes => (sizes.z.1, 1)) (sound_prepare math sound g a).sizes
  rw [corrected]
  generalize tested dsp math ekf g a = t at hSizes hResidual ⊢
  split_ifs
  · exact ⟨rfl, .inl fun i hi => if_pos hi⟩
  · refine ⟨?_, .inr ?_⟩
    · rw [correctState, xhatminus_addCorrection, xhatminus_setScaledGain]
    · have hScaled : (setScaledGain dsp (chiSquareTest t.1).1 { t.2 with skipEq5 := 0 }).sizes =
          (KalmanFilter.constructed 6 0 3 : KalmanFilter ℚ).sizes :=
        (sizes_setScaledGain dsp _ _).trans hSizes
      have hKept := tempVector1_setScaledGain dsp (chiSquareTest t.1).1
        { t.2 with skipEq5 := 0 }
      obtain ⟨v, hSum, hNothing⟩ := xhat_addCorrection exact (chiSquareTest t.1).1 hScaled
        (by rw [hKept]; exact hResidual)
      refine ⟨v, fun i => ?_, fun zero => hNothing (by rw [hKept]; exact zero)⟩
      rw [correctState, hSum i, xhatminus_setScaledGain]

theorem xhat_pUpdate (kf : KalmanFilter ℚ) :
    (kf.pUpdate dsp).1.xhat = kf.xhat ∧ (kf.pUpdate dsp).1.xhatminus = kf.xhatminus := by
  unfold KalmanFilter.pUpdate
  split_ifs <;> simp [KalmanFilter.setStatus]

/-- The results of an update, from the state of its filter. -/
theorem result_update {ekf : QuaternionEkf ℚ} (sound : Sound ekf) (on : ekf.ins.initialized ≠ 0)
    (g a : Axes ℚ) :
    (ekf.update dsp math g a).kf.xhatminus = (corrected dsp math ekf g a).xhatminus ∧
      (ekf.update dsp math g a).ins.q.q3 = (corrected dsp math ekf g a).xhat.data 3 ∧
      (ekf.update dsp math g a).ins.gyroBias =
        ⟨(corrected dsp math ekf g a).xhat.data 4, (corrected dsp math ekf g a).xhat.data 5,
          0⟩ := by
  obtain ⟨hXhat, hMinus⟩ := xhat_pUpdate (corrected dsp math ekf g a)
  rw [update_eq dsp math sound on, ← hXhat]
  exact ⟨hMinus, rfl, rfl⟩

/-- The bias that is subtracted from the rates is the one of the filter, once there was an
update. -/
structure Reported (ekf : QuaternionEkf ℚ) : Prop where
  x : ekf.ins.updateCount ≠ 0 → ekf.ins.gyroBias.x = ekf.kf.xhat.data 4
  y : ekf.ins.updateCount ≠ 0 → ekf.ins.gyroBias.y = ekf.kf.xhat.data 5

theorem finished_runFilter (dsp : RiscvDsp ℚ) (ekf : QuaternionEkf ℚ) :
    ∃ kf : KalmanFilter ℚ, (runFilter dsp math ekf).kf = kf.finish 6 := by
  by_cases hOn : ekf.ins.initialized ≠ 0
  · simp only [runFilter, if_pos hOn]
    exact ⟨_, rfl⟩
  · simp only [runFilter, if_neg hOn, KalmanFilter.updateHooked_none]
    exact ⟨_, rfl⟩

theorem reported_update (ekf : QuaternionEkf ℚ) (g a : Axes ℚ) :
    Reported (ekf.update dsp math g a) := by
  obtain ⟨kf, hKf⟩ := finished_runFilter math dsp (prepare math ekf g a)
  rw [update, takeResult, hKf]
  exact ⟨fun _ => rfl, fun _ => rfl⟩

theorem xhatminus_testStatistic (s : QekfIns ℚ × KalmanFilter ℚ) :
    (testStatistic dsp math s).2.xhatminus = s.2.xhatminus := by
  have hSummed : (invertSum dsp s.2).xhatminus = s.2.xhatminus := by
    simp [invertSum, KalmanFilter.setS, KalmanFilter.setStatus]
  have hWeighed (kf : KalmanFilter ℚ) :
      (weigh dsp (setResidual dsp kf)).xhatminus = kf.xhatminus := by
    simp [weigh, setResidual, KalmanFilter.setStatus]
  have hStatus (kf : KalmanFilter ℚ) (status : Status) :
      (kf.setStatus status).xhatminus = kf.xhatminus := rfl
  rw [testStatistic, hStatus, hWeighed, hSummed]

/-- What an update does with the acceleration: the last component of the attitude is as
predicted, and of a converged filter no bias moves by more than a hundredth of the step. -/
structure Limited (ekf next : QuaternionEkf ℚ) : Prop where
  yaw : next.ins.q.q3 = next.kf.xhatminus.data 3
  biasX : next.ins.convergeFlag ≠ 0 → ekf.ins.updateCount ≠ 0 →
    |next.ins.gyroBias.x - ekf.ins.gyroBias.x| ≤ |ekf.ins.dt| / 100
  biasY : next.ins.convergeFlag ≠ 0 → ekf.ins.updateCount ≠ 0 →
    |next.ins.gyroBias.y - ekf.ins.gyroBias.y| ≤ |ekf.ins.dt| / 100

/-- The distance from the prediction of what is added to a bias. -/
theorem abs_move_le {value predicted dt : ℚ} (correction : ℚ)
    (moved : value = predicted ∨ value = predicted + limitBias dt correction) :
    |value - predicted| ≤ |dt| / 100 := by
  rcases moved with rfl | rfl
  · rw [sub_self, abs_zero]
    positivity
  · rw [add_sub_cancel_left]
    exact abs_limitBias_le dt correction

theorem limited_update (exact : dsp.Exact) {ekf : QuaternionEkf ℚ} (sound : Sound ekf)
    (reported : Reported ekf) (on : ekf.ins.initialized ≠ 0) (g a : Axes ℚ) :
    Limited ekf (ekf.update dsp math g a) := by
  have hPrepared := sound_prepare math sound g a
  obtain ⟨hCarries4, hCarries5⟩ := carries_prepare math ekf g a
  obtain ⟨hMinus, hState⟩ := xhat_corrected math exact sound g a
  obtain ⟨hNextMinus, hYaw, hBias⟩ := result_update math sound on g a
  obtain ⟨_, hConverge, _, _⟩ := ins_update dsp math sound on g a
  have hTested : (tested dsp math ekf g a).2.xhatminus =
      (predicted dsp math (prepare math ekf g a)).2.xhatminus := xhatminus_testStatistic math _
  have hBias4 : (tested dsp math ekf g a).2.xhatminus.data 4 = ekf.kf.xhat.data 4 := by
    rw [hTested]
    exact xhatminus_predicted_bias math exact hPrepared (i := 4) (by decide) hCarries4
  have hBias5 : (tested dsp math ekf g a).2.xhatminus.data 5 = ekf.kf.xhat.data 5 := by
    rw [hTested]
    exact xhatminus_predicted_bias math exact hPrepared (i := 5) (by decide) hCarries5
  have hDt : (chiSquareTest (tested dsp math ekf g a).1).1.dt = ekf.ins.dt :=
    (congrArg QekfIns.dt (settled_chiSquareTest (tested dsp math ekf g a).1) :)
  refine ⟨?_, fun hConverged hLater => ?_, fun hConverged hLater => ?_⟩
  · rw [hYaw, hNextMinus, hMinus]
    rcases hState with hKept | ⟨v, hMoved, -⟩
    · exact hKept 3 (by decide)
    · exact (hMoved 3).trans (add_zero _)
  · rw [hBias, reported.x hLater, ← hBias4, ← hDt]
    rcases hState with hKept | ⟨v, hMoved, -⟩
    · exact abs_move_le 0 (.inl (hKept 4 (by decide)))
    · refine abs_move_le (v 4) (.inr ((hMoved 4).trans (congrArg _ ?_)))
      exact if_pos ⟨.inl rfl, hConverge ▸ hConverged⟩
  · rw [hBias, reported.y hLater, ← hBias5, ← hDt]
    rcases hState with hKept | ⟨v, hMoved, -⟩
    · exact abs_move_le 0 (.inl (hKept 5 (by decide)))
    · refine abs_move_le (v 5) (.inr ((hMoved 5).trans (congrArg _ ?_)))
      exact if_pos ⟨.inr rfl, hConverge ▸ hConverged⟩

theorem reported_call {ekf : QuaternionEkf ℚ} (call : EkfCall ℚ) :
    Reported (ekf.call dsp math call) := by
  cases call with
  | init params => exact ⟨fun h => absurd rfl h, fun h => absurd rfl h⟩
  | reset => exact ⟨fun h => absurd rfl h, fun h => absurd rfl h⟩
  | update g a => exact reported_update math ekf g a

/-- In every run of calls, no acceleration changes the last component of the attitude, or
moves the bias of a converged filter faster than the limit. -/
theorem correction_limited (exact : dsp.Exact) (calls : List (EkfCall ℚ)) :
    Run.Along (call dsp math)
      (fun ekf call => ∀ g a, call = .update g a → ekf.ins.initialized ≠ 0 →
        Limited ekf (ekf.update dsp math g a)) constructed calls := by
  have hStart : Sound (constructed : QuaternionEkf ℚ) ∧ Reported (constructed : QuaternionEkf ℚ) :=
    ⟨sound_constructed, fun h => absurd rfl h, fun h => absurd rfl h⟩
  have hKept : ∀ ekf calling, Sound ekf ∧ Reported ekf → True →
      Sound (call dsp math ekf calling) ∧ Reported (call dsp math ekf calling) :=
    fun _ calling h _ => ⟨sound_call dsp math h.1 calling, reported_call math calling⟩
  refine Run.along_of_invariant hKept (fun ekf calling h _ g a _ hOn => ?_) hStart
    (Run.along_trivial _ calls)
  exact limited_update math exact h.1 h.2 hOn g a

theorem correction_limited_plain :
    Run.Along (call exactDsp flatMath)
      (fun ekf call => ∀ g a, call = .update g a → ekf.ins.initialized ≠ 0 →
        Limited ekf (ekf.update exactDsp flatMath g a)) constructed
      [.init plainParams, .update ⟨0, 0, 0⟩ ⟨0, 0, 1⟩, .update ⟨1, 0, 0⟩ ⟨0, 1, 0⟩] :=
  correction_limited flatMath exact_exactDsp _

end RmTest.Algorithms.QuaternionEkf

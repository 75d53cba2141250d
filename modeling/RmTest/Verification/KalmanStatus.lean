import RmTest.Verification.KalmanPhases

/-! The status that the filter keeps of its matrix operations, against the statuses that
they return. -/
namespace RmTest.Algorithms

namespace KalmanFilter

open Kf

variable {F : Type} (dsp : RiscvDsp F) {kf : KalmanFilter F}

theorem matStatus_pminusUpdate (used : kf.skipEq2 = 0) :
    (kf.pminusUpdate dsp).1.matStatus = 0 ↔ kf.sizes.AddNoise := by
  simp [pminusUpdate, used, setStatus, toInt8_add, sizes, Sizes.AddNoise, Mat.size]
  tauto

theorem matStatus_pUpdate (used : kf.skipEq5 = 0) :
    (kf.pUpdate dsp).1.matStatus = 0 ↔ kf.sizes.Subtract := by
  simp [pUpdate, used, setStatus, toInt8_sub, sizes, Sizes.Subtract, Mat.size]

/-- What `PminusUpdate_` writes to `pminus` and to `temp_matrix`. -/
def spreadBuffers (kf : KalmanFilter F) : Buffer F × Buffer F :=
  let ft := dsp.trans kf.f.data kf.ft.data kf.f.numRows kf.f.numCols
  let fp := dsp.mul kf.f.data kf.p.data kf.pminus.data kf.f.numRows kf.f.numCols kf.p.numCols
  let carried := dsp.mul fp ft kf.tempMatrix.data kf.pminus.numRows kf.pminus.numCols kf.ft.numCols
  (dsp.add carried kf.q.data fp kf.pminus.numRows kf.ft.numCols, carried)

theorem pminusUpdate_buffers (used : kf.skipEq2 = 0)
    (fits : kf.sizes.CarryCovariance ∧ kf.sizes.AddNoise) :
    ((kf.pminusUpdate dsp).1.pminus.data, (kf.pminusUpdate dsp).1.tempMatrix.data) =
      kf.spreadBuffers dsp := by
  simp only [Sizes.CarryCovariance, Sizes.AddNoise, sizes, Mat.size, Prod.mk.injEq] at fits
  obtain ⟨⟨⟨hFtRows, hFtCols⟩, hInner, ⟨hRows, hCols⟩, hMid⟩, ⟨hQRows, hQCols⟩, hSum⟩ := fits
  rw [pminusUpdate, if_neg (not_not.mpr used)]
  simp only [setStatus, spreadBuffers]
  rw [data_add dsp (a := (mul dsp _ _ _).1) ?_ ?_, data_mul dsp (a := (mul dsp _ _ _).1) ?_ ?_,
    data_mul dsp (a := kf.f) hInner ?_, data_transpose dsp ?_]
  · simp
  · exact Prod.ext hFtRows hFtCols
  · exact Prod.ext hRows hCols
  · simpa using hMid
  · simp
  · simpa [Mat.size] using ⟨hQRows.symm, hQCols.symm⟩
  · simpa [Mat.size] using hSum

/-- What `SetK_` writes to `s` and to `temp_matrix1` before the inversion, if `pminus` and
`temp_matrix` hold these. -/
def sumBuffers (kf : KalmanFilter F) (pminus temp : Buffer F) : Buffer F × Buffer F :=
  let ht := dsp.trans kf.h.data kf.ht.data kf.h.numRows kf.h.numCols
  let hp := dsp.mul kf.h.data pminus temp kf.h.numRows kf.h.numCols kf.pminus.numCols
  let seen := dsp.mul hp ht kf.tempMatrix1.data kf.h.numRows kf.pminus.numCols kf.ht.numCols
  (dsp.add seen kf.r.data kf.s.data kf.h.numRows kf.ht.numCols, seen)

theorem setS_buffers (fits : kf.sizes.Innovate) :
    ((kf.setS dsp).1.s.data, (kf.setS dsp).1.tempMatrix1.data) =
      kf.sumBuffers dsp kf.pminus.data kf.tempMatrix.data := by
  simp only [Sizes.Innovate, sizes, Mat.size, Prod.mk.injEq] at fits
  obtain ⟨⟨hHtRows, hHtCols⟩, hInner, hMid, hRRows, hRCols⟩ := fits
  simp only [setS, setStatus, sumBuffers]
  rw [data_add dsp (a := (mul dsp _ _ _).1) ?_ ?_, data_mul dsp (a := (mul dsp _ _ _).1) ?_ ?_,
    data_mul dsp (a := kf.h) hInner ?_, data_transpose dsp ?_]
  · simp
  · exact Prod.ext hHtRows hHtCols
  · simp
  · simpa using hMid
  · simp
  · simpa [Mat.size] using ⟨hRRows.symm, hRCols.symm⟩
  · simpa [Mat.size] using ⟨hRRows, hRCols⟩

theorem sumBuffers_pminusUpdate (kf : KalmanFilter F) (pminus temp : Buffer F) :
    (kf.pminusUpdate dsp).1.sumBuffers dsp pminus temp = kf.sumBuffers dsp pminus temp := by
  unfold pminusUpdate
  split_ifs
  · rfl
  · simp [sumBuffers, setStatus]

/-- Whether the routine of the vendor inverts the sum that the matrices give. -/
def SumInverts [Zero F] (kf : KalmanFilter F) : Prop :=
  let spread := kf.spreadBuffers dsp
  let sum := kf.sumBuffers dsp spread.1 spread.2
  let elems := kf.r.numRows * kf.r.numCols
  elems ≤ kMaxElems ∧
    (dsp.inv (Buffer.copy (fun _ => 0) sum.1 elems) sum.2 kf.r.numRows).1 = kStatusOk

/-- It reads only the matrices of the covariance. -/
theorem sumInverts_congr [Zero F] {before after : KalmanFilter F}
    (same : after.matrices = before.matrices) : after.SumInverts dsp ↔ before.SumInverts dsp := by
  simp only [matrices, List.cons.injEq, and_true] at same
  obtain ⟨hP, hPminus, hF, hFt, hH, hHt, hQ, hR, -, hS, hTemp, hTemp1⟩ := same
  simp only [SumInverts, spreadBuffers, sumBuffers, hP, hPminus, hF, hFt, hH, hHt, hQ, hR,
    hS, hTemp, hTemp1]

theorem inverts_setS [Zero F] (used : kf.skipEq2 = 0)
    (carry : kf.sizes.CarryCovariance ∧ kf.sizes.AddNoise) (innovate : kf.sizes.Innovate) :
    ((kf.pminusUpdate dsp).1.setS dsp).1.Inverts dsp ↔ kf.SumInverts dsp := by
  have hSpread := pminusUpdate_buffers dsp used carry
  have hSizes := sizes_pminusUpdate dsp kf
  have hBuffers := sumBuffers_pminusUpdate dsp kf (kf.spreadBuffers dsp).1 (kf.spreadBuffers dsp).2
  generalize (kf.pminusUpdate dsp).1 = spread at *
  rw [← hSizes] at innovate
  have hSum := setS_buffers dsp innovate
  have hSize := (work_setS dsp spread).1.trans (congrArg Sizes.r hSizes)
  have hRows : (spread.setS dsp).1.s.numRows = kf.r.numRows := congrArg Prod.fst hSize
  have hCols : (spread.setS dsp).1.s.numCols = kf.r.numCols := congrArg Prod.snd hSize
  generalize (spread.setS dsp).1 = summed at *
  rw [← hSpread] at hBuffers
  rw [hBuffers, hSpread] at hSum
  rw [Inverts, SumInverts, srcCopy, hRows, hCols, ← hSum]

section Update

variable [FloatModel F] (XHAT U Z : Nat)

/-- The filter with the sum that `SetK_` inverts. -/
def summed (kf : KalmanFilter F) : KalmanFilter F := ((kf.spread dsp XHAT U Z).setS dsp).1

/-- What the sizes must be for every operation of an update but the inversion. -/
def AllFit (kf : KalmanFilter F) : Prop :=
  kf.sizes.CarryState XHAT U ∧ (kf.sizes.CarryCovariance ∧ kf.sizes.AddNoise) ∧
    (kf.takesMeasurement = true → (kf.sizes.Innovate ∧ kf.sizes.Gain) ∧ kf.sizes.CorrectState ∧
      kf.sizes.CorrectCovariance ∧ kf.sizes.Subtract)

/-- What the sizes must be for the last operation of an update. -/
def LastFits (kf : KalmanFilter F) : Prop :=
  if kf.takesMeasurement = true then kf.sizes.Subtract else kf.sizes.AddNoise

theorem inverts_summed {kf : KalmanFilter F} (noSkips : kf.NoSkips)
    (carry : kf.sizes.CarryCovariance ∧ kf.sizes.AddNoise) (innovate : kf.sizes.Innovate) :
    (kf.summed dsp XHAT U Z).Inverts dsp ↔ kf.SumInverts dsp := by
  obtain ⟨hSizes, hControl, hMatrices⟩ := kf.carried_spec dsp XHAT U Z
  obtain ⟨_, hSkip2, _⟩ := noSkips_iff.mp (noSkips_of_control hControl noSkips)
  rw [← hSizes] at carry innovate
  exact (inverts_setS dsp hSkip2 carry innovate).trans (sumInverts_congr dsp hMatrices)

/-- The second half with a measurement. -/
theorem correct_measured {kf : KalmanFilter F} (noSkips : kf.NoSkips)
    (measured : kf.takesMeasurement = true) :
    ((kf.correct dsp XHAT).1.matStatus = 0 ↔ kf.sizes.Subtract) ∧
      (AllOk (kf.correct dsp XHAT).2 ↔
        (kf.sizes.Innovate ∧ kf.sizes.Gain ∧ (kf.setS dsp).1.Inverts dsp) ∧
          kf.sizes.CorrectState ∧ kf.sizes.CorrectCovariance ∧ kf.sizes.Subtract) := by
  have hGained := noSkips_of_control (control_setK dsp kf) noSkips
  have hMoved := noSkips_of_control (control_xhatUpdate dsp (kf.setK dsp).1) hGained
  have hSizes := (sizes_xhatUpdate dsp (kf.setK dsp).1).trans (sizes_setK dsp kf)
  obtain ⟨_, _, hSkip3, _⟩ := noSkips_iff.mp noSkips
  obtain ⟨_, _, _, hSkip4, _⟩ := noSkips_iff.mp hGained
  obtain ⟨_, _, _, _, hSkip5⟩ := noSkips_iff.mp hMoved
  rw [correct_of_measured dsp XHAT measured]
  constructor
  · rw [matStatus_pUpdate dsp hSkip5, hSizes]
  · rw [allOk_append, allOk_append, allOk_setK dsp hSkip3, allOk_xhatUpdate dsp hSkip4,
      allOk_pUpdate dsp hSkip5, hSizes, sizes_setK]

/-- Without a measurement the predictions are taken over. -/
theorem correct_unmeasured {kf : KalmanFilter F} (unmeasured : kf.takesMeasurement = false) :
    (kf.correct dsp XHAT).1.matStatus = kf.matStatus ∧ (kf.correct dsp XHAT).2 = [] := by
  rw [correct, if_neg (ne_true_of_eq_false unmeasured)]
  exact ⟨rfl, rfl⟩

/-- The statuses of an update, and the one that is kept: it is the status of the last
operation, whatever came before. -/
theorem update_statuses {kf : KalmanFilter F} (noSkips : kf.NoSkips) :
    (AllOk (kf.update dsp XHAT U Z).2 ↔
        kf.AllFit XHAT U ∧ (kf.takesMeasurement = true → kf.SumInverts dsp)) ∧
      ((kf.update dsp XHAT U Z).1.matStatus = 0 ↔ kf.LastFits) := by
  have hControl := kf.control_spread dsp XHAT U Z
  have hSizes := kf.sizes_spread dsp XHAT U Z
  have hTakes : (kf.spread dsp XHAT U Z).takesMeasurement = kf.takesMeasurement :=
    congrArg Prod.fst hControl
  have hSpread := noSkips_of_control hControl noSkips
  obtain ⟨hCarriedSizes, hCarried, _⟩ := kf.carried_spec dsp XHAT U Z
  obtain ⟨hSkip1, _⟩ := noSkips_iff.mp (noSkips_of_control (control_measure U Z kf) noSkips)
  obtain ⟨_, hSkip2, _⟩ := noSkips_iff.mp (noSkips_of_control hCarried noSkips)
  rw [update_eq, (finish_spec XHAT _).1, allOk_append, allOk_append,
    allOk_xhatMinusUpdate dsp XHAT U hSkip1, allOk_pminusUpdate dsp hSkip2, sizes_measure,
    hCarriedSizes, AllFit, LastFits]
  cases hCase : kf.takesMeasurement with
  | true =>
      obtain ⟨hLast, hAll⟩ := correct_measured dsp XHAT hSpread (hTakes.trans hCase)
      rw [hLast, hAll, hSizes, if_pos rfl]
      refine ⟨?_, Iff.rfl⟩
      constructor
      · rintro ⟨hState, hCovariance, ⟨hInnovate, hGain, hInverts⟩, hRest⟩
        exact ⟨⟨hState, hCovariance, fun _ => ⟨⟨hInnovate, hGain⟩, hRest⟩⟩, fun _ =>
          (inverts_summed dsp XHAT U Z noSkips hCovariance hInnovate).mp hInverts⟩
      · rintro ⟨⟨hState, hCovariance, hMeasure⟩, hInverts⟩
        obtain ⟨⟨hInnovate, hGain⟩, hRest⟩ := hMeasure rfl
        exact ⟨hState, hCovariance, ⟨hInnovate, hGain,
          (inverts_summed dsp XHAT U Z noSkips hCovariance hInnovate).mpr (hInverts rfl)⟩, hRest⟩
  | false =>
      obtain ⟨hStatus, hNone⟩ := correct_unmeasured dsp XHAT (hTakes.trans hCase)
      have hLast := matStatus_pminusUpdate dsp hSkip2
      rw [hCarriedSizes] at hLast
      rw [hStatus, hNone, if_neg Bool.false_ne_true]
      exact ⟨by simp [AllOk], hLast⟩

/-- A failure in an update shows in the status that is kept. -/
def Reported (result : KalmanFilter F × List Status) : Prop :=
  (∃ status ∈ result.2, status ≠ kStatusOk) → result.1.matStatus ≠ 0

/-- The failures of an update are reported exactly if there are none, or if the last
operation fails. -/
theorem failures_reported_iff {kf : KalmanFilter F} (noSkips : kf.NoSkips) :
    Reported (kf.update dsp XHAT U Z) ↔
      ¬ kf.LastFits ∨
        kf.AllFit XHAT U ∧ (kf.takesMeasurement = true → kf.SumInverts dsp) := by
  obtain ⟨hAll, hLast⟩ := kf.update_statuses dsp XHAT U Z noSkips
  rw [← hAll, ← hLast, Reported]
  have hFailure : (∃ status ∈ (kf.update dsp XHAT U Z).2, status ≠ kStatusOk) ↔
      ¬ AllOk (kf.update dsp XHAT U Z).2 := by
    simp only [AllOk, not_forall, exists_prop]
  rw [hFailure, not_imp_comm]
  exact Decidable.or_iff_not_imp_left.symm

end Update

/-- One state and one measurement, with no noise and nothing measured. -/
def blindFilter : KalmanFilter ℚ := constructed 1 0 1

/-- The same with noise. -/
def noisyFilter : KalmanFilter ℚ :=
  { blindFilter with r := { blindFilter.r with data := fun _ => 1 } }

theorem failures_reported_iff_noisy : Reported (noisyFilter.update exactDsp 1 0 1) := by
  have hNoSkips : noisyFilter.NoSkips := rfl
  refine (failures_reported_iff exactDsp 1 0 1 hNoSkips).mpr (.inr ⟨?_, fun _ => ?_⟩)
  · simp [AllFit, Sizes.CarryState, Sizes.CarryCovariance, Sizes.AddNoise, Sizes.Innovate,
      Sizes.Gain, Sizes.CorrectState, Sizes.CorrectCovariance, Sizes.Subtract, sizes, noisyFilter,
      blindFilter, constructed, Mat.size, Mat.zeros]
  · exact ⟨by decide +kernel, by decide +kernel⟩

/-- The sum is zero, its inversion fails, and the filter does not say so. -/
theorem singular_not_reported : ¬ Reported (blindFilter.update exactDsp 1 0 1) := by
  have hFailure : ∃ status ∈ (blindFilter.update exactDsp 1 0 1).2, status ≠ kStatusOk :=
    ⟨-1, by decide +kernel, by decide⟩
  have hKept : (blindFilter.update exactDsp 1 0 1).1.matStatus = 0 := by decide +kernel
  exact fun hReported => hReported hFailure hKept

end KalmanFilter

end RmTest.Algorithms

import RmTest.Library.Estimation
import RmTest.Verification.KalmanCovariance
import Mathlib.LinearAlgebra.Matrix.RowCol

/-! The filter as an estimator, in exact arithmetic: what an update makes of the estimate and
of the covariance, and what that means in a world whose noises have the covariances that
the filter is given. -/
namespace RmTest.Algorithms

open Matrix FloatModel

/-- The first entries of a buffer. -/
def Buffer.vector {F : Type} (data : Buffer F) (n : Nat) : Fin n → F := fun i => data i

theorem Buffer.matrix_one {F : Type} (data : Buffer F) (n : Nat) :
    data.matrix n 1 = replicateCol (Fin 1) (data.vector n) := by
  ext i j
  rw [Buffer.matrix, Subsingleton.elim j 0]
  exact congrArg data ((Nat.add_zero _).trans (Nat.mul_one _))

theorem Buffer.vector_copy {F : Type} (dst src : Buffer F) (n : Nat) :
    (dst.copy src n).vector n = src.vector n := by
  funext i
  exact if_pos i.isLt

/-- A matrix with one column that holds `v`. -/
def Mat.HoldsVector {n : Nat} (m : Mat ℚ) (v : Fin n → ℚ) : Prop :=
  m.Holds (replicateCol (Fin 1) v)

theorem Mat.holdsVector_iff {n : Nat} (m : Mat ℚ) (v : Fin n → ℚ) :
    m.HoldsVector v ↔ m.size = (n, 1) ∧ m.data.vector n = v := by
  rw [HoldsVector, Holds, Buffer.matrix_one, replicateCol_inj]

namespace Kf

variable {dsp : RiscvDsp ℚ} (exact : dsp.Exact) {rows cols : Nat} {a b out : Mat ℚ}
  {A : Matrix (Fin rows) (Fin cols) ℚ} {v w : Fin cols → ℚ}

include exact

theorem holdsVector_mul (ha : a.Holds A) (hb : b.HoldsVector v) (fits : out.size = (rows, 1)) :
    (mul dsp a b out).1.HoldsVector (A *ᵥ v) := by
  rw [Mat.HoldsVector, replicateCol_mulVec]
  exact holds_mul exact ha hb fits

theorem holdsVector_mul_resize (work : Mat ℚ) (ha : a.Holds A) (hb : b.HoldsVector v) {r : Nat}
    (hRows : r = rows) : (mul dsp a b (work.resize r 1)).1.HoldsVector (A *ᵥ v) :=
  holdsVector_mul exact ha hb (Prod.ext hRows rfl)

theorem holdsVector_add (ha : a.HoldsVector v) (hb : b.HoldsVector w)
    (fits : out.size = (cols, 1)) : (add dsp a b out).1.HoldsVector (v + w) := by
  rw [Mat.HoldsVector, replicateCol_add]
  exact holds_add exact ha hb fits

theorem holdsVector_sub (ha : a.HoldsVector v) (hb : b.HoldsVector w)
    (fits : out.size = (cols, 1)) : (sub dsp a b out).1.HoldsVector (v - w) :=
  holds_sub exact ha hb fits

end Kf

namespace KalmanFilter

open Kf Covariance

section Estimate

variable {dsp : RiscvDsp ℚ} {XHAT U Z : Nat} {kf : KalmanFilter ℚ}

/-- The matrices that the estimate is computed with, apart from those of the covariance. -/
def vectors (kf : KalmanFilter ℚ) : List (Mat ℚ) := [kf.xhat, kf.xhatminus, kf.u, kf.z]

theorem vectors_pminusUpdate (dsp : RiscvDsp ℚ) (kf : KalmanFilter ℚ) :
    (kf.pminusUpdate dsp).1.vectors = kf.vectors := by
  unfold pminusUpdate
  split_ifs <;> simp [vectors, setStatus]

theorem vectors_setK (dsp : RiscvDsp ℚ) (kf : KalmanFilter ℚ) :
    (kf.setK dsp).1.vectors = kf.vectors := by
  unfold setK
  split_ifs
  · rfl
  · simp [vectors, setS, setGain, setStatus]

theorem xhat_pUpdate (dsp : RiscvDsp ℚ) (kf : KalmanFilter ℚ) :
    (kf.pUpdate dsp).1.xhat = kf.xhat := by
  unfold pUpdate
  split_ifs <;> simp [setStatus]

theorem z_xhatMinusUpdate (dsp : RiscvDsp ℚ) (XHAT U : Nat) (kf : KalmanFilter ℚ) :
    (kf.xhatMinusUpdate dsp XHAT U).1.z = kf.z := by
  unfold xhatMinusUpdate
  split_ifs <;> simp [setStatus]

/-- What the estimate is carried to. -/
def carriedOf (XHAT U : Nat) (kf : KalmanFilter ℚ) : Fin XHAT → ℚ :=
  kf.f.data.matrix XHAT XHAT *ᵥ kf.xhat.data.vector XHAT +
    kf.b.data.matrix XHAT U *ᵥ kf.controlVector.vector U

theorem xhatminus_xhatMinusUpdate (exact : dsp.Exact) (used : kf.skipEq1 = 0)
    {F : Matrix (Fin XHAT) (Fin XHAT) ℚ} {B : Matrix (Fin XHAT) (Fin U) ℚ} {x : Fin XHAT → ℚ}
    {u : Fin U → ℚ} (hF : kf.f.Holds F) (hx : kf.xhat.HoldsVector x)
    (hControl : U > 0 → kf.b.Holds B ∧ kf.u.HoldsVector u)
    (hXhatminus : kf.xhatminus.size = (XHAT, 1)) :
    (kf.xhatMinusUpdate dsp XHAT U).1.xhatminus.HoldsVector (F *ᵥ x + B *ᵥ u) := by
  rw [xhatMinusUpdate, if_neg (not_not.mpr used)]
  by_cases hU : U > 0
  · obtain ⟨hB, hu⟩ := hControl hU
    have hCarried := holdsVector_mul_resize exact kf.tempVector hF hx rfl
    have hControlled := holdsVector_mul_resize exact kf.tempVector1 hB hu rfl
    rw [if_pos hU]
    exact holdsVector_add exact hCarried hControlled hXhatminus
  · have hNone : B *ᵥ u = 0 := by
      obtain rfl : U = 0 := Nat.eq_zero_of_not_pos hU
      funext i
      simp [mulVec, dotProduct]
    rw [if_neg hU, hNone, add_zero]
    exact holdsVector_mul exact hF hx hXhatminus

theorem vectors_spread (exact : dsp.Exact) (valid : kf.Valid XHAT U Z) :
    (kf.spread dsp XHAT U Z).xhatminus.HoldsVector (kf.carriedOf XHAT U) ∧
      (kf.spread dsp XHAT U Z).z.HoldsVector (kf.measuredVector.vector Z) := by
  have hVectors := vectors_pminusUpdate dsp ((kf.measure U Z).xhatMinusUpdate dsp XHAT U).1
  simp only [vectors, List.cons.injEq, and_true] at hVectors
  obtain ⟨-, hXhatminus, -, hZ⟩ := hVectors
  have hMeasuredSizes := (sizes_measure U Z kf).trans valid.sizes
  have hMeasured : (kf.measure U Z).z.data = kf.z.data.copy kf.measuredVector Z ∧
      (kf.measure U Z).f = kf.f ∧ (kf.measure U Z).b = kf.b ∧ (kf.measure U Z).xhat = kf.xhat ∧
      (kf.measure U Z).skipEq1 = kf.skipEq1 ∧
      (U > 0 → (kf.measure U Z).u.data = kf.u.data.copy kf.controlVector U) := by
    unfold measure
    split_ifs with hU <;> simp [hU]
  obtain ⟨hZData, hF, hB, hXhat, hSkip, hU⟩ := hMeasured
  have hUsed := (noSkips_iff.mp valid.noSkips).1
  have hBSize : U > 0 → kf.b.size = (XHAT, U) ∧ (kf.measure U Z).u.size = (U, 1) := by
    intro hPos
    have hb := congrArg Sizes.b valid.sizes
    have hu := congrArg Sizes.u hMeasuredSizes
    simp only [KalmanFilter.sizes, constructed, if_pos hPos] at hb hu
    exact ⟨hb, hu⟩
  constructor
  · rw [spread, hXhatminus]
    refine xhatminus_xhatMinusUpdate exact (hSkip.trans hUsed) ?_ ?_ (fun hPos => ⟨?_, ?_⟩)
      (congrArg Sizes.xhatminus hMeasuredSizes)
    · rw [hF]
      exact ⟨congrArg Sizes.f valid.sizes, rfl⟩
    · rw [hXhat, Mat.holdsVector_iff]
      exact ⟨congrArg Sizes.xhat valid.sizes, rfl⟩
    · rw [hB]
      exact ⟨(hBSize hPos).1, rfl⟩
    · rw [Mat.holdsVector_iff, hU hPos, Buffer.vector_copy]
      exact ⟨(hBSize hPos).2, rfl⟩
  · rw [spread, hZ, z_xhatMinusUpdate, Mat.holdsVector_iff, hZData, Buffer.vector_copy]
    exact ⟨congrArg Sizes.z hMeasuredSizes, rfl⟩

/-- The estimate with a gain. -/
theorem xhat_xhatUpdate (exact : dsp.Exact) (used : kf.skipEq4 = 0)
    {H : Matrix (Fin Z) (Fin XHAT) ℚ} {K : Matrix (Fin XHAT) (Fin Z) ℚ} {x : Fin XHAT → ℚ}
    {z : Fin Z → ℚ} (hH : kf.h.Holds H) (hK : kf.k.Holds K) (hx : kf.xhatminus.HoldsVector x)
    (hz : kf.z.HoldsVector z) (hXhat : kf.xhat.size = (XHAT, 1)) :
    (kf.xhatUpdate dsp).1.xhat.HoldsVector (x + K *ᵥ (z - H *ᵥ x)) := by
  rw [xhatUpdate, if_neg (not_not.mpr used)]
  have hExpected := holdsVector_mul_resize exact kf.tempVector hH hx hH.numRows
  have hFits : (kf.tempVector1.resize kf.z.numRows 1).size = (Z, 1) :=
    Prod.ext (show kf.z.numRows = Z from Mat.Holds.numRows hz) rfl
  have hResidual := holdsVector_sub exact hz hExpected hFits
  have hCorrection := holdsVector_mul_resize exact
    (mul dsp kf.h kf.xhatminus (kf.tempVector.resize kf.h.numRows 1)).1 hK hResidual hK.numRows
  exact holdsVector_add exact hx hCorrection hXhat

/-- A floor of zero changes nothing below a covariance. -/
theorem matrix_floorVariance_flat {p stateMinVariance : Buffer ℚ}
    (hP : (p.matrix XHAT XHAT).PosSemidef) (flat : ∀ i < XHAT, stateMinVariance i = 0) :
    (floorVariance XHAT p stateMinVariance).matrix XHAT XHAT = p.matrix XHAT XHAT := by
  have hRaised : raised XHAT p stateMinVariance = fun _ => 0 := by
    funext i
    have hEntry : 0 ≤ p (i * XHAT + i) := hP.diag_nonneg
    rw [raised, flat i i.isLt, if_neg (not_lt.mpr hEntry)]
  rw [matrix_floorVariance, hRaised, diagonal_zero, add_zero]

/-- What the middle of an update makes of the estimate and of the covariance. -/
theorem correct_exact (exact : dsp.Exact) (small : Z * Z ≤ kMaxElems) (noSkips : kf.NoSkips)
    (sizes : kf.sizes = (constructed XHAT U Z : KalmanFilter ℚ).sizes)
    (measured : kf.takesMeasurement = true)
    {P : Matrix (Fin XHAT) (Fin XHAT) ℚ} (hPminus : kf.pminus.Holds P) (hP : P.PosSemidef)
    {H : Matrix (Fin Z) (Fin XHAT) ℚ} (hH : kf.h.Holds H)
    {R : Matrix (Fin Z) (Fin Z) ℚ} (hR : kf.r.Holds R) (posDef : R.PosDef)
    {x : Fin XHAT → ℚ} (hx : kf.xhatminus.HoldsVector x) {z : Fin Z → ℚ}
    (hz : kf.z.HoldsVector z) :
    (kf.correct dsp XHAT).1.p.Holds (updated H P R) ∧
      (kf.correct dsp XHAT).1.xhat.HoldsVector (x + gain H P R *ᵥ (z - H *ᵥ x)) := by
  obtain ⟨_, _, hSkip3, _⟩ := noSkips_iff.mp noSkips
  obtain ⟨hK, hKeptH, hKeptPminus⟩ := k_setK exact hSkip3 sizes small hPminus
    (posDef_innovation _ hP (hR.2 ▸ posDef)).isUnit
  rw [hH.2, hR.2] at hK
  have hVectors := vectors_setK dsp kf
  have hGainedSkips := noSkips_of_control (control_setK dsp kf) noSkips
  have hGainedSizes := (sizes_setK dsp kf).trans sizes
  rw [correct_of_measured dsp XHAT measured]
  generalize (kf.setK dsp).1 = gained at *
  simp only [vectors, List.cons.injEq, and_true] at hVectors
  obtain ⟨-, hXhatminus, -, hZ⟩ := hVectors
  rw [← hKeptH] at hH
  rw [← hKeptPminus] at hPminus
  rw [← hXhatminus] at hx
  rw [← hZ] at hz
  obtain ⟨_, _, _, hSkip4, _⟩ := noSkips_iff.mp hGainedSkips
  have hMoved := xhat_xhatUpdate exact hSkip4 hH hK hx hz (congrArg Sizes.xhat hGainedSizes)
  have hMatrices := matrices_xhatUpdate dsp gained
  have hSizes := (sizes_xhatUpdate dsp gained).trans hGainedSizes
  obtain ⟨_, _, _, _, hSkip5⟩ := noSkips_iff.mp
    (noSkips_of_control (control_xhatUpdate dsp gained) hGainedSkips)
  generalize (gained.xhatUpdate dsp).1 = moved at *
  simp only [matrices, List.cons.injEq, and_true] at hMatrices
  obtain ⟨-, hMovedPminus, -, -, hMovedH, -, -, -, hMovedK, -⟩ := hMatrices
  rw [← hMovedPminus] at hPminus
  rw [← hMovedH] at hH
  rw [← hMovedK] at hK
  rw [xhat_pUpdate]
  exact ⟨p_pUpdate exact hSkip5 hK hH hPminus (congrArg Sizes.p hSizes), hMoved⟩

/-- No phase touches the smallest variances. -/
theorem stateMinVariance_correct (dsp : RiscvDsp ℚ) (XHAT U Z : Nat) (kf : KalmanFilter ℚ) :
    ((kf.spread dsp XHAT U Z).correct dsp XHAT).1.stateMinVariance = kf.stateMinVariance := by
  have hMeasure : (kf.measure U Z).stateMinVariance = kf.stateMinVariance := by
    unfold measure
    split_ifs <;> rfl
  have hCarried (kf : KalmanFilter ℚ) :
      (kf.xhatMinusUpdate dsp XHAT U).1.stateMinVariance = kf.stateMinVariance := by
    unfold xhatMinusUpdate
    split_ifs <;> simp [setStatus]
  have hSpread (kf : KalmanFilter ℚ) :
      (kf.pminusUpdate dsp).1.stateMinVariance = kf.stateMinVariance := by
    unfold pminusUpdate
    split_ifs <;> simp [setStatus]
  have hGained (kf : KalmanFilter ℚ) :
      (kf.setK dsp).1.stateMinVariance = kf.stateMinVariance := by
    unfold setK
    split_ifs <;> simp [setS, setGain, setStatus]
  have hMoved (kf : KalmanFilter ℚ) :
      (kf.xhatUpdate dsp).1.stateMinVariance = kf.stateMinVariance := by
    unfold xhatUpdate
    split_ifs <;> simp [setStatus]
  have hUpdated (kf : KalmanFilter ℚ) :
      (kf.pUpdate dsp).1.stateMinVariance = kf.stateMinVariance := by
    unfold pUpdate
    split_ifs <;> simp [setStatus]
  have hCorrect (kf : KalmanFilter ℚ) :
      (kf.correct dsp XHAT).1.stateMinVariance = kf.stateMinVariance := by
    cases hMeasured : kf.takesMeasurement with
    | true => rw [correct_of_measured dsp XHAT hMeasured, hUpdated, hMoved, hGained]
    | false => rw [correct, if_neg (ne_true_of_eq_false hMeasured)]
  rw [hCorrect, spread, hSpread, hCarried, hMeasure]

/-- What an update makes of the estimate and of the covariance. -/
theorem update_exact (exact : dsp.Exact) (small : Z * Z ≤ kMaxElems) (valid : kf.Valid XHAT U Z)
    (hQ : (kf.q.data.matrix XHAT XHAT).PosSemidef) (hR : (kf.r.data.matrix Z Z).PosDef)
    (flat : ∀ i < XHAT, kf.stateMinVariance i = 0) :
    (kf.update dsp XHAT U Z).1.p.data.matrix XHAT XHAT =
        (if kf.takesMeasurement then
          updated (kf.h.data.matrix Z XHAT) (kf.predictedOf XHAT) (kf.r.data.matrix Z Z)
        else kf.predictedOf XHAT) ∧
      (kf.update dsp XHAT U Z).1.xhat.data.vector XHAT =
        if kf.takesMeasurement then
          kf.carriedOf XHAT U +
            gain (kf.h.data.matrix Z XHAT) (kf.predictedOf XHAT) (kf.r.data.matrix Z Z) *ᵥ
              (kf.measuredVector.vector Z - kf.h.data.matrix Z XHAT *ᵥ kf.carriedOf XHAT U)
        else kf.carriedOf XHAT U := by
  obtain ⟨hPminus, hKeptH, hKeptR⟩ := pminus_spread exact valid
  obtain ⟨hXhatminus, hZ⟩ := vectors_spread exact valid
  have hFloor := stateMinVariance_correct dsp XHAT U Z kf
  have hSizes := (kf.sizes_spread dsp XHAT U Z).trans valid.sizes
  have hSkips := noSkips_of_control (control_spread dsp XHAT U Z kf) valid.noSkips
  have hTakes : (kf.spread dsp XHAT U Z).takesMeasurement = kf.takesMeasurement :=
    congrArg Prod.fst (control_spread dsp XHAT U Z kf)
  have hPosSemidef : (kf.predictedOf XHAT).PosSemidef :=
    posSemidef_predicted _ valid.covariance hQ
  rw [update_eq, finish]
  cases hMeasured : kf.takesMeasurement with
  | true =>
      have hH : (kf.spread dsp XHAT U Z).h.Holds (kf.h.data.matrix Z XHAT) := by
        rw [hKeptH]
        exact ⟨congrArg Sizes.h valid.sizes, rfl⟩
      have hRHolds : (kf.spread dsp XHAT U Z).r.Holds (kf.r.data.matrix Z Z) := by
        rw [hKeptR]
        exact ⟨congrArg Sizes.r valid.sizes, rfl⟩
      obtain ⟨hP, hXhat⟩ := correct_exact exact small hSkips hSizes (hTakes.trans hMeasured) hPminus
        hPosSemidef hH hRHolds hR hXhatminus hZ
      have hUpdated := posSemidef_updated (kf.h.data.matrix Z XHAT) hPosSemidef hR
      generalize ((kf.spread dsp XHAT U Z).correct dsp XHAT).1 = corrected at *
      rw [← hP.2] at hUpdated
      exact ⟨(matrix_floorVariance_flat hUpdated fun i hi => hFloor ▸ flat i hi).trans hP.2,
        ((Mat.holdsVector_iff _ _).mp hXhat).2⟩
  | false =>
      have hKept : ((kf.spread dsp XHAT U Z).correct dsp XHAT).1 =
          { kf.spread dsp XHAT U Z with
            xhat := { (kf.spread dsp XHAT U Z).xhat with
              data := (kf.spread dsp XHAT U Z).xhat.data.copy
                (kf.spread dsp XHAT U Z).xhatminus.data XHAT }
            p := { (kf.spread dsp XHAT U Z).p with
              data := (kf.spread dsp XHAT U Z).p.data.copy
                (kf.spread dsp XHAT U Z).pminus.data (XHAT * XHAT) } } := by
        rw [correct, if_neg (ne_true_of_eq_false (hTakes.trans hMeasured))]
      rw [hKept] at hFloor ⊢
      have hCopied : ((kf.spread dsp XHAT U Z).p.data.copy
          (kf.spread dsp XHAT U Z).pminus.data (XHAT * XHAT)).matrix XHAT XHAT =
            kf.predictedOf XHAT := (Buffer.matrix_copy ..).trans hPminus.2
      rw [← hCopied] at hPosSemidef
      exact ⟨(matrix_floorVariance_flat hPosSemidef fun i hi => hFloor ▸ flat i hi).trans hCopied,
        (Buffer.vector_copy ..).trans ((Mat.holdsVector_iff _ _).mp hXhatminus).2⟩

end Estimate

end KalmanFilter

end RmTest.Algorithms

import Mathlib.Data.Rat.Star
import RmTest.Library.Covariance
import RmTest.Library.Run
import RmTest.Verification.KalmanStatus

/-! The covariance of the filter over runs of updates, in exact arithmetic. -/
namespace RmTest.Algorithms

open Matrix FloatModel

/-- The routines compute what they are named after. -/
structure RiscvDsp.Exact (dsp : RiscvDsp ℚ) : Prop where
  add : ∀ a b dst rows cols,
    (dsp.add a b dst rows cols).matrix rows cols = a.matrix rows cols + b.matrix rows cols
  sub : ∀ a b dst rows cols,
    (dsp.sub a b dst rows cols).matrix rows cols = a.matrix rows cols - b.matrix rows cols
  mul : ∀ a b dst rows inner cols,
    (dsp.mul a b dst rows inner cols).matrix rows cols = a.matrix rows inner * b.matrix inner cols
  trans : ∀ a dst rows cols, (dsp.trans a dst rows cols).matrix cols rows = (a.matrix rows cols)ᵀ
  inv : ∀ a dst size, IsUnit (a.matrix size size) →
    (dsp.inv a dst size).1 = Kf.kStatusOk ∧
      (dsp.inv a dst size).2.matrix size size = (a.matrix size size)⁻¹

theorem exact_exactDsp : exactDsp.Exact where
  add _ _ dst _ _ := dst.matrix_write _
  sub _ _ dst _ _ := dst.matrix_write _
  mul _ _ dst _ _ _ := dst.matrix_write _
  trans _ dst _ _ := dst.matrix_write _
  inv a dst size regular := by
    have hDet : (a.matrix size size).det ≠ 0 := ((isUnit_iff_isUnit_det _).mp regular).ne_zero
    have hInverse : exactDsp.inv a dst size =
        (0, dst.write ((a.matrix size size).det⁻¹ • (a.matrix size size).adjugate)) := if_neg hDet
    rw [hInverse, inv_def, Ring.inverse_eq_inv']
    exact ⟨rfl, dst.matrix_write _⟩

namespace Buffer

theorem index_lt {rows cols : Nat} (i : Fin rows) (j : Fin cols) :
    (i * cols + j : Nat) < rows * cols :=
  calc (i * cols + j : Nat) < i * cols + cols := Nat.add_lt_add_left j.isLt _
    _ = (i + 1) * cols := (Nat.succ_mul _ _).symm
    _ ≤ rows * cols := Nat.mul_le_mul_right _ i.isLt

theorem matrix_copy {F : Type} (dst src : Buffer F) (rows cols : Nat) :
    (dst.copy src (rows * cols)).matrix rows cols = src.matrix rows cols := by
  ext i j
  exact if_pos (index_lt i j)

end Buffer

/-- `m` has the size of `A` and holds it. -/
def Mat.Holds {rows cols : Nat} (m : Mat ℚ) (A : Matrix (Fin rows) (Fin cols) ℚ) : Prop :=
  m.size = (rows, cols) ∧ m.data.matrix rows cols = A

theorem Mat.Holds.numRows {rows cols : Nat} {m : Mat ℚ} {A : Matrix (Fin rows) (Fin cols) ℚ}
    (holds : m.Holds A) : m.numRows = rows := congrArg Prod.fst holds.1

theorem Mat.Holds.numCols {rows cols : Nat} {m : Mat ℚ} {A : Matrix (Fin rows) (Fin cols) ℚ}
    (holds : m.Holds A) : m.numCols = cols := congrArg Prod.snd holds.1

namespace Kf

variable {dsp : RiscvDsp ℚ} {rows inner cols : Nat} {a b out : Mat ℚ}

theorem holds_entrywise
    {routine : Buffer ℚ → Buffer ℚ → Buffer ℚ → Nat → Nat → Buffer ℚ}
    {C : Matrix (Fin rows) (Fin cols) ℚ} (ha : a.size = (rows, cols)) (hb : b.size = (rows, cols))
    (fits : out.size = (rows, cols))
    (computes : (routine a.data b.data out.data rows cols).matrix rows cols = C) :
    (entrywise routine a b out).1.Holds C := by
  rw [entrywise_of_fits routine (ha.trans hb.symm) (fits.trans ha.symm)]
  obtain ⟨hRows, hCols⟩ := Prod.mk.inj ha
  subst hRows hCols
  exact ⟨fits, computes⟩

variable (exact : dsp.Exact) {A : Matrix (Fin rows) (Fin cols) ℚ}

include exact

theorem holds_add {B : Matrix (Fin rows) (Fin cols) ℚ} (ha : a.Holds A) (hb : b.Holds B)
    (fits : out.size = (rows, cols)) : (add dsp a b out).1.Holds (A + B) := by
  obtain ⟨hSize, rfl⟩ := ha
  obtain ⟨hSizeB, rfl⟩ := hb
  exact holds_entrywise hSize hSizeB fits (exact.add ..)

theorem holds_sub {B : Matrix (Fin rows) (Fin cols) ℚ} (ha : a.Holds A) (hb : b.Holds B)
    (fits : out.size = (rows, cols)) : (sub dsp a b out).1.Holds (A - B) := by
  obtain ⟨hSize, rfl⟩ := ha
  obtain ⟨hSizeB, rfl⟩ := hb
  exact holds_entrywise hSize hSizeB fits (exact.sub ..)

theorem holds_mul {B : Matrix (Fin cols) (Fin inner) ℚ} (ha : a.Holds A) (hb : b.Holds B)
    (fits : out.size = (rows, inner)) : (mul dsp a b out).1.Holds (A * B) := by
  obtain ⟨hSize, rfl⟩ := ha
  obtain ⟨hSizeB, rfl⟩ := hb
  obtain ⟨hRows, hCols⟩ := Prod.mk.inj hSize
  obtain ⟨hRowsB, hColsB⟩ := Prod.mk.inj hSizeB
  subst hRows hCols hColsB
  rw [mul_of_fits dsp hRowsB.symm fits]
  exact ⟨fits, exact.mul ..⟩

/-- A product in a work matrix that has been given its size. -/
theorem holds_mul_resize (work : Mat ℚ) {B : Matrix (Fin cols) (Fin inner) ℚ} (ha : a.Holds A)
    (hb : b.Holds B) {r c : Nat} (hRows : r = rows) (hCols : c = inner) :
    (mul dsp a b (work.resize r c)).1.Holds (A * B) :=
  holds_mul exact ha hb (Prod.ext hRows hCols)

theorem holds_transpose (ha : a.Holds A) (fits : out.size = (cols, rows)) :
    (transpose dsp a out).1.Holds Aᵀ := by
  obtain ⟨hSize, rfl⟩ := ha
  obtain ⟨hRows, hCols⟩ := Prod.mk.inj hSize
  subst hRows hCols
  rw [transpose_of_fits dsp fits]
  exact ⟨fits, exact.trans ..⟩

/-- What the routine makes of a regular matrix. -/
theorem inv_srcCopy {A : Matrix (Fin rows) (Fin rows) ℚ} (ha : a.Holds A) (regular : IsUnit A)
    (dst : Buffer ℚ) :
    (dsp.inv (srcCopy a) dst a.numRows).1 = kStatusOk ∧
      (dsp.inv (srcCopy a) dst a.numRows).2.matrix rows rows = A⁻¹ := by
  have hSource : (srcCopy a).matrix rows rows = A := by
    rw [srcCopy, ha.numRows, ha.numCols, ← ha.2]
    exact Buffer.matrix_copy ..
  have hInverse := exact.inv (srcCopy a) dst rows
  rw [hSource] at hInverse
  rw [ha.numRows]
  exact hInverse regular

/-- A regular matrix with few enough elements is inverted. -/
theorem holds_inverse {A : Matrix (Fin rows) (Fin rows) ℚ} (ha : a.Holds A) (regular : IsUnit A)
    (fits : out.size = (rows, rows)) (small : rows * rows ≤ kMaxElems) :
    (inverse dsp a out).1.Holds A⁻¹ := by
  have hSmall : a.numRows * a.numCols ≤ kMaxElems := by rwa [ha.numRows, ha.numCols]
  rw [inverse_of_fits dsp (ha.numRows.trans ha.numCols.symm) (fits.trans ha.1.symm) hSmall]
  exact ⟨fits, (inv_srcCopy exact ha regular out.data).2⟩

end Kf

namespace KalmanFilter

section FloorVariance

variable {F : Type} [FloatModel F] (XHAT : Nat) (p stateMinVariance : Buffer F)

/-- One turn of the loop over the diagonal. -/
def floorEntry (p : Buffer F) (i : Nat) : Buffer F :=
  if lt (p (i * XHAT + i)) (stateMinVariance i) then
    Function.update p (i * XHAT + i) (stateMinVariance i)
  else p

theorem floorVariance_eq :
    floorVariance XHAT p stateMinVariance =
      (List.range XHAT).foldl (floorEntry XHAT stateMinVariance) p := rfl

theorem floorEntry_self (i : Nat) :
    floorEntry XHAT stateMinVariance p i (i * XHAT + i) =
      if lt (p (i * XHAT + i)) (stateMinVariance i) then stateMinVariance i
      else p (i * XHAT + i) := by
  unfold floorEntry
  split_ifs
  · exact Function.update_self ..
  · rfl

theorem floorEntry_other {i e : Nat} (other : e ≠ i * XHAT + i) :
    floorEntry XHAT stateMinVariance p i e = p e := by
  unfold floorEntry
  split_ifs
  · exact Function.update_of_ne other ..
  · rfl

/-- The loop changes only entries that it has come to. -/
theorem floorVariance_other (count : Nat) {e : Nat} (other : ∀ i < count, e ≠ i * XHAT + i) :
    (List.range count).foldl (floorEntry XHAT stateMinVariance) p e = p e := by
  induction count with
  | zero => rfl
  | succ count ih =>
      rw [List.range_succ, List.foldl_concat,
        floorEntry_other XHAT _ stateMinVariance (other count (Nat.lt_succ_self count)),
        ih fun i hi => other i (Nat.lt_succ_of_lt hi)]

theorem diagonal_index_injective {i j : Nat} (same : i * XHAT + i = j * XHAT + j) : i = j := by
  rw [← Nat.mul_succ, ← Nat.mul_succ] at same
  exact Nat.eq_of_mul_eq_mul_right (Nat.succ_pos XHAT) same

/-- What the loop makes of the entries on the diagonal. -/
theorem floorVariance_diagonal (count : Nat) {i : Nat} (reached : i < count) :
    (List.range count).foldl (floorEntry XHAT stateMinVariance) p (i * XHAT + i) =
      if lt (p (i * XHAT + i)) (stateMinVariance i) then stateMinVariance i
      else p (i * XHAT + i) := by
  induction count with
  | zero => exact absurd reached (Nat.not_lt_zero i)
  | succ count ih =>
      rw [List.range_succ, List.foldl_concat]
      by_cases hLast : i = count
      · subst hLast
        have hBefore := floorVariance_other XHAT p stateMinVariance i fun j hj hSame =>
          hj.ne (diagonal_index_injective XHAT hSame).symm
        rw [floorEntry_self, hBefore]
      · rw [floorEntry_other XHAT _ stateMinVariance fun hSame =>
          hLast (diagonal_index_injective XHAT hSame)]
        exact ih (by omega)

end FloorVariance

/-- By how much the diagonal is raised. -/
def raised (XHAT : Nat) (p stateMinVariance : Buffer ℚ) (i : Fin XHAT) : ℚ :=
  if p (i * XHAT + i) < stateMinVariance i then stateMinVariance i - p (i * XHAT + i) else 0

theorem raised_nonneg (XHAT : Nat) (p stateMinVariance : Buffer ℚ) :
    0 ≤ raised XHAT p stateMinVariance := by
  intro i
  unfold raised
  split_ifs with hBelow
  · exact sub_nonneg.mpr hBelow.le
  · exact le_rfl

theorem matrix_floorVariance (XHAT : Nat) (p stateMinVariance : Buffer ℚ) :
    (floorVariance XHAT p stateMinVariance).matrix XHAT XHAT =
      p.matrix XHAT XHAT + diagonal (raised XHAT p stateMinVariance) := by
  ext i j
  rw [floorVariance_eq, Matrix.add_apply]
  by_cases hSame : i = j
  · subst hSame
    rw [Matrix.diagonal_apply_eq, raised]
    refine (floorVariance_diagonal XHAT p stateMinVariance XHAT i.isLt).trans ?_
    simp only [lt_rat, decide_eq_true_eq, Buffer.matrix]
    split_ifs <;> ring
  · rw [Matrix.diagonal_apply_ne _ hSame, add_zero]
    refine floorVariance_other XHAT p stateMinVariance XHAT fun k hk hIndex => hSame ?_
    have hRow : i.val = k := by rw [← Buffer.index_div i j.isLt, hIndex, Buffer.index_div k hk]
    have hCol : j.val = k := by rw [← Buffer.index_mod i j.isLt, hIndex, Buffer.index_mod k hk]
    exact Fin.ext (hRow.trans hCol.symm)

section Phases

open Kf Covariance

variable {dsp : RiscvDsp ℚ} (exact : dsp.Exact) {XHAT Z : Nat} {kf : KalmanFilter ℚ}
  {P F Q : Matrix (Fin XHAT) (Fin XHAT) ℚ} {H : Matrix (Fin Z) (Fin XHAT) ℚ}
  {R : Matrix (Fin Z) (Fin Z) ℚ} {K : Matrix (Fin XHAT) (Fin Z) ℚ}

include exact

theorem pminus_pminusUpdate (used : kf.skipEq2 = 0) (hF : kf.f.Holds F) (hP : kf.p.Holds P)
    (hQ : kf.q.Holds Q) (hFt : kf.ft.size = (XHAT, XHAT))
    (hPminus : kf.pminus.size = (XHAT, XHAT)) :
    (kf.pminusUpdate dsp).1.pminus.Holds (predicted F P Q) := by
  rw [pminusUpdate, if_neg (not_not.mpr used)]
  have hTransposed := holds_transpose exact hF hFt
  have hCarried := holds_mul exact hF hP hPminus
  have hSpread := holds_mul_resize exact kf.tempMatrix hCarried hTransposed hCarried.numRows
    hTransposed.numCols
  exact holds_add exact hSpread hQ hCarried.1

theorem s_setS (hH : kf.h.Holds H) (hPminus : kf.pminus.Holds P) (hR : kf.r.Holds R)
    (hHt : kf.ht.size = (XHAT, Z)) :
    (kf.setS dsp).1.s.Holds (innovation H P R) ∧ (kf.setS dsp).1.ht.Holds Hᵀ := by
  have hTransposed := holds_transpose exact hH hHt
  have hMeasured := holds_mul_resize exact kf.tempMatrix hH hPminus hH.numRows hPminus.numCols
  have hSeen := holds_mul_resize exact kf.tempMatrix1 hMeasured hTransposed hMeasured.numRows
    hTransposed.numCols
  exact ⟨holds_add exact hSeen hR (Prod.ext hR.numRows hR.numCols), hTransposed⟩

/-- The gain, if the sum is regular and small enough. -/
theorem k_setGain {S : Matrix (Fin Z) (Fin Z) ℚ} (hS : kf.s.Holds S) (regular : IsUnit S)
    (small : Z * Z ≤ kMaxElems) (hHt : kf.ht.Holds Hᵀ) (hPminus : kf.pminus.Holds P)
    (hTemp1 : kf.tempMatrix1.size = (Z, Z)) (hK : kf.k.size = (XHAT, Z)) :
    (kf.setGain dsp).1.k.Holds (P * Hᵀ * S⁻¹) := by
  have hInverse := holds_inverse exact hS regular hTemp1 small
  have hSeen := holds_mul_resize exact kf.tempMatrix hPminus hHt hPminus.numRows hHt.numCols
  exact holds_mul exact hSeen hInverse hK

theorem p_pUpdate (used : kf.skipEq5 = 0) (hK : kf.k.Holds K) (hH : kf.h.Holds H)
    (hPminus : kf.pminus.Holds P) (hP : kf.p.size = (XHAT, XHAT)) :
    (kf.pUpdate dsp).1.p.Holds (P - K * H * P) := by
  rw [pUpdate, if_neg (not_not.mpr used)]
  have hGain := holds_mul_resize exact kf.tempMatrix hK hH hK.numRows hH.numCols
  have hRemoved := holds_mul_resize exact kf.tempMatrix1 hGain hPminus hK.numRows hPminus.numCols
  exact holds_sub exact hPminus hRemoved hP

end Phases

section Updates

open Kf Covariance

variable {dsp : RiscvDsp ℚ} {XHAT U Z : Nat} {kf : KalmanFilter ℚ}

/-- What an update needs of the filter, and leaves. -/
structure Valid (XHAT U Z : Nat) (kf : KalmanFilter ℚ) : Prop where
  sizes : kf.sizes = (constructed XHAT U Z : KalmanFilter ℚ).sizes
  noSkips : kf.NoSkips
  covariance : PosSemidef (kf.p.data.matrix XHAT XHAT)

/-- The sizes that the constructor sets fit. -/
theorem allFit_constructed (sizes : kf.sizes = (constructed XHAT U Z : KalmanFilter ℚ).sizes) :
    kf.sizes.CarryState XHAT U ∧ (kf.sizes.CarryCovariance ∧ kf.sizes.AddNoise) ∧
      (kf.sizes.Innovate ∧ kf.sizes.Gain) ∧ kf.sizes.CorrectState ∧ kf.sizes.CorrectCovariance ∧
        kf.sizes.Subtract := by
  rw [sizes]
  by_cases hU : U > 0
  · simp [Sizes.CarryState, Sizes.CarryCovariance, Sizes.AddNoise, Sizes.Innovate, Sizes.Gain,
      Sizes.CorrectState, Sizes.CorrectCovariance, Sizes.Subtract, KalmanFilter.sizes, constructed,
      Mat.size, Mat.zeros, hU]
  · simp [Sizes.CarryState, Sizes.CarryCovariance, Sizes.AddNoise, Sizes.Innovate, Sizes.Gain,
      Sizes.CorrectState, Sizes.CorrectCovariance, Sizes.Subtract, KalmanFilter.sizes, constructed,
      Mat.size, Mat.zeros, hU]

/-- What `PminusUpdate_` predicts in an update. -/
def predictedOf (XHAT : Nat) (kf : KalmanFilter ℚ) : Matrix (Fin XHAT) (Fin XHAT) ℚ :=
  predicted (kf.f.data.matrix XHAT XHAT) (kf.p.data.matrix XHAT XHAT) (kf.q.data.matrix XHAT XHAT)

theorem pminus_spread (exact : dsp.Exact) (valid : kf.Valid XHAT U Z) :
    (kf.spread dsp XHAT U Z).pminus.Holds (kf.predictedOf XHAT) ∧
      (kf.spread dsp XHAT U Z).h = kf.h ∧ (kf.spread dsp XHAT U Z).r = kf.r := by
  obtain ⟨_, hControl, hMatrices⟩ := kf.carried_spec dsp XHAT U Z
  obtain ⟨_, hSkip2, _⟩ := noSkips_iff.mp (noSkips_of_control hControl valid.noSkips)
  rw [spread]
  generalize ((kf.measure U Z).xhatMinusUpdate dsp XHAT U).1 = carried at *
  simp only [matrices, List.cons.injEq, and_true] at hMatrices
  obtain ⟨hP, hPminus, hF, hFt, hH, -, hQ, hR, -⟩ := hMatrices
  obtain ⟨hKeptH, hKeptR⟩ := kept_pminusUpdate dsp carried
  refine ⟨pminus_pminusUpdate exact hSkip2 ?_ ?_ ?_ ?_ ?_, hKeptH.trans hH, hKeptR.trans hR⟩
  · rw [hF]
    exact ⟨congrArg Sizes.f valid.sizes, rfl⟩
  · rw [hP]
    exact ⟨congrArg Sizes.p valid.sizes, rfl⟩
  · rw [hQ]
    exact ⟨congrArg Sizes.q valid.sizes, rfl⟩
  · rw [hFt]
    exact congrArg Sizes.ft valid.sizes
  · rw [hPminus]
    exact congrArg Sizes.pminus valid.sizes

/-- The sum of an update holds the covariance of what is measured. -/
theorem s_summed (exact : dsp.Exact) (valid : kf.Valid XHAT U Z) :
    (kf.summed dsp XHAT U Z).s.Holds
      (innovation (kf.h.data.matrix Z XHAT) (kf.predictedOf XHAT) (kf.r.data.matrix Z Z)) := by
  obtain ⟨hPminus, hH, hR⟩ := pminus_spread exact valid
  have hSizes := (kf.sizes_spread dsp XHAT U Z).trans valid.sizes
  refine (s_setS exact ?_ hPminus ?_ (congrArg Sizes.ht hSizes)).1
  · rw [hH]
    exact ⟨congrArg Sizes.h valid.sizes, rfl⟩
  · rw [hR]
    exact ⟨congrArg Sizes.r valid.sizes, rfl⟩

/-- The gain of an update, before the state is corrected. -/
theorem k_setK (exact : dsp.Exact) (used : kf.skipEq3 = 0)
    {P : Matrix (Fin XHAT) (Fin XHAT) ℚ}
    (sizes : kf.sizes = (constructed XHAT U Z : KalmanFilter ℚ).sizes)
    (small : Z * Z ≤ kMaxElems) (hPminus : kf.pminus.Holds P)
    (regular : IsUnit (innovation (kf.h.data.matrix Z XHAT) P (kf.r.data.matrix Z Z))) :
    (kf.setK dsp).1.k.Holds (gain (kf.h.data.matrix Z XHAT) P (kf.r.data.matrix Z Z)) ∧
      (kf.setK dsp).1.h = kf.h ∧ (kf.setK dsp).1.pminus = kf.pminus := by
  have hSetK : (kf.setK dsp).1 = ((kf.setS dsp).1.setGain dsp).1 := by
    rw [setK, if_neg (not_not.mpr used)]
  have hH : kf.h.Holds (kf.h.data.matrix Z XHAT) := ⟨congrArg Sizes.h sizes, rfl⟩
  have hR : kf.r.Holds (kf.r.data.matrix Z Z) := ⟨congrArg Sizes.r sizes, rfl⟩
  have hHtCols : kf.ht.numCols = Z := congrArg (Prod.snd ∘ Sizes.ht) sizes
  have hTemp1 := (work_setS dsp kf).2
  rw [hH.numRows, hHtCols] at hTemp1
  obtain ⟨hS, hHt⟩ := s_setS exact hH hPminus hR (congrArg Sizes.ht sizes)
  obtain ⟨hKeptH, hKeptPminus⟩ := kept_setS dsp kf
  have hSizes := (sizes_setS dsp kf).trans sizes
  rw [hSetK]
  generalize (kf.setS dsp).1 = summed at *
  obtain ⟨hKeptH', hKeptPminus'⟩ := kept_setGain dsp summed
  rw [← hKeptPminus] at hPminus
  have hK := k_setGain exact hS regular small hHt hPminus hTemp1 (congrArg Sizes.k hSizes)
  exact ⟨hK, hKeptH'.trans hKeptH, hKeptPminus'.trans hKeptPminus⟩

/-- Both ways through the middle of an update leave a covariance. -/
theorem p_correct (exact : dsp.Exact) (small : Z * Z ≤ kMaxElems) (noSkips : kf.NoSkips)
    (sizes : kf.sizes = (constructed XHAT U Z : KalmanFilter ℚ).sizes)
    {P : Matrix (Fin XHAT) (Fin XHAT) ℚ} (hPminus : kf.pminus.Holds P) (hP : P.PosSemidef)
    (hR : (kf.r.data.matrix Z Z).PosDef) :
    ((kf.correct dsp XHAT).1.p.data.matrix XHAT XHAT).PosSemidef := by
  cases hCase : kf.takesMeasurement with
  | true =>
      obtain ⟨_, _, hSkip3, _⟩ := noSkips_iff.mp noSkips
      obtain ⟨hK, hH, hPm⟩ := k_setK exact hSkip3 sizes small hPminus
        (posDef_innovation _ hP hR).isUnit
      have hMatrices := matrices_xhatUpdate dsp (kf.setK dsp).1
      have hSizes := (sizes_xhatUpdate dsp (kf.setK dsp).1).trans ((sizes_setK dsp kf).trans sizes)
      have hMoved := noSkips_of_control ((control_xhatUpdate dsp (kf.setK dsp).1).trans
        (control_setK dsp kf)) noSkips
      obtain ⟨_, _, _, _, hSkip5⟩ := noSkips_iff.mp hMoved
      simp only [matrices, List.cons.injEq, and_true] at hMatrices
      obtain ⟨-, hMovedPm, -, -, hMovedH, -, -, -, hMovedK, -⟩ := hMatrices
      rw [correct_of_measured dsp XHAT hCase]
      generalize (kf.setK dsp).1 = gained at *
      generalize (gained.xhatUpdate dsp).1 = moved at *
      rw [← hMovedK] at hK
      rw [← hPm, ← hMovedPm] at hPminus
      have hMeasures : moved.h.Holds (kf.h.data.matrix Z XHAT) := by
        rw [hMovedH, hH]
        exact ⟨congrArg Sizes.h sizes, rfl⟩
      have hUpdated := p_pUpdate exact hSkip5 hK hMeasures hPminus (congrArg Sizes.p hSizes)
      exact hUpdated.2 ▸ posSemidef_updated _ hP hR
  | false =>
      rw [correct, if_neg (ne_true_of_eq_false hCase)]
      have hCopied : (kf.p.data.copy kf.pminus.data (XHAT * XHAT)).matrix XHAT XHAT = P :=
        (Buffer.matrix_copy ..).trans hPminus.2
      exact hCopied ▸ hP

/-- An update keeps what the next one needs. -/
theorem valid_update (exact : dsp.Exact) (small : Z * Z ≤ kMaxElems) (valid : kf.Valid XHAT U Z)
    (hQ : (kf.q.data.matrix XHAT XHAT).PosSemidef) (hR : (kf.r.data.matrix Z Z).PosDef) :
    (kf.update dsp XHAT U Z).1.Valid XHAT U Z where
  sizes := (sizes_update dsp XHAT U Z kf).trans valid.sizes
  noSkips := noSkips_of_control (control_update dsp XHAT U Z kf) valid.noSkips
  covariance := by
    obtain ⟨hPminus, -, hKeptR⟩ := pminus_spread exact valid
    have hSpread := p_correct exact small
      (noSkips_of_control (control_spread dsp XHAT U Z kf) valid.noSkips)
      ((kf.sizes_spread dsp XHAT U Z).trans valid.sizes) hPminus
      (posSemidef_predicted _ valid.covariance hQ) (hKeptR ▸ hR)
    rw [update_eq]
    generalize ((kf.spread dsp XHAT U Z).correct dsp XHAT).1 = corrected at *
    have hFloored := posSemidef_raised hSpread
      (raised_nonneg XHAT corrected.p.data corrected.stateMinVariance)
    rwa [← matrix_floorVariance] at hFloored

/-- All operations of an update succeed. -/
theorem allOk_update (exact : dsp.Exact) (small : Z * Z ≤ kMaxElems) (valid : kf.Valid XHAT U Z)
    (hQ : (kf.q.data.matrix XHAT XHAT).PosSemidef) (hR : (kf.r.data.matrix Z Z).PosDef) :
    AllOk (kf.update dsp XHAT U Z).2 := by
  obtain ⟨hState, hCovariance, hMeasure⟩ := allFit_constructed valid.sizes
  refine (update_statuses dsp XHAT U Z valid.noSkips).1.mpr
    ⟨⟨hState, hCovariance, fun _ => hMeasure⟩, fun _ => ?_⟩
  rw [← inverts_summed dsp XHAT U Z valid.noSkips hCovariance hMeasure.1.1]
  have hS := s_summed exact valid
  have hRegular := (posDef_innovation (kf.h.data.matrix Z XHAT)
    (posSemidef_predicted (kf.f.data.matrix XHAT XHAT) valid.covariance hQ) hR).isUnit
  refine ⟨?_, (inv_srcCopy exact hS hRegular _).1⟩
  rwa [hS.numRows, hS.numCols]

/-- What the user of a filter sets before an update. -/
structure Inputs (XHAT Z : Nat) where
  f : Buffer ℚ
  b : Buffer ℚ
  h : Buffer ℚ
  q : Buffer ℚ
  r : Buffer ℚ
  measuredVector : Buffer ℚ
  controlVector : Buffer ℚ
  stateMinVariance : Buffer ℚ
  useAutoAdjustment : UInt8
  measurementValidNum : UInt8
  q_posSemidef : (q.matrix XHAT XHAT).PosSemidef
  r_posDef : (r.matrix Z Z).PosDef
  stateMinVariance_nonneg : ∀ i < XHAT, 0 ≤ stateMinVariance i

/-- The filter with these settings. -/
def given (kf : KalmanFilter ℚ) (input : Inputs XHAT Z) : KalmanFilter ℚ :=
  { kf with
    f := { kf.f with data := input.f }
    b := { kf.b with data := input.b }
    h := { kf.h with data := input.h }
    q := { kf.q with data := input.q }
    r := { kf.r with data := input.r }
    measuredVector := input.measuredVector
    controlVector := input.controlVector
    stateMinVariance := input.stateMinVariance
    useAutoAdjustment := input.useAutoAdjustment
    measurementValidNum := input.measurementValidNum }

theorem valid_given (valid : kf.Valid XHAT U Z) (input : Inputs XHAT Z) :
    (kf.given input).Valid XHAT U Z := ⟨valid.sizes, valid.noSkips, valid.covariance⟩

/-- An update with new settings. -/
def updateWith (dsp : RiscvDsp ℚ) (XHAT U Z : Nat) (kf : KalmanFilter ℚ) (input : Inputs XHAT Z) :
    KalmanFilter ℚ × List Status := (kf.given input).update dsp XHAT U Z

/-- In every run of updates `P` stays a covariance, and no operation fails. -/
theorem covariance_stays_valid (exact : dsp.Exact) (small : Z * Z ≤ 64)
    (sizes : kf.sizes = (constructed XHAT U Z : KalmanFilter ℚ).sizes) (noSkips : kf.NoSkips)
    (start : (kf.p.data.matrix XHAT XHAT).PosSemidef) (inputs : List (Inputs XHAT Z)) :
    Run.Always (fun kf input => (updateWith dsp XHAT U Z kf input).1)
        (fun kf => (kf.p.data.matrix XHAT XHAT).PosSemidef) kf inputs ∧
      Run.Along (fun kf input => (updateWith dsp XHAT U Z kf input).1)
        (fun kf input => AllOk (updateWith dsp XHAT U Z kf input).2) kf inputs := by
  have hKept : ∀ kf (input : Inputs XHAT Z), kf.Valid XHAT U Z →
      ((updateWith dsp XHAT U Z kf input).1).Valid XHAT U Z := fun kf input hValid =>
    valid_update exact small (valid_given hValid input) input.q_posSemidef input.r_posDef
  have hStart : kf.Valid XHAT U Z := ⟨sizes, noSkips, start⟩
  constructor
  · rw [Run.always_iff]
    exact fun before _ => (Run.foldl_invariant hKept hStart before).covariance
  · exact Run.along_of_invariant (fun kf input hValid _ => hKept kf input hValid)
      (fun kf input hValid _ => allOk_update exact small (valid_given hValid input)
        input.q_posSemidef input.r_posDef)
      hStart (Run.along_trivial kf inputs)

theorem matrix_ones : Buffer.matrix (fun _ => (1 : ℚ)) 1 1 = 1 := by
  ext i j
  rw [Subsingleton.elim i j, Matrix.one_apply_eq]
  rfl

/-- One state that is measured as it is. -/
def unitInputs : Inputs 1 1 where
  f _ := 1
  b _ := 0
  h _ := 1
  q _ := 1
  r _ := 1
  measuredVector _ := 1
  controlVector _ := 0
  stateMinVariance _ := 0
  useAutoAdjustment := 0
  measurementValidNum := 1
  q_posSemidef := matrix_ones ▸ PosSemidef.one
  r_posDef := matrix_ones ▸ (PosDef.one : (1 : Matrix (Fin 1) (Fin 1) ℚ).PosDef)
  stateMinVariance_nonneg _ _ := le_rfl

theorem covariance_stays_valid_unit :
    Run.Always (fun kf input => (updateWith exactDsp 1 0 1 kf input).1)
        (fun kf => (kf.p.data.matrix 1 1).PosSemidef) blindFilter [unitInputs, unitInputs] ∧
      Run.Along (fun kf input => (updateWith exactDsp 1 0 1 kf input).1)
        (fun kf input => AllOk (updateWith exactDsp 1 0 1 kf input).2) blindFilter
        [unitInputs, unitInputs] :=
  covariance_stays_valid exact_exactDsp (by decide) rfl rfl PosSemidef.zero [unitInputs, unitInputs]

end Updates

end KalmanFilter

end RmTest.Algorithms

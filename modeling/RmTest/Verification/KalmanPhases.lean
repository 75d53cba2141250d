import Mathlib.LinearAlgebra.Matrix.NonsingularInverse
import RmTest.Algorithms.KalmanFilter

/-! The matrix operations of the filter and its phases: when the sizes fit, and what each
phase leaves as it is. -/
namespace RmTest.Algorithms

open Matrix

/-- A buffer read row by row. -/
def Buffer.matrix {F : Type} (data : Buffer F) (rows cols : Nat) : Matrix (Fin rows) (Fin cols) F :=
  fun i j => data (i * cols + j)

/-- The buffer with a matrix written to it. -/
def Buffer.write {F : Type} (dst : Buffer F) {rows cols : Nat}
    (A : Matrix (Fin rows) (Fin cols) F) :
    Buffer F :=
  fun e =>
    if h : e / cols < rows ∧ e % cols < cols then A ⟨e / cols, h.1⟩ ⟨e % cols, h.2⟩ else dst e

theorem Buffer.index_div {cols j : Nat} (i : Nat) (inside : j < cols) :
    (i * cols + j) / cols = i := by
  rw [Nat.add_comm, Nat.add_mul_div_right _ _ (Nat.zero_lt_of_lt inside), Nat.div_eq_of_lt inside,
    Nat.zero_add]

theorem Buffer.index_mod {cols j : Nat} (i : Nat) (inside : j < cols) :
    (i * cols + j) % cols = j := by
  rw [Nat.add_comm, Nat.add_mul_mod_self_right, Nat.mod_eq_of_lt inside]

theorem Buffer.matrix_write {F : Type} (dst : Buffer F) {rows cols : Nat}
    (A : Matrix (Fin rows) (Fin cols) F) : (dst.write A).matrix rows cols = A := by
  ext i j
  have hRow := Buffer.index_div i j.isLt
  have hCol := Buffer.index_mod i j.isLt
  have hInside : (i * cols + j : Nat) / cols < rows ∧ (i * cols + j : Nat) % cols < cols := by
    rw [hRow, hCol]
    exact ⟨i.isLt, j.isLt⟩
  rw [Buffer.matrix, Buffer.write, dif_pos hInside]
  exact congrArg₂ A (Fin.ext hRow) (Fin.ext hCol)

/-- Routines that compute what they are named after. -/
def exactDsp : RiscvDsp ℚ where
  add a b dst rows cols := dst.write (a.matrix rows cols + b.matrix rows cols)
  sub a b dst rows cols := dst.write (a.matrix rows cols - b.matrix rows cols)
  mul a b dst rows inner cols := dst.write (a.matrix rows inner * b.matrix inner cols)
  trans a dst rows cols := dst.write (a.matrix rows cols)ᵀ
  inv a dst size :=
    if (a.matrix size size).det = 0 then (-1, dst)
    else (0, dst.write ((a.matrix size size).det⁻¹ • (a.matrix size size).adjugate))

def Mat.size {F : Type} (m : Mat F) : Nat × Nat := (m.numRows, m.numCols)

theorem Mat.hasSize_iff {F : Type} (m : Mat F) (rows cols : Nat) :
    m.HasSize rows cols ↔ m.size = (rows, cols) := by
  simp [HasSize, size]

@[simp] theorem Mat.size_resize {F : Type} (m : Mat F) (rows cols : Nat) :
    (m.resize rows cols).size = (rows, cols) := rfl

@[simp] theorem Mat.numRows_resize {F : Type} (m : Mat F) (rows cols : Nat) :
    (m.resize rows cols).numRows = rows := rfl

@[simp] theorem Mat.numCols_resize {F : Type} (m : Mat F) (rows cols : Nat) :
    (m.resize rows cols).numCols = cols := rfl

@[simp] theorem Mat.data_resize {F : Type} (m : Mat F) (rows cols : Nat) :
    (m.resize rows cols).data = m.data := rfl

namespace Kf

variable {F : Type} (dsp : RiscvDsp F) (a b out : Mat F)

theorem mismatch_ne_ok : kStatusSizeMismatch ≠ kStatusOk := by decide

section Entrywise

variable (routine : Buffer F → Buffer F → Buffer F → Nat → Nat → Buffer F)

variable {a b out} in
theorem entrywise_of_fits (same : a.size = b.size) (fits : out.size = a.size) :
    entrywise routine a b out =
      ({ out with data := routine a.data b.data out.data a.numRows a.numCols }, kStatusOk) := by
  have hSame := (a.hasSize_iff b.numRows b.numCols).mpr same
  have hFits := (out.hasSize_iff a.numRows a.numCols).mpr fits
  exact if_neg (not_or.mpr ⟨not_not.mpr hSame, not_not.mpr hFits⟩)

/-- The status tells whether the sizes agree, in 8 bits too, and the sizes of the
destination stay. -/
theorem entrywise_spec :
    ((entrywise routine a b out).2 = kStatusOk ↔ a.size = b.size ∧ out.size = a.size) ∧
      ((entrywise routine a b out).2.toInt8 = 0 ↔ a.size = b.size ∧ out.size = a.size) ∧
      (entrywise routine a b out).1.size = out.size := by
  by_cases hFits : a.size = b.size ∧ out.size = a.size
  · rw [entrywise_of_fits routine hFits.1 hFits.2]
    exact ⟨iff_of_true rfl hFits, iff_of_true rfl hFits, rfl⟩
  · have hMisfit : entrywise routine a b out = (out, kStatusSizeMismatch) := by
      refine if_pos ?_
      rw [Mat.hasSize_iff, Mat.hasSize_iff]
      exact not_and_or.mp hFits
    rw [hMisfit]
    exact ⟨iff_of_false mismatch_ne_ok hFits,
      iff_of_false (show kStatusSizeMismatch.toInt8 ≠ 0 by decide) hFits, rfl⟩

end Entrywise

theorem status_add : (add dsp a b out).2 = kStatusOk ↔ a.size = b.size ∧ out.size = a.size :=
  (entrywise_spec a b out dsp.add).1

theorem toInt8_add : (add dsp a b out).2.toInt8 = 0 ↔ a.size = b.size ∧ out.size = a.size :=
  (entrywise_spec a b out dsp.add).2.1

@[simp] theorem size_add : (add dsp a b out).1.size = out.size :=
  (entrywise_spec a b out dsp.add).2.2

@[simp] theorem numRows_add : (add dsp a b out).1.numRows = out.numRows :=
  congrArg Prod.fst (size_add dsp a b out)

@[simp] theorem numCols_add : (add dsp a b out).1.numCols = out.numCols :=
  congrArg Prod.snd (size_add dsp a b out)

theorem status_sub : (sub dsp a b out).2 = kStatusOk ↔ a.size = b.size ∧ out.size = a.size :=
  (entrywise_spec a b out dsp.sub).1

theorem toInt8_sub : (sub dsp a b out).2.toInt8 = 0 ↔ a.size = b.size ∧ out.size = a.size :=
  (entrywise_spec a b out dsp.sub).2.1

@[simp] theorem size_sub : (sub dsp a b out).1.size = out.size :=
  (entrywise_spec a b out dsp.sub).2.2

@[simp] theorem numRows_sub : (sub dsp a b out).1.numRows = out.numRows :=
  congrArg Prod.fst (size_sub dsp a b out)

@[simp] theorem numCols_sub : (sub dsp a b out).1.numCols = out.numCols :=
  congrArg Prod.snd (size_sub dsp a b out)

variable {a b out} in
theorem mul_of_fits (inner : a.numCols = b.numRows) (fits : out.size = (a.numRows, b.numCols)) :
    mul dsp a b out =
      ({ out with data := dsp.mul a.data b.data out.data a.numRows a.numCols b.numCols },
        kStatusOk) := by
  have hFits := (out.hasSize_iff a.numRows b.numCols).mpr fits
  exact if_neg (not_or.mpr ⟨not_not.mpr inner, not_not.mpr hFits⟩)

theorem mul_spec :
    ((mul dsp a b out).2 = kStatusOk ↔
        a.numCols = b.numRows ∧ out.size = (a.numRows, b.numCols)) ∧
      (mul dsp a b out).1.size = out.size := by
  by_cases hFits : a.numCols = b.numRows ∧ out.size = (a.numRows, b.numCols)
  · rw [mul_of_fits dsp hFits.1 hFits.2]
    exact ⟨iff_of_true rfl hFits, rfl⟩
  · have hMisfit : mul dsp a b out = (out, kStatusSizeMismatch) := by
      refine if_pos ?_
      rw [Mat.hasSize_iff]
      exact not_and_or.mp hFits
    rw [hMisfit]
    exact ⟨iff_of_false mismatch_ne_ok hFits, rfl⟩

theorem status_mul : (mul dsp a b out).2 = kStatusOk ↔
    a.numCols = b.numRows ∧ out.size = (a.numRows, b.numCols) := (mul_spec dsp a b out).1

@[simp] theorem size_mul : (mul dsp a b out).1.size = out.size := (mul_spec dsp a b out).2

@[simp] theorem numRows_mul : (mul dsp a b out).1.numRows = out.numRows :=
  congrArg Prod.fst (size_mul dsp a b out)

@[simp] theorem numCols_mul : (mul dsp a b out).1.numCols = out.numCols :=
  congrArg Prod.snd (size_mul dsp a b out)

variable {a out} in
theorem transpose_of_fits (fits : out.size = (a.numCols, a.numRows)) :
    transpose dsp a out =
      ({ out with data := dsp.trans a.data out.data a.numRows a.numCols }, kStatusOk) :=
  if_neg (not_not.mpr ((out.hasSize_iff a.numCols a.numRows).mpr fits))

theorem transpose_spec :
    ((transpose dsp a out).2 = kStatusOk ↔ out.size = (a.numCols, a.numRows)) ∧
      (transpose dsp a out).1.size = out.size := by
  by_cases hFits : out.size = (a.numCols, a.numRows)
  · rw [transpose_of_fits dsp hFits]
    exact ⟨iff_of_true rfl hFits, rfl⟩
  · have hMisfit : transpose dsp a out = (out, kStatusSizeMismatch) :=
      if_pos (by rwa [Mat.hasSize_iff])
    rw [hMisfit]
    exact ⟨iff_of_false mismatch_ne_ok hFits, rfl⟩

theorem status_transpose :
    (transpose dsp a out).2 = kStatusOk ↔ out.size = (a.numCols, a.numRows) :=
  (transpose_spec dsp a out).1

@[simp] theorem size_transpose : (transpose dsp a out).1.size = out.size :=
  (transpose_spec dsp a out).2

@[simp] theorem numRows_transpose : (transpose dsp a out).1.numRows = out.numRows :=
  congrArg Prod.fst (size_transpose dsp a out)

@[simp] theorem numCols_transpose : (transpose dsp a out).1.numCols = out.numCols :=
  congrArg Prod.snd (size_transpose dsp a out)

section Data

variable {a b out}

theorem data_add (same : a.size = b.size) (fits : out.size = a.size) :
    (add dsp a b out).1.data = dsp.add a.data b.data out.data a.numRows a.numCols :=
  congrArg (Mat.data ∘ Prod.fst) (entrywise_of_fits dsp.add same fits)

theorem data_mul (inner : a.numCols = b.numRows) (fits : out.size = (a.numRows, b.numCols)) :
    (mul dsp a b out).1.data = dsp.mul a.data b.data out.data a.numRows a.numCols b.numCols :=
  congrArg (Mat.data ∘ Prod.fst) (mul_of_fits dsp inner fits)

theorem data_transpose (fits : out.size = (a.numCols, a.numRows)) :
    (transpose dsp a out).1.data = dsp.trans a.data out.data a.numRows a.numCols :=
  congrArg (Mat.data ∘ Prod.fst) (transpose_of_fits dsp fits)

end Data

/-- What `inverse` hands to the routine. -/
def srcCopy [Zero F] (a : Mat F) : Buffer F :=
  Buffer.copy (fun _ => 0) a.data (a.numRows * a.numCols)

variable {a out} in
theorem inverse_of_fits [Zero F] (square : a.numRows = a.numCols) (fits : out.size = a.size)
    (small : a.numRows * a.numCols ≤ kMaxElems) :
    inverse dsp a out =
      ({ out with data := (dsp.inv (srcCopy a) out.data a.numRows).2 },
        (dsp.inv (srcCopy a) out.data a.numRows).1) := by
  have hFits := (out.hasSize_iff a.numRows a.numCols).mpr fits
  refine (if_neg (not_or.mpr ⟨not_not.mpr square, not_not.mpr hFits⟩)).trans ?_
  exact if_neg (Nat.not_lt.mpr small)

theorem inverse_spec [Zero F] :
    ((inverse dsp a out).2 = kStatusOk ↔
        a.numRows = a.numCols ∧ out.size = a.size ∧ a.numRows * a.numCols ≤ kMaxElems ∧
          (dsp.inv (srcCopy a) out.data a.numRows).1 = kStatusOk) ∧
      (inverse dsp a out).1.size = out.size := by
  by_cases hFits : a.numRows = a.numCols ∧ out.size = a.size
  · by_cases hSmall : a.numRows * a.numCols ≤ kMaxElems
    · rw [inverse_of_fits dsp hFits.1 hFits.2 hSmall]
      exact ⟨⟨fun h => ⟨hFits.1, hFits.2, hSmall, h⟩, fun h => h.2.2.2⟩, rfl⟩
    · have hLarge : inverse dsp a out = (out, kStatusArgError) := by
        have hSize := (out.hasSize_iff a.numRows a.numCols).mpr hFits.2
        refine (if_neg (not_or.mpr ⟨not_not.mpr hFits.1, not_not.mpr hSize⟩)).trans ?_
        exact if_pos (Nat.lt_of_not_le hSmall)
      rw [hLarge]
      exact ⟨iff_of_false (show kStatusArgError ≠ kStatusOk by decide) fun h => hSmall h.2.2.1, rfl⟩
  · have hMisfit : inverse dsp a out = (out, kStatusSizeMismatch) := by
      refine if_pos ?_
      rw [Mat.hasSize_iff]
      exact not_and_or.mp hFits
    rw [hMisfit]
    exact ⟨iff_of_false mismatch_ne_ok fun h => hFits ⟨h.1, h.2.1⟩, rfl⟩

@[simp] theorem size_inverse [Zero F] : (inverse dsp a out).1.size = out.size :=
  (inverse_spec dsp a out).2

@[simp] theorem numRows_inverse [Zero F] : (inverse dsp a out).1.numRows = out.numRows :=
  congrArg Prod.fst (size_inverse dsp a out)

@[simp] theorem numCols_inverse [Zero F] : (inverse dsp a out).1.numCols = out.numCols :=
  congrArg Prod.snd (size_inverse dsp a out)

end Kf

/-- The sizes of the matrices that no phase gives new sizes, as rows and columns. -/
structure Sizes where
  xhat : Nat × Nat
  xhatminus : Nat × Nat
  u : Nat × Nat
  z : Nat × Nat
  p : Nat × Nat
  pminus : Nat × Nat
  f : Nat × Nat
  ft : Nat × Nat
  b : Nat × Nat
  h : Nat × Nat
  ht : Nat × Nat
  q : Nat × Nat
  r : Nat × Nat
  k : Nat × Nat

def KalmanFilter.sizes {F : Type} (kf : KalmanFilter F) : Sizes where
  xhat := kf.xhat.size
  xhatminus := kf.xhatminus.size
  u := kf.u.size
  z := kf.z.size
  p := kf.p.size
  pminus := kf.pminus.size
  f := kf.f.size
  ft := kf.ft.size
  b := kf.b.size
  h := kf.h.size
  ht := kf.ht.size
  q := kf.q.size
  r := kf.r.size
  k := kf.k.size

namespace Sizes

/-- What the products and the sum of `XhatMinusUpdate_` need. -/
def CarryState (XHAT U : Nat) (s : Sizes) : Prop :=
  if U > 0 then
    s.f = (XHAT, s.xhat.1) ∧ s.xhat.2 = 1 ∧ s.b = (XHAT, s.u.1) ∧ s.u.2 = 1 ∧
    s.xhatminus = (XHAT, 1)
  else s.f.2 = s.xhat.1 ∧ s.xhatminus = (s.f.1, s.xhat.2)

def CarryCovariance (s : Sizes) : Prop :=
  s.ft = (s.f.2, s.f.1) ∧ s.f.2 = s.p.1 ∧ s.pminus = (s.f.1, s.p.2) ∧ s.pminus.2 = s.ft.1

/-- What the sum at the end of `PminusUpdate_` needs. -/
def AddNoise (s : Sizes) : Prop := s.q = (s.pminus.1, s.ft.2) ∧ s.pminus.2 = s.ft.2

def Innovate (s : Sizes) : Prop :=
  s.ht = (s.h.2, s.h.1) ∧ s.h.2 = s.pminus.1 ∧ s.pminus.2 = s.ht.1 ∧ s.r = (s.h.1, s.ht.2)

def Gain (s : Sizes) : Prop := s.r.1 = s.r.2 ∧ s.k = (s.pminus.1, s.ht.2)

def CorrectState (s : Sizes) : Prop :=
  s.h.2 = s.xhatminus.1 ∧ s.xhatminus.2 = 1 ∧ s.z = (s.h.1, 1) ∧ s.k.2 = s.z.1 ∧
    s.xhatminus.1 = s.k.1 ∧ s.xhat = s.xhatminus

def CorrectCovariance (s : Sizes) : Prop := s.k.2 = s.h.1 ∧ s.h.2 = s.pminus.1

/-- What the difference at the end of `PUpdate_` needs. -/
def Subtract (s : Sizes) : Prop := s.pminus.1 = s.k.1 ∧ s.p = s.pminus

end Sizes

namespace KalmanFilter

open Kf

variable {F : Type} (dsp : RiscvDsp F) {kf : KalmanFilter F}

def AllOk (statuses : List Status) : Prop := ∀ status ∈ statuses, status = kStatusOk

theorem allOk_append (first later : List Status) :
    AllOk (first ++ later) ↔ AllOk first ∧ AllOk later := List.forall_mem_append

theorem sizes_measure [Zero F] (U Z : Nat) (kf : KalmanFilter F) :
    (kf.measure U Z).sizes = kf.sizes := by
  unfold measure
  split_ifs <;> rfl

section XhatMinus

variable (XHAT U : Nat)

theorem sizes_xhatMinusUpdate (kf : KalmanFilter F) :
    (kf.xhatMinusUpdate dsp XHAT U).1.sizes = kf.sizes := by
  unfold xhatMinusUpdate
  split_ifs
  · rfl
  · simp [sizes, setStatus]
  · simp [sizes, setStatus]

theorem allOk_xhatMinusUpdate (used : kf.skipEq1 = 0) :
    AllOk (kf.xhatMinusUpdate dsp XHAT U).2 ↔ kf.sizes.CarryState XHAT U := by
  by_cases hU : U > 0
  · simp [AllOk, xhatMinusUpdate, used, hU, setStatus, status_mul, status_add, sizes,
      Sizes.CarryState, Mat.size]
    tauto
  · simp [AllOk, xhatMinusUpdate, used, hU, setStatus, status_mul, sizes, Sizes.CarryState,
      Mat.size]

end XhatMinus

theorem sizes_pminusUpdate (kf : KalmanFilter F) : (kf.pminusUpdate dsp).1.sizes = kf.sizes := by
  unfold pminusUpdate
  split_ifs
  · rfl
  · simp [sizes, setStatus]

theorem allOk_pminusUpdate (used : kf.skipEq2 = 0) :
    AllOk (kf.pminusUpdate dsp).2 ↔ kf.sizes.CarryCovariance ∧ kf.sizes.AddNoise := by
  simp [AllOk, pminusUpdate, used, setStatus, status_transpose, status_mul, status_add, sizes,
    Sizes.CarryCovariance, Sizes.AddNoise, Mat.size]
  tauto

theorem sizes_setS (kf : KalmanFilter F) : (kf.setS dsp).1.sizes = kf.sizes := by
  simp [sizes, setS, setStatus]

theorem allOk_setS (kf : KalmanFilter F) : AllOk (kf.setS dsp).2 ↔ kf.sizes.Innovate := by
  simp [AllOk, setS, setStatus, status_transpose, status_mul, status_add, sizes, Sizes.Innovate,
    Mat.size]
  tauto

/-- The matrices that `SetK_` works on once it has the sum. -/
theorem work_setS (kf : KalmanFilter F) :
    (kf.setS dsp).1.s.size = kf.r.size ∧
      (kf.setS dsp).1.tempMatrix1.size = (kf.h.numRows, kf.ht.numCols) := by
  simp [setS, setStatus, Mat.size]

theorem sizes_setGain [Zero F] (kf : KalmanFilter F) : (kf.setGain dsp).1.sizes = kf.sizes := by
  simp [sizes, setGain, setStatus]

/-- Whether the vendor's routine inverts the sum. -/
def Inverts [Zero F] (kf : KalmanFilter F) : Prop :=
  kf.s.numRows * kf.s.numCols ≤ kMaxElems ∧
    (dsp.inv (srcCopy kf.s) kf.tempMatrix1.data kf.s.numRows).1 = kStatusOk

theorem allOk_setGain [Zero F] (kf : KalmanFilter F) :
    AllOk (kf.setGain dsp).2 ↔
      (kf.s.numRows = kf.s.numCols ∧ kf.tempMatrix1.size = kf.s.size ∧ kf.Inverts dsp) ∧
        kf.pminus.numCols = kf.ht.numRows ∧ kf.ht.numCols = kf.tempMatrix1.numRows ∧
          kf.k.size = (kf.pminus.numRows, kf.tempMatrix1.numCols) := by
  simp [AllOk, setGain, setStatus, status_mul, (inverse_spec dsp _ _).1, Inverts, Mat.size]

theorem sizes_setK [Zero F] (kf : KalmanFilter F) : (kf.setK dsp).1.sizes = kf.sizes := by
  unfold setK
  split_ifs
  · rfl
  · exact (sizes_setGain dsp _).trans (sizes_setS dsp kf)

theorem allOk_setK [Zero F] (used : kf.skipEq3 = 0) :
    AllOk (kf.setK dsp).2 ↔
      kf.sizes.Innovate ∧ kf.sizes.Gain ∧ (kf.setS dsp).1.Inverts dsp := by
  have hStatuses : (kf.setK dsp).2 = (kf.setS dsp).2 ++ ((kf.setS dsp).1.setGain dsp).2 := by
    simp only [setK, used, ne_eq, not_true, if_false]
  rw [hStatuses, allOk_append, allOk_setS]
  refine and_congr_right fun hInnovate => ?_
  obtain ⟨hS, hTemp⟩ := work_setS dsp kf
  have hHt : (kf.setS dsp).1.ht.size = kf.ht.size := congrArg Sizes.ht (sizes_setS dsp kf)
  have hPminus : (kf.setS dsp).1.pminus.size = kf.pminus.size :=
    congrArg Sizes.pminus (sizes_setS dsp kf)
  have hGain : (kf.setS dsp).1.k.size = kf.k.size := congrArg Sizes.k (sizes_setS dsp kf)
  rw [allOk_setGain]
  generalize (kf.setS dsp).1 = summed at *
  simp only [Sizes.Innovate, Sizes.Gain, sizes, Mat.size, Prod.mk.injEq] at *
  rw [hS.1, hS.2, hTemp.1, hTemp.2, hHt.1, hHt.2, hPminus.1, hPminus.2, hGain.1, hGain.2]
  constructor
  · rintro ⟨⟨hSquare, _, hInverts⟩, _, _, hGain⟩
    exact ⟨⟨hSquare, by omega, by omega⟩, hInverts⟩
  · rintro ⟨⟨hSquare, hGain⟩, hInverts⟩
    refine ⟨⟨hSquare, ⟨by omega, by omega⟩, hInverts⟩, by omega, by omega, by omega, by omega⟩

theorem sizes_xhatUpdate (kf : KalmanFilter F) : (kf.xhatUpdate dsp).1.sizes = kf.sizes := by
  unfold xhatUpdate
  split_ifs
  · rfl
  · simp [sizes, setStatus]

theorem allOk_xhatUpdate (used : kf.skipEq4 = 0) :
    AllOk (kf.xhatUpdate dsp).2 ↔ kf.sizes.CorrectState := by
  simp [AllOk, xhatUpdate, used, setStatus, status_mul, status_add, status_sub, sizes,
    Sizes.CorrectState, Mat.size]
  tauto

theorem sizes_pUpdate (kf : KalmanFilter F) : (kf.pUpdate dsp).1.sizes = kf.sizes := by
  unfold pUpdate
  split_ifs
  · rfl
  · simp [sizes, setStatus]

theorem allOk_pUpdate (used : kf.skipEq5 = 0) :
    AllOk (kf.pUpdate dsp).2 ↔ kf.sizes.CorrectCovariance ∧ kf.sizes.Subtract := by
  simp [AllOk, pUpdate, used, setStatus, status_mul, status_sub, sizes, Sizes.CorrectCovariance,
    Sizes.Subtract, Mat.size]
  tauto

def skips (kf : KalmanFilter F) : List UInt8 :=
  [kf.skipEq1, kf.skipEq2, kf.skipEq3, kf.skipEq4, kf.skipEq5]

def NoSkips (kf : KalmanFilter F) : Prop := kf.skips = [0, 0, 0, 0, 0]

/-- What the phases read of the settings, and leave as it is. -/
def control (kf : KalmanFilter F) : Bool × List UInt8 := (kf.takesMeasurement, kf.skips)

theorem control_measure [Zero F] (U Z : Nat) (kf : KalmanFilter F) :
    (kf.measure U Z).control = kf.control := by
  unfold measure
  split_ifs <;> rfl

theorem control_xhatMinusUpdate (XHAT U : Nat) (kf : KalmanFilter F) :
    (kf.xhatMinusUpdate dsp XHAT U).1.control = kf.control := by
  unfold xhatMinusUpdate
  split_ifs <;> simp [control, takesMeasurement, skips, setStatus]

theorem control_pminusUpdate (kf : KalmanFilter F) :
    (kf.pminusUpdate dsp).1.control = kf.control := by
  unfold pminusUpdate
  split_ifs <;> simp [control, takesMeasurement, skips, setStatus]

theorem control_setK [Zero F] (kf : KalmanFilter F) : (kf.setK dsp).1.control = kf.control := by
  unfold setK
  split_ifs <;> simp [control, takesMeasurement, skips, setS, setGain, setStatus]

theorem control_xhatUpdate (kf : KalmanFilter F) : (kf.xhatUpdate dsp).1.control = kf.control := by
  unfold xhatUpdate
  split_ifs <;> simp [control, takesMeasurement, skips, setStatus]

theorem control_pUpdate (kf : KalmanFilter F) : (kf.pUpdate dsp).1.control = kf.control := by
  unfold pUpdate
  split_ifs <;> simp [control, takesMeasurement, skips, setStatus]

theorem noSkips_iff {kf : KalmanFilter F} : kf.NoSkips ↔
    kf.skipEq1 = 0 ∧ kf.skipEq2 = 0 ∧ kf.skipEq3 = 0 ∧ kf.skipEq4 = 0 ∧ kf.skipEq5 = 0 := by
  simp only [NoSkips, skips, List.cons.injEq, and_true]

theorem noSkips_of_control {before after : KalmanFilter F} (same : after.control = before.control)
    (noSkips : before.NoSkips) : after.NoSkips := (congrArg Prod.snd same).trans noSkips

theorem kept_pminusUpdate (kf : KalmanFilter F) :
    (kf.pminusUpdate dsp).1.h = kf.h ∧ (kf.pminusUpdate dsp).1.r = kf.r := by
  unfold pminusUpdate
  split_ifs <;> simp [setStatus]

theorem kept_setS (kf : KalmanFilter F) :
    (kf.setS dsp).1.h = kf.h ∧ (kf.setS dsp).1.pminus = kf.pminus := by
  simp [setS, setStatus]

theorem kept_setGain [Zero F] (kf : KalmanFilter F) :
    (kf.setGain dsp).1.h = kf.h ∧ (kf.setGain dsp).1.pminus = kf.pminus := by
  simp [setGain, setStatus]

/-- The matrices that the covariance is computed with. -/
def matrices (kf : KalmanFilter F) : List (Mat F) :=
  [kf.p, kf.pminus, kf.f, kf.ft, kf.h, kf.ht, kf.q, kf.r, kf.k, kf.s, kf.tempMatrix, kf.tempMatrix1]

theorem matrices_measure [Zero F] (U Z : Nat) (kf : KalmanFilter F) :
    (kf.measure U Z).matrices = kf.matrices := by
  unfold measure
  split_ifs <;> rfl

theorem matrices_xhatMinusUpdate (XHAT U : Nat) (kf : KalmanFilter F) :
    (kf.xhatMinusUpdate dsp XHAT U).1.matrices = kf.matrices := by
  unfold xhatMinusUpdate
  split_ifs <;> simp [matrices, setStatus]

theorem matrices_xhatUpdate (kf : KalmanFilter F) :
    (kf.xhatUpdate dsp).1.matrices = kf.matrices := by
  unfold xhatUpdate
  split_ifs <;> simp [matrices, setStatus]

section Update

variable [FloatModel F] (XHAT U Z : Nat)

/-- What the first phase leaves as it is. -/
theorem carried_spec (kf : KalmanFilter F) :
    ((kf.measure U Z).xhatMinusUpdate dsp XHAT U).1.sizes = kf.sizes ∧
      ((kf.measure U Z).xhatMinusUpdate dsp XHAT U).1.control = kf.control ∧
      ((kf.measure U Z).xhatMinusUpdate dsp XHAT U).1.matrices = kf.matrices :=
  ⟨(sizes_xhatMinusUpdate dsp XHAT U _).trans (sizes_measure U Z kf),
    (control_xhatMinusUpdate dsp XHAT U _).trans (control_measure U Z kf),
    (matrices_xhatMinusUpdate dsp XHAT U _).trans (matrices_measure U Z kf)⟩

/-- The filter before the second half of `Update`. -/
def spread (kf : KalmanFilter F) : KalmanFilter F :=
  (((kf.measure U Z).xhatMinusUpdate dsp XHAT U).1.pminusUpdate dsp).1

theorem sizes_spread (kf : KalmanFilter F) : (kf.spread dsp XHAT U Z).sizes = kf.sizes :=
  (sizes_pminusUpdate dsp _).trans (kf.carried_spec dsp XHAT U Z).1

theorem control_spread (kf : KalmanFilter F) : (kf.spread dsp XHAT U Z).control = kf.control :=
  (control_pminusUpdate dsp _).trans (kf.carried_spec dsp XHAT U Z).2.1

theorem finish_spec (kf : KalmanFilter F) :
    (kf.finish XHAT).matStatus = kf.matStatus ∧ (kf.finish XHAT).sizes = kf.sizes ∧
      (kf.finish XHAT).control = kf.control := ⟨rfl, rfl, rfl⟩

theorem update_eq (kf : KalmanFilter F) :
    kf.update dsp XHAT U Z =
      (((kf.spread dsp XHAT U Z).correct dsp XHAT).1.finish XHAT,
        ((kf.measure U Z).xhatMinusUpdate dsp XHAT U).2 ++
          ((((kf.measure U Z).xhatMinusUpdate dsp XHAT U).1.pminusUpdate dsp).2 ++
            ((kf.spread dsp XHAT U Z).correct dsp XHAT).2)) := rfl

theorem correct_of_measured (measured : kf.takesMeasurement = true) :
    kf.correct dsp XHAT =
      ((((kf.setK dsp).1.xhatUpdate dsp).1.pUpdate dsp).1,
        (kf.setK dsp).2 ++ (((kf.setK dsp).1.xhatUpdate dsp).2 ++
          (((kf.setK dsp).1.xhatUpdate dsp).1.pUpdate dsp).2)) := if_pos measured

theorem sizes_correct (kf : KalmanFilter F) : (kf.correct dsp XHAT).1.sizes = kf.sizes := by
  unfold correct
  split_ifs
  · exact (sizes_pUpdate dsp _).trans ((sizes_xhatUpdate dsp _).trans (sizes_setK dsp kf))
  · rfl

theorem control_correct (kf : KalmanFilter F) : (kf.correct dsp XHAT).1.control = kf.control := by
  unfold correct
  split_ifs
  · exact (control_pUpdate dsp _).trans ((control_xhatUpdate dsp _).trans (control_setK dsp kf))
  · rfl

theorem sizes_update (kf : KalmanFilter F) : (kf.update dsp XHAT U Z).1.sizes = kf.sizes := by
  rw [update_eq, (finish_spec XHAT _).2.1, sizes_correct, sizes_spread]

theorem control_update (kf : KalmanFilter F) : (kf.update dsp XHAT U Z).1.control = kf.control := by
  rw [update_eq, (finish_spec XHAT _).2.2, control_correct, control_spread]

end Update

end KalmanFilter

end RmTest.Algorithms

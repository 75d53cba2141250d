import Mathlib.LinearAlgebra.Matrix.PosDef

/-! Covariance matrices over an ordered field: symmetric, and nonnegative as quadratic
forms. Predicting, measuring and flooring keep them so. -/
namespace Covariance

open Matrix

section Algebra

variable {K : Type*} [Field K] {state measure : Type*} [Fintype state] [Fintype measure]

/-- The covariance of a state carried on by `F`, with noise. -/
def predicted (F P Q : Matrix state state K) : Matrix state state K := F * P * Fᵀ + Q

/-- The covariance of what is measured through `H`, with noise. -/
def innovation (H : Matrix measure state K) (P : Matrix state state K)
    (R : Matrix measure measure K) :
    Matrix measure measure K := H * P * Hᵀ + R

variable [DecidableEq measure]

/-- The gain for what is measured. -/
noncomputable def gain (H : Matrix measure state K) (P : Matrix state state K)
    (R : Matrix measure measure K) : Matrix state measure K := P * Hᵀ * (innovation H P R)⁻¹

/-- The covariance after a measurement. -/
noncomputable def updated (H : Matrix measure state K) (P : Matrix state state K)
    (R : Matrix measure measure K) : Matrix state state K := P - gain H P R * H * P

theorem gain_mul_innovation (H : Matrix measure state K) (P : Matrix state state K)
    {R : Matrix measure measure K} (regular : IsUnit (innovation H P R)) :
    gain H P R * innovation H P R = P * Hᵀ := by
  rw [gain, Matrix.mul_assoc, nonsing_inv_mul _ ((isUnit_iff_isUnit_det _).mp regular),
    Matrix.mul_one]

/-- The short form of the update is the symmetric one. -/
theorem updated_eq [DecidableEq state] (H : Matrix measure state K) (P : Matrix state state K)
    {R : Matrix measure measure K} (regular : IsUnit (innovation H P R)) :
    updated H P R =
      (1 - gain H P R * H) * P * (1 - gain H P R * H)ᵀ + gain H P R * R * (gain H P R)ᵀ := by
  have hGain := gain_mul_innovation H P regular
  have hNoise : gain H P R * R = P * Hᵀ - gain H P R * (H * P * Hᵀ) := by
    rw [← hGain, innovation, Matrix.mul_add, add_sub_cancel_left]
  rw [hNoise, updated, transpose_sub, transpose_one, transpose_mul]
  simp only [Matrix.sub_mul, Matrix.mul_sub, Matrix.one_mul, Matrix.mul_one, Matrix.mul_assoc]
  abel

end Algebra

section Order

variable {K : Type*} [Field K] [PartialOrder K] [StarRing K] [TrivialStar K] {state measure : Type*}
  [Fintype state] [Fintype measure]

omit [PartialOrder K] [Fintype state] [Fintype measure] in
theorem conjTranspose_eq (A : Matrix state measure K) : Aᴴ = Aᵀ := by
  ext i j
  exact star_trivial _

/-- A covariance seen through a matrix. -/
theorem posSemidef_congruence (A : Matrix measure state K) {P : Matrix state state K}
    (hP : P.PosSemidef) : (A * P * Aᵀ).PosSemidef := by
  have hSeen := hP.mul_mul_conjTranspose_same A
  rwa [conjTranspose_eq] at hSeen

variable [StarOrderedRing K]

theorem posSemidef_predicted (F : Matrix state state K) {P Q : Matrix state state K}
    (hP : P.PosSemidef) (hQ : Q.PosSemidef) : (predicted F P Q).PosSemidef :=
  (posSemidef_congruence F hP).add hQ

theorem posDef_innovation (H : Matrix measure state K) {P : Matrix state state K}
    {R : Matrix measure measure K} (hP : P.PosSemidef) (hR : R.PosDef) :
    (innovation H P R).PosDef :=
  PosDef.posSemidef_add (posSemidef_congruence H hP) hR

theorem posSemidef_updated [DecidableEq measure] (H : Matrix measure state K)
    {P : Matrix state state K} {R : Matrix measure measure K} (hP : P.PosSemidef)
    (hR : R.PosDef) : (updated H P R).PosSemidef := by
  classical
  rw [updated_eq H P (posDef_innovation H hP hR).isUnit]
  exact (posSemidef_congruence _ hP).add (posSemidef_congruence _ hR.posSemidef)

omit [TrivialStar K] [Fintype state] in
/-- Raising entries on the diagonal. -/
theorem posSemidef_raised [DecidableEq state] {P : Matrix state state K} (hP : P.PosSemidef)
    {raised : state → K} (nonneg : 0 ≤ raised) : (P + diagonal raised).PosSemidef :=
  hP.add (PosSemidef.diagonal nonneg)

end Order

end Covariance

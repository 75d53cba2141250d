import RmTest.Library.Covariance
import Mathlib.LinearAlgebra.Span.Basic

/-! Linear estimation over the second moments of random quantities. An estimate whose error
is uncorrelated with everything that may be used is the best that can be made of it, and
predicting and measuring with the gain of the covariances keep it so. -/

/-- A mean of random quantities: linear, and nonnegative on squares. -/
structure Expectation (Ω K : Type) [Field K] [PartialOrder K] where
  mean : (Ω → K) →ₗ[K] K
  square_nonneg : ∀ f, 0 ≤ mean (f * f)

namespace Expectation

open Matrix

/-- A weighted sum over finitely many outcomes. -/
def ofWeights {Ω K : Type} [Fintype Ω] [Field K] [LinearOrder K] [IsStrictOrderedRing K]
    (weight : Ω → K) (nonneg : ∀ ω, 0 ≤ weight ω) : Expectation Ω K where
  mean := ∑ ω, weight ω • LinearMap.proj ω
  square_nonneg f := by
    simp only [LinearMap.sum_apply, LinearMap.smul_apply, LinearMap.proj_apply, smul_eq_mul]
    exact Finset.sum_nonneg fun ω _ => mul_nonneg (nonneg ω) (mul_self_nonneg (f ω))

variable {Ω K : Type} [Field K] {ι κ μ : Type}

/-- An entry of a random vector. -/
def entry (a : Ω → ι → K) (i : ι) : Ω → K := fun ω => a ω i

/-- A matrix applied to a random vector. -/
def apply [Fintype ι] (M : Matrix κ ι K) (a : Ω → ι → K) : Ω → κ → K := fun ω => M *ᵥ a ω

theorem entry_apply [Fintype ι] (M : Matrix κ ι K) (a : Ω → ι → K) (i : κ) :
    entry (apply M a) i = ∑ j, M i j • entry a j := by
  funext ω
  simp only [entry, apply, Finset.sum_apply, Pi.smul_apply, smul_eq_mul, mulVec, dotProduct]

/-- The entries are in a space of random quantities. -/
def Within (V : Submodule K (Ω → K)) (a : Ω → ι → K) : Prop := ∀ i, entry a i ∈ V

/-- What the entries span. -/
def span (a : Ω → ι → K) : Submodule K (Ω → K) := Submodule.span K (Set.range (entry a))

section Within

variable {V W : Submodule K (Ω → K)} {a b : Ω → ι → K}

theorem within_span (a : Ω → ι → K) : Within (span a) a := fun i =>
  Submodule.subset_span (Set.mem_range_self i)

theorem Within.mono (h : Within V a) (le : V ≤ W) : Within W a := fun i => le (h i)

theorem Within.add (ha : Within V a) (hb : Within V b) : Within V (a + b) := fun i =>
  V.add_mem (ha i) (hb i)

theorem Within.sub (ha : Within V a) (hb : Within V b) : Within V (a - b) := fun i =>
  V.sub_mem (ha i) (hb i)

theorem Within.apply [Fintype ι] (ha : Within V a) (M : Matrix κ ι K) :
    Within V (Expectation.apply M a) := fun i => by
  rw [entry_apply]
  exact V.sum_mem fun j _ => V.smul_mem _ (ha j)

end Within

variable [PartialOrder K] (E : Expectation Ω K)

/-- The random quantities that are uncorrelated with all of a space. -/
def orth (V : Submodule K (Ω → K)) : Submodule K (Ω → K) where
  carrier := { g | ∀ f ∈ V, E.mean (f * g) = 0 }
  add_mem' hg hg' f hf := by rw [mul_add, map_add, hg f hf, hg' f hf, add_zero]
  zero_mem' f _ := by rw [mul_zero, map_zero]
  smul_mem' c g hg f hf := by rw [mul_smul_comm, map_smul, hg f hf, smul_zero]

theorem orth_mono {V W : Submodule K (Ω → K)} (le : V ≤ W) : E.orth W ≤ E.orth V :=
  fun _ hg f hf => hg f (le hf)

/-- Uncorrelated with a larger space. -/
theorem mem_orth_sup_span {V : Submodule K (Ω → K)} {a : Ω → ι → K} {g : Ω → K}
    (hV : g ∈ E.orth V) (ha : ∀ i, E.mean (entry a i * g) = 0) : g ∈ E.orth (V ⊔ span a) := by
  -- the quantities that are uncorrelated with `g` are a space as well
  let uncorrelated : Submodule K (Ω → K) := LinearMap.ker (E.mean ∘ₗ LinearMap.mulRight K g)
  have hSpan : V ⊔ span a ≤ uncorrelated := by
    refine sup_le (fun f hf => hV f hf) (Submodule.span_le.mpr ?_)
    rintro f ⟨i, rfl⟩
    exact ha i
  exact fun f hf => hSpan hf

/-- The second moments of two random vectors. -/
def moment (a : Ω → ι → K) (b : Ω → κ → K) : Matrix ι κ K :=
  fun i j => E.mean (entry a i * entry b j)

theorem transpose_moment (a : Ω → ι → K) (b : Ω → κ → K) : (E.moment a b)ᵀ = E.moment b a := by
  ext i j
  exact congrArg E.mean (mul_comm _ _)

theorem moment_add_left (a a' : Ω → ι → K) (b : Ω → κ → K) :
    E.moment (a + a') b = E.moment a b + E.moment a' b := by
  ext i j
  have hEntry : entry (a + a') i * entry b j = entry a i * entry b j + entry a' i * entry b j :=
    add_mul (entry a i) (entry a' i) (entry b j)
  rw [moment, hEntry, map_add]
  rfl

theorem moment_sub_left (a a' : Ω → ι → K) (b : Ω → κ → K) :
    E.moment (a - a') b = E.moment a b - E.moment a' b := by
  rw [eq_sub_iff_add_eq, ← moment_add_left, sub_add_cancel]

theorem moment_apply_left [Fintype ι] (M : Matrix μ ι K) (a : Ω → ι → K) (b : Ω → κ → K) :
    E.moment (apply M a) b = M * E.moment a b := by
  ext i j
  rw [moment, entry_apply, Finset.sum_mul, map_sum, Matrix.mul_apply]
  refine Finset.sum_congr rfl fun l _ => ?_
  rw [smul_mul_assoc, map_smul]
  rfl

theorem moment_add_right (a : Ω → ι → K) (b b' : Ω → κ → K) :
    E.moment a (b + b') = E.moment a b + E.moment a b' := by
  rw [← transpose_moment, moment_add_left, transpose_add, transpose_moment, transpose_moment]

theorem moment_sub_right (a : Ω → ι → K) (b b' : Ω → κ → K) :
    E.moment a (b - b') = E.moment a b - E.moment a b' := by
  rw [← transpose_moment, moment_sub_left, transpose_sub, transpose_moment, transpose_moment]

theorem moment_apply_right [Fintype κ] (M : Matrix μ κ K) (a : Ω → ι → K) (b : Ω → κ → K) :
    E.moment a (apply M b) = E.moment a b * Mᵀ := by
  rw [← transpose_moment, moment_apply_left, transpose_mul, transpose_moment]

theorem moment_eq_zero {V : Submodule K (Ω → K)} {a : Ω → ι → K} {b : Ω → κ → K}
    (ha : Within V a) (hb : Within (E.orth V) b) : E.moment a b = 0 := by
  ext i j
  exact hb j _ (ha i)

theorem moment_eq_zero' {V : Submodule K (Ω → K)} {a : Ω → ι → K} {b : Ω → κ → K}
    (ha : Within V a) (hb : Within (E.orth V) b) : E.moment b a = 0 := by
  rw [← transpose_moment, E.moment_eq_zero ha hb, transpose_zero]

section Estimates

variable [StarRing K] [TrivialStar K]

/-- The moments of a random vector are a covariance. -/
theorem posSemidef_moment [Fintype ι] (a : Ω → ι → K) : (E.moment a a).PosSemidef := by
  rw [posSemidef_iff_dotProduct_mulVec]
  refine ⟨?_, fun x => ?_⟩
  · rw [IsHermitian, Covariance.conjTranspose_eq, transpose_moment]
  · have hSquare : star x ⬝ᵥ (E.moment a a *ᵥ x) =
        E.mean ((∑ i, x i • entry a i) * ∑ j, x j • entry a j) := by
      rw [Finset.sum_mul, map_sum, star_trivial, dotProduct]
      refine Finset.sum_congr rfl fun i _ => ?_
      rw [smul_mul_assoc, map_smul, Finset.mul_sum, map_sum, mulVec, dotProduct, smul_eq_mul]
      refine congrArg _ (Finset.sum_congr rfl fun j _ => ?_)
      rw [mul_smul_comm, map_smul, smul_eq_mul, mul_comm]
      rfl
    rw [hSquare]
    exact E.square_nonneg _

end Estimates

/-- What is known is part of what has happened, and the error of the estimate is uncorrelated
with it. -/
structure Estimates (past known : Submodule K (Ω → K)) (truth estimate : Ω → ι → K) : Prop where
  known_le : known ≤ past
  truth_past : Within past truth
  estimate_known : Within known estimate
  error_orth : Within (E.orth known) (estimate - truth)

namespace Estimates

variable {E} {past known : Submodule K (Ω → K)} {truth estimate : Ω → ι → K}

theorem error_past (h : E.Estimates past known truth estimate) :
    Within past (estimate - truth) := (h.estimate_known.mono h.known_le).sub h.truth_past

/-- The error of any other estimate has the moments of the difference on top. -/
theorem moment_other (h : E.Estimates past known truth estimate) {other : Ω → ι → K}
    (hOther : Within known other) :
    E.moment (other - truth) (other - truth) =
      E.moment (other - estimate) (other - estimate) +
        E.moment (estimate - truth) (estimate - truth) := by
  have hSplit : other - truth = other - estimate + (estimate - truth) :=
    (sub_add_sub_cancel ..).symm
  have hKnown : Within known (other - estimate) := hOther.sub h.estimate_known
  rw [hSplit, moment_add_left, moment_add_right, moment_add_right,
    E.moment_eq_zero hKnown h.error_orth, E.moment_eq_zero' hKnown h.error_orth, add_zero, zero_add]

/-- Carried on by `F` with a known control and noise. -/
theorem predict [Fintype ι] (h : E.Estimates past known truth estimate) (F : Matrix ι ι K)
    {control noise : Ω → ι → K} (hControl : Within known control)
    (fresh : Within (E.orth past) noise) :
    E.Estimates (past ⊔ span noise) known (apply F truth + control + noise)
        (apply F estimate + control) ∧
      E.moment (apply F estimate + control - (apply F truth + control + noise))
          (apply F estimate + control - (apply F truth + control + noise)) =
        Covariance.predicted F (E.moment (estimate - truth) (estimate - truth))
          (E.moment noise noise) := by
  have hError : apply F estimate + control - (apply F truth + control + noise) =
      apply F (estimate - truth) - noise := by
    funext ω
    simp only [apply, Pi.sub_apply, Pi.add_apply, mulVec_sub]
    abel
  have hPast : Within past (apply F (estimate - truth)) := h.error_past.apply F
  refine ⟨⟨h.known_le.trans le_sup_left, ?_, (h.estimate_known.apply F).add hControl, ?_⟩, ?_⟩
  · exact (((h.truth_past.apply F).add (hControl.mono h.known_le)).mono le_sup_left).add
      ((within_span noise).mono le_sup_right)
  · rw [hError]
    exact (h.error_orth.apply F).sub (fresh.mono (E.orth_mono h.known_le))
  · rw [hError, moment_sub_left, moment_sub_right, moment_sub_right, E.moment_eq_zero hPast fresh,
      E.moment_eq_zero' hPast fresh, moment_apply_left, moment_apply_right, Covariance.predicted,
      sub_zero, zero_sub, sub_neg_eq_add, Matrix.mul_assoc]

/-- More may have happened. -/
theorem mono_past (h : E.Estimates past known truth estimate) {later : Submodule K (Ω → K)}
    (le : past ≤ later) : E.Estimates later known truth estimate :=
  ⟨h.known_le.trans le, h.truth_past.mono le, h.estimate_known, h.error_orth⟩

/-- Nothing made of what is known has a smaller error. -/
theorem best [Fintype ι] [StarRing K] [TrivialStar K] (h : E.Estimates past known truth estimate)
    {other : Ω → ι → K} (hOther : Within known other) :
    (E.moment (other - truth) (other - truth) -
      E.moment (estimate - truth) (estimate - truth)).PosSemidef := by
  rw [h.moment_other hOther, add_sub_cancel_right]
  exact E.posSemidef_moment _

section Correct

variable [Fintype ι] [Fintype κ] [DecidableEq κ] {H : Matrix κ ι K} {noise : Ω → κ → K}

omit [PartialOrder K] [Fintype κ] [DecidableEq κ] in
/-- What is measured beyond what was expected. -/
theorem residual_eq (H : Matrix κ ι K) (truth estimate : Ω → ι → K) (noise : Ω → κ → K) :
    apply H truth + noise - apply H estimate = noise - apply H (estimate - truth) := by
  funext ω
  simp only [apply, Pi.sub_apply, Pi.add_apply, mulVec_sub]
  abel

omit [Fintype κ] [DecidableEq κ] in
/-- The moments of the residual, with the error before and with itself. -/
theorem moment_residual (h : E.Estimates past known truth estimate)
    (fresh : Within (E.orth past) noise) :
    E.moment (apply H truth + noise - apply H estimate) (estimate - truth) =
        -(H * E.moment (estimate - truth) (estimate - truth)) ∧
      E.moment (apply H truth + noise - apply H estimate)
          (apply H truth + noise - apply H estimate) =
        Covariance.innovation H (E.moment (estimate - truth) (estimate - truth))
          (E.moment noise noise) := by
  have hPast : Within past (apply H (estimate - truth)) := h.error_past.apply H
  rw [residual_eq]
  constructor
  · rw [moment_sub_left, E.moment_eq_zero' h.error_past fresh, moment_apply_left, zero_sub]
  · rw [moment_sub_left, moment_sub_right, moment_sub_right, E.moment_eq_zero hPast fresh,
      E.moment_eq_zero' hPast fresh, moment_apply_left, moment_apply_right, Covariance.innovation,
      sub_zero, zero_sub, sub_neg_eq_add, add_comm, Matrix.mul_assoc]

/-- The gain of the covariances is the one that leaves the error uncorrelated with the
residual. -/
theorem moment_residual_corrected (h : E.Estimates past known truth estimate)
    (fresh : Within (E.orth past) noise) {R : Matrix κ κ K} (hR : E.moment noise noise = R)
    {P : Matrix ι ι K} (hP : E.moment (estimate - truth) (estimate - truth) = P)
    (regular : IsUnit (Covariance.innovation H P R)) :
    E.moment (apply H truth + noise - apply H estimate)
      (estimate - truth +
        apply (Covariance.gain H P R) (apply H truth + noise - apply H estimate)) = 0 := by
  obtain ⟨hCross, hSelf⟩ := h.moment_residual (H := H) fresh
  rw [hP] at hCross
  rw [hP, hR] at hSelf
  have hSymmetric : Pᵀ = P := by rw [← hP, transpose_moment]
  have hGain := congrArg Matrix.transpose (Covariance.gain_mul_innovation H P regular)
  rw [transpose_mul, transpose_mul, transpose_transpose, hSymmetric, ← hSelf,
    transpose_moment] at hGain
  rw [moment_add_right, moment_apply_right, hCross, hGain, neg_add_cancel]

/-- The estimate after a measurement, with the gain of the covariances. -/
noncomputable def corrected (H : Matrix κ ι K) (P : Matrix ι ι K) (R : Matrix κ κ K)
    (measured : Ω → κ → K) (estimate : Ω → ι → K) : Ω → ι → K :=
  estimate + apply (Covariance.gain H P R) (measured - apply H estimate)

/-- Corrected by a measurement with the gain of the covariances. -/
theorem correct (h : E.Estimates past known truth estimate) (fresh : Within (E.orth past) noise)
    {R : Matrix κ κ K} (hR : E.moment noise noise = R)
    {P : Matrix ι ι K} (hP : E.moment (estimate - truth) (estimate - truth) = P)
    (regular : IsUnit (Covariance.innovation H P R)) :
    E.Estimates (past ⊔ span noise) (known ⊔ span (apply H truth + noise)) truth
        (corrected H P R (apply H truth + noise) estimate) ∧
      E.moment (corrected H P R (apply H truth + noise) estimate - truth)
          (corrected H P R (apply H truth + noise) estimate - truth) =
        Covariance.updated H P R := by
  have hCross := (h.moment_residual (H := H) fresh).1
  have hUncorrelated := h.moment_residual_corrected fresh hR hP regular
  have hError : corrected H P R (apply H truth + noise) estimate - truth = estimate - truth +
      apply (Covariance.gain H P R) (apply H truth + noise - apply H estimate) :=
    add_sub_right_comm ..
  have hResidual : Within (E.orth known) (apply H truth + noise - apply H estimate) := by
    rw [residual_eq]
    exact (fresh.mono (E.orth_mono h.known_le)).sub (h.error_orth.apply H)
  have hMeasured : Within (past ⊔ span noise) (apply H truth + noise) :=
    ((h.truth_past.apply H).mono le_sup_left).add ((within_span noise).mono le_sup_right)
  have hExpected : Within known (apply H estimate) := h.estimate_known.apply H
  have hValue := sub_add_cancel (apply H truth + noise) (apply H estimate)
  constructor
  · refine ⟨?_, h.truth_past.mono le_sup_left, ?_, ?_⟩
    · refine sup_le (h.known_le.trans le_sup_left) (Submodule.span_le.mpr ?_)
      rintro f ⟨i, rfl⟩
      exact hMeasured i
    · exact (h.estimate_known.mono le_sup_left).add
        ((((within_span _).mono le_sup_right).sub (hExpected.mono le_sup_left)).apply _)
    · rw [hError]
      have hKnown := h.error_orth.add (hResidual.apply (Covariance.gain H P R))
      have hMoment : E.moment (apply H truth + noise) (estimate - truth +
          apply (Covariance.gain H P R) (apply H truth + noise - apply H estimate)) = 0 := by
        rw [← hValue, moment_add_left, hValue, hUncorrelated, E.moment_eq_zero hExpected hKnown,
          add_zero]
      exact fun i => E.mem_orth_sup_span (hKnown i) fun j => congrFun (congrFun hMoment j) i
  · rw [hP] at hCross
    have hLeft := congrArg Matrix.transpose hUncorrelated
    rw [transpose_moment, transpose_zero] at hLeft
    rw [hError, moment_add_right, moment_apply_right, hLeft, Matrix.zero_mul, add_zero,
      moment_add_left, hP, moment_apply_left, hCross, Matrix.mul_neg, ← sub_eq_add_neg,
      Covariance.updated, Matrix.mul_assoc]

end Correct

end Estimates

end Expectation

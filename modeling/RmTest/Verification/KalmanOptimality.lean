import RmTest.Verification.KalmanEstimate

/-! The filter in a linear world with noise. If the noises have the covariances that the
filter is given and are new at every step, `P` is the covariance of the error of the
estimate, and no estimate made of the measurements has a smaller one. -/
namespace RmTest.Algorithms

open Matrix Covariance Expectation

def Buffer.ofVector {n : Nat} (v : Fin n → ℚ) : Buffer ℚ := fun i =>
  if h : i < n then v ⟨i, h⟩ else 0

theorem Buffer.vector_ofVector {n : Nat} (v : Fin n → ℚ) : (ofVector v).vector n = v := by
  funext i
  exact dif_pos i.isLt

namespace KalmanFilter

/-- What happens up to the next update, over all outcomes: the settings, and the noises of the
process and of the sensors. -/
structure Scene (Ω : Type) (XHAT Z : Nat) where
  input : Inputs XHAT Z
  process : Ω → Fin XHAT → ℚ
  sensor : Ω → Fin Z → ℚ

namespace Scene

variable {Ω : Type} {XHAT Z : Nat}

/-- What the controls add, whatever the outcome. -/
def control (U : Nat) (scene : Scene Ω XHAT Z) : Ω → Fin XHAT → ℚ :=
  fun _ => scene.input.b.matrix XHAT U *ᵥ scene.input.controlVector.vector U

def moved (U : Nat) (scene : Scene Ω XHAT Z) (truth : Ω → Fin XHAT → ℚ) : Ω → Fin XHAT → ℚ :=
  apply (scene.input.f.matrix XHAT XHAT) truth + scene.control U + scene.process

/-- What the sensors show of the truth. -/
def measured (scene : Scene Ω XHAT Z) (truth : Ω → Fin XHAT → ℚ) : Ω → Fin Z → ℚ :=
  apply (scene.input.h.matrix Z XHAT) truth + scene.sensor

/-- The settings with the measurement of an outcome. -/
def inputAt (scene : Scene Ω XHAT Z) (truth : Ω → Fin XHAT → ℚ) (ω : Ω) : Inputs XHAT Z :=
  { scene.input with measuredVector := .ofVector (scene.measured truth ω) }

/-- Whether the update takes the measurement. -/
def Takes (scene : Scene Ω XHAT Z) : Prop :=
  scene.input.measurementValidNum ≠ 0 ∨ scene.input.useAutoAdjustment = 0

instance (scene : Scene Ω XHAT Z) : Decidable scene.Takes := inferInstanceAs (Decidable (_ ∨ _))

end Scene

/-- The truth and the filter for every outcome, with everything that has happened and what is
known of it: constants, and the measurements that the filter took. -/
structure World (Ω : Type) (XHAT : Nat) where
  truth : Ω → Fin XHAT → ℚ
  filter : Ω → KalmanFilter ℚ
  past : Submodule ℚ (Ω → ℚ)
  known : Submodule ℚ (Ω → ℚ)

namespace World

variable {Ω : Type} {XHAT : Nat}

def constants (Ω : Type) : Submodule ℚ (Ω → ℚ) := Submodule.span ℚ {fun _ => 1}

/-- The same filter for every outcome, before the first measurement. -/
def start (kf : KalmanFilter ℚ) (truth : Ω → Fin XHAT → ℚ) : World Ω XHAT where
  truth := truth
  filter _ := kf
  past := constants Ω ⊔ span truth
  known := constants Ω

def estimate (w : World Ω XHAT) : Ω → Fin XHAT → ℚ := fun ω => (w.filter ω).xhat.data.vector XHAT

def error (w : World Ω XHAT) : Ω → Fin XHAT → ℚ := w.estimate - w.truth

variable (dsp : RiscvDsp ℚ) (U : Nat) {Z : Nat}

/-- The truth moves on, the sensors measure it, and the filter is updated. -/
noncomputable def move (w : World Ω XHAT) (scene : Scene Ω XHAT Z) : World Ω XHAT where
  truth := scene.moved U w.truth
  filter ω := (updateWith dsp XHAT U Z (w.filter ω) (scene.inputAt (scene.moved U w.truth) ω)).1
  past := w.past ⊔ span scene.process ⊔ span scene.sensor
  known := if scene.Takes then w.known ⊔ span (scene.measured (scene.moved U w.truth)) else w.known

/-- The noises are uncorrelated with all that has happened and with each other, they have the
covariances that the filter is given, and no variance is kept from falling. -/
structure White (E : Expectation Ω ℚ) (w : World Ω XHAT) (scene : Scene Ω XHAT Z) : Prop where
  process : Within (E.orth w.past) scene.process
  sensor : Within (E.orth (w.past ⊔ span scene.process)) scene.sensor
  q : E.moment scene.process scene.process = scene.input.q.matrix XHAT XHAT
  r : E.moment scene.sensor scene.sensor = scene.input.r.matrix Z Z
  flat : ∀ i < XHAT, scene.input.stateMinVariance i = 0

variable (E : Expectation Ω ℚ)

/-- What is known of the filters after some updates. -/
structure Tracks (w : World Ω XHAT) : Prop where
  valid : ∀ ω, (w.filter ω).Valid XHAT U Z
  constant : (fun _ => 1) ∈ w.known
  estimates : E.Estimates w.past w.known w.truth w.estimate
  covariance : ∀ ω, (w.filter ω).p.data.matrix XHAT XHAT = E.moment w.error w.error

variable {dsp U E}

/-- The estimate before the measurement. -/
def carried (U : Nat) (w : World Ω XHAT) (scene : Scene Ω XHAT Z) : Ω → Fin XHAT → ℚ :=
  apply (scene.input.f.matrix XHAT XHAT) w.estimate + scene.control U

/-- The covariance before the measurement. -/
def carriedCovariance (E : Expectation Ω ℚ) (w : World Ω XHAT) (scene : Scene Ω XHAT Z) :
    Matrix (Fin XHAT) (Fin XHAT) ℚ :=
  predicted (scene.input.f.matrix XHAT XHAT) (E.moment w.error w.error)
    (scene.input.q.matrix XHAT XHAT)

/-- The gain that the filters use. -/
noncomputable def gainOf (E : Expectation Ω ℚ) (w : World Ω XHAT) (scene : Scene Ω XHAT Z) :
    Matrix (Fin XHAT) (Fin Z) ℚ :=
  gain (scene.input.h.matrix Z XHAT) (w.carriedCovariance E scene) (scene.input.r.matrix Z Z)

/-- All filters make the same step, each with its own measurement. -/
theorem filter_move (exact : dsp.Exact) (small : Z * Z ≤ Kf.kMaxElems) {w : World Ω XHAT}
    (tracks : Tracks U (Z := Z) E w) {scene : Scene Ω XHAT Z} (white : White E w scene) :
    (∀ ω, ((w.move dsp U scene).filter ω).p.data.matrix XHAT XHAT =
        if scene.Takes then
          updated (scene.input.h.matrix Z XHAT) (w.carriedCovariance E scene)
            (scene.input.r.matrix Z Z)
        else w.carriedCovariance E scene) ∧
      (w.move dsp U scene).estimate =
        if scene.Takes then
          w.carried U scene +
            apply (w.gainOf E scene) (scene.measured (scene.moved U w.truth) -
              apply (scene.input.h.matrix Z XHAT) (w.carried U scene))
        else w.carried U scene := by
  have hOutcome (ω : Ω) := update_exact exact small
    (valid_given (tracks.valid ω) (scene.inputAt (scene.moved U w.truth) ω))
    scene.input.q_posSemidef scene.input.r_posDef white.flat
  have hTakes (ω : Ω) :
      ((w.filter ω).given (scene.inputAt (scene.moved U w.truth) ω)).takesMeasurement = true ↔
        scene.Takes := by
    simp [takesMeasurement, given, Scene.inputAt, Scene.Takes]
  have hPredicted (ω : Ω) :
      ((w.filter ω).given (scene.inputAt (scene.moved U w.truth) ω)).predictedOf XHAT =
        w.carriedCovariance E scene := by
    rw [carriedCovariance, ← tracks.covariance ω]
    rfl
  constructor
  · intro ω
    obtain ⟨hP, -⟩ := hOutcome ω
    rw [hPredicted] at hP
    simp only [hTakes ω] at hP
    exact hP
  · funext ω
    obtain ⟨-, hX⟩ := hOutcome ω
    rw [hPredicted] at hX
    simp only [hTakes ω] at hX
    by_cases hMeasured : scene.Takes
    · have hMeasuredVector : ((w.filter ω).given
          (scene.inputAt (scene.moved U w.truth) ω)).measuredVector.vector Z =
            scene.measured (scene.moved U w.truth) ω := Buffer.vector_ofVector _
      rw [if_pos hMeasured, hMeasuredVector] at hX
      rw [if_pos hMeasured]
      exact hX
    · rw [if_neg hMeasured] at hX ⊢
      exact hX

theorem constant_mem {known : Submodule ℚ (Ω → ℚ)} (constant : (fun _ => 1) ∈ known)
    (v : Fin XHAT → ℚ) : Within known fun _ => v := fun i => by
  have hScaled : entry (fun _ : Ω => v) i = v i • fun _ => (1 : ℚ) := by
    funext ω
    exact (mul_one _).symm
  rw [hScaled]
  exact known.smul_mem _ constant

theorem tracks_move (exact : dsp.Exact) (small : Z * Z ≤ Kf.kMaxElems) {w : World Ω XHAT}
    (tracks : Tracks U (Z := Z) E w) {scene : Scene Ω XHAT Z} (white : White E w scene) :
    Tracks U (Z := Z) E (w.move dsp U scene) := by
  obtain ⟨hCovariance, hEstimate⟩ := filter_move exact small tracks white
  have hControl : Within w.known (scene.control U) := constant_mem tracks.constant _
  -- the prediction, in which the truth gets its noise
  obtain ⟨hCarried, hCarriedMoment⟩ := tracks.estimates.predict (scene.input.f.matrix XHAT XHAT)
    hControl white.process
  have hMoment : E.moment (w.carried U scene - scene.moved U w.truth)
      (w.carried U scene - scene.moved U w.truth) = w.carriedCovariance E scene := by
    rw [carriedCovariance, ← white.q]
    exact hCarriedMoment
  have hValid : ∀ ω, ((w.move dsp U scene).filter ω).Valid XHAT U Z := fun ω =>
    valid_update exact small (valid_given (tracks.valid ω) _) scene.input.q_posSemidef
      scene.input.r_posDef
  by_cases hTakes : scene.Takes
  · simp only [if_pos hTakes] at hCovariance hEstimate
    have hRegular : IsUnit (innovation (scene.input.h.matrix Z XHAT) (w.carriedCovariance E scene)
        (scene.input.r.matrix Z Z)) := by
      have hPosSemidef := E.posSemidef_moment (w.carried U scene - scene.moved U w.truth)
      rw [hMoment] at hPosSemidef
      exact (posDef_innovation _ hPosSemidef scene.input.r_posDef).isUnit
    obtain ⟨hCorrected, hCorrectedMoment⟩ := hCarried.correct white.sensor white.r hMoment hRegular
    refine ⟨hValid, ?_, ?_, fun ω => (hCovariance ω).trans ?_⟩
    · simp only [move, if_pos hTakes]
      exact Submodule.mem_sup_left tracks.constant
    · rw [hEstimate]
      simp only [move, if_pos hTakes]
      exact hCorrected
    · rw [error, hEstimate]
      exact hCorrectedMoment.symm
  · simp only [if_neg hTakes] at hCovariance hEstimate
    refine ⟨hValid, ?_, ?_, fun ω => (hCovariance ω).trans ?_⟩
    · simp only [move, if_neg hTakes]
      exact tracks.constant
    · rw [hEstimate]
      simp only [move, if_neg hTakes]
      exact hCarried.mono_past le_sup_left
    · rw [error, hEstimate]
      exact hMoment.symm

/-- The filter is right about its error, and is the best that can be done. -/
structure Best (E : Expectation Ω ℚ) (w : World Ω XHAT) : Prop where
  known : Within w.known w.estimate
  unbiased : ∀ i, E.mean (entry w.error i) = 0
  covariance : ∀ ω, (w.filter ω).p.data.matrix XHAT XHAT = E.moment w.error w.error
  best : ∀ other, Within w.known other →
    (E.moment (other - w.truth) (other - w.truth) - E.moment w.error w.error).PosSemidef

theorem Tracks.isBest {w : World Ω XHAT} (tracks : Tracks U (Z := Z) E w) : Best E w where
  known := tracks.estimates.estimate_known
  unbiased i := by
    have hOrth := tracks.estimates.error_orth i _ tracks.constant
    have hOne : (fun _ : Ω => (1 : ℚ)) * entry w.error i = entry w.error i := by
      funext ω
      exact one_mul _
    rw [← hOne]
    exact hOrth
  covariance := tracks.covariance
  best _ hOther := tracks.estimates.best hOther

theorem mem_orth_constants {g : Ω → ℚ} (centred : E.mean g = 0) : g ∈ E.orth (constants Ω) := by
  intro f hf
  obtain ⟨c, rfl⟩ := Submodule.mem_span_singleton.mp hf
  have hScaled : (c • fun _ : Ω => (1 : ℚ)) * g = c • g := by
    funext ω
    exact congrArg (· * g ω) (mul_one c)
  rw [hScaled, map_smul, centred, smul_zero]

theorem tracks_start {kf : KalmanFilter ℚ} {truth : Ω → Fin XHAT → ℚ}
    (sizes : kf.sizes = (constructed XHAT U Z : KalmanFilter ℚ).sizes) (noSkips : kf.NoSkips)
    (centred : ∀ i, E.mean (entry (start kf truth).error i) = 0)
    (spread : kf.p.data.matrix XHAT XHAT =
      E.moment (start kf truth).error (start kf truth).error) :
    Tracks U (Z := Z) E (start kf truth) := by
  have hKnown : Within (constants Ω) fun _ : Ω => kf.xhat.data.vector XHAT :=
    constant_mem (Submodule.mem_span_singleton_self _) _
  have hOrth : Within (E.orth (constants Ω)) (start kf truth).error := fun i =>
    mem_orth_constants (centred i)
  exact ⟨fun _ => ⟨sizes, noSkips, spread ▸ E.posSemidef_moment _⟩,
    Submodule.mem_span_singleton_self _,
    ⟨le_sup_left, (within_span truth).mono le_sup_right, hKnown, hOrth⟩, fun _ => spread⟩

end World

open World

variable {Ω : Type} {XHAT U Z : Nat} {dsp : RiscvDsp ℚ} {E : Expectation Ω ℚ}

/-- In every run through a world with white noise, `P` is the covariance of the error, and no
affine function of the measurements that were taken estimates better. -/
theorem estimate_optimal (exact : dsp.Exact) (small : Z * Z ≤ 64) {kf : KalmanFilter ℚ}
    (sizes : kf.sizes = (constructed XHAT U Z : KalmanFilter ℚ).sizes) (noSkips : kf.NoSkips)
    {truth : Ω → Fin XHAT → ℚ} (centred : ∀ i, E.mean (entry (start kf truth).error i) = 0)
    (spread : kf.p.data.matrix XHAT XHAT =
      E.moment (start kf truth).error (start kf truth).error)
    {scenes : List (Scene Ω XHAT Z)}
    (white : Run.Along (move dsp U) (White E) (start kf truth) scenes) :
    Run.Always (move dsp U) (Best E) (start kf truth) scenes := by
  have hStart : Tracks U (Z := Z) E (start kf truth) := tracks_start sizes noSkips centred spread
  have hKept : ∀ w (scene : Scene Ω XHAT Z), Tracks U (Z := Z) E w → White E w scene →
      Tracks U (Z := Z) E (w.move dsp U scene) :=
    fun _ _ hTracks hWhite => tracks_move exact small hTracks hWhite
  exact Run.always_of_along hKept (fun _ hTracks => hTracks.isBest) hStart white

/-- Two fair coins. -/
def coins : Expectation (Bool × Bool) ℚ := ofWeights (fun _ => 1 / 4) fun _ => by norm_num

theorem mean_coins (f : Bool × Bool → ℚ) :
    coins.mean f = (f (true, true) + f (true, false) + f (false, true) + f (false, false)) / 4 := by
  simp only [coins, ofWeights, LinearMap.add_apply, LinearMap.smul_apply, LinearMap.proj_apply,
    smul_eq_mul, Fintype.sum_prod_type, Fintype.sum_bool]
  ring

def sign (heads : Bool) : ℚ := if heads then 1 else -1

/-- A step of a random walk that is measured with noise. -/
def coinScene : Scene (Bool × Bool) 1 1 where
  input := unitInputs
  process ω _ := sign ω.1
  sensor ω _ := sign ω.2

theorem white_coinScene : White coins (start blindFilter fun _ _ => 0) coinScene := by
  have hSelf (a : Bool × Bool → Fin 1 → ℚ) (unit : ∀ i, coins.mean (entry a i * entry a i) = 1) :
      coins.moment a a = Buffer.matrix (fun _ => 1) 1 1 := by
    ext i j
    rw [Subsingleton.elim j i]
    exact unit i
  refine ⟨fun i => ?_, fun i => ?_, hSelf _ fun i => ?_, hSelf _ fun i => ?_, fun _ _ => rfl⟩
  · refine mem_orth_sup_span _ (mem_orth_constants ?_) fun j => ?_
    · simp [mean_coins, entry, coinScene, sign]
    · simp [mean_coins, entry]
  · refine mem_orth_sup_span _ (mem_orth_sup_span _ (mem_orth_constants ?_) fun j => ?_) fun j => ?_
    · simp [mean_coins, entry, coinScene, sign]
    · simp [mean_coins, entry]
    · simp [mean_coins, entry, coinScene, sign]
  · norm_num [mean_coins, entry, coinScene, sign]
  · norm_num [mean_coins, entry, coinScene, sign]

theorem estimate_optimal_coins :
    Run.Always (move exactDsp 0) (Best coins) (start blindFilter fun _ _ => 0) [coinScene] := by
  have hError : (start blindFilter fun (_ : Bool × Bool) (_ : Fin 1) => (0 : ℚ)).error = 0 := by
    funext ω i
    exact sub_zero _
  have hSizes : blindFilter.sizes = (constructed 1 0 1 : KalmanFilter ℚ).sizes := rfl
  refine estimate_optimal exact_exactDsp (by decide) hSizes rfl (fun i => ?_) ?_
    ⟨white_coinScene, trivial⟩
  · rw [hError]
    exact map_zero _
  · rw [hError]
    ext i j
    simp [moment, entry, Buffer.matrix, blindFilter, constructed, Mat.zeros, mean_coins]

end KalmanFilter

end RmTest.Algorithms

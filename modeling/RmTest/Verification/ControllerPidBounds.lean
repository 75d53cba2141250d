import RmTest.Algorithms.ControllerPid
import RmTest.Library.Run

/-! The bounds that `ControllerPid` keeps in exact arithmetic. The output is limited last
and the integral just before it is added up, and all other stages leave both alone. -/
namespace RmTest.Algorithms.ControllerPid

open FloatModel

/-- A stage that neither changes the configuration nor the integral. -/
def KeepsIntegral (stage : ControllerPid ℚ → ControllerPid ℚ) : Prop :=
  ∀ p, (stage p).config = p.config ∧ (stage p).iOut = p.iOut

theorem KeepsIntegral.comp {first second : ControllerPid ℚ → ControllerPid ℚ}
    (hSecond : KeepsIntegral second) (hFirst : KeepsIntegral first) :
    KeepsIntegral fun p => second (first p) := by
  intro p
  obtain ⟨hConfig, hIntegral⟩ := hFirst p
  obtain ⟨hConfig', hIntegral'⟩ := hSecond (first p)
  exact ⟨hConfig'.trans hConfig, hIntegral'.trans hIntegral⟩

theorem KeepsIntegral.when {stage : ControllerPid ℚ → ControllerPid ℚ} (h : KeepsIntegral stage)
    (flag : UInt8) : KeepsIntegral (when flag stage) := by
  intro p
  unfold ControllerPid.when
  split_ifs
  · exact h p
  · exact ⟨rfl, rfl⟩

theorem keepsIntegral_differentiate (p : ControllerPid ℚ) (sample difference : ℚ) :
    (p.differentiate sample difference).config = p.config ∧
      (p.differentiate sample difference).iOut = p.iOut := by
  unfold differentiate
  split_ifs <;> exact ⟨rfl, rfl⟩

theorem keepsIntegral_computeTerms : KeepsIntegral computeTerms := by
  intro p
  exact keepsIntegral_differentiate _ _ _

theorem keepsIntegral_trapezoidIntegral : KeepsIntegral trapezoidIntegral := fun _ => ⟨rfl, rfl⟩

theorem keepsIntegral_changingIntegrationRate : KeepsIntegral changingIntegrationRate := by
  intro p
  simp only [changingIntegrationRate]
  split_ifs <;> exact ⟨rfl, rfl⟩

theorem keepsIntegral_derivativeOnMeasurement : KeepsIntegral derivativeOnMeasurement := by
  intro p
  unfold derivativeOnMeasurement
  split_ifs
  · exact ⟨rfl, rfl⟩
  · exact keepsIntegral_differentiate _ _ _

theorem keepsIntegral_derivativeFilter : KeepsIntegral derivativeFilter := by
  intro p
  simp only [derivativeFilter]
  split_ifs <;> exact ⟨rfl, rfl⟩

theorem keepsIntegral_stopAtSaturation : KeepsIntegral stopAtSaturation := by
  intro p
  unfold stopAtSaturation
  split_ifs <;> exact ⟨rfl, rfl⟩

theorem keepsIntegral_outputFilter : KeepsIntegral outputFilter := by
  intro p
  simp only [outputFilter]
  split_ifs <;> exact ⟨rfl, rfl⟩

theorem keepsIntegral_limits : KeepsIntegral fun p => p.outputLimit.proportionLimit :=
  fun _ => ⟨rfl, rfl⟩

theorem pidErrorHandle_keeps (p : ControllerPid ℚ) :
    p.pidErrorHandle.config = p.config ∧ p.pidErrorHandle.iOut = p.iOut ∧
      p.pidErrorHandle.output = p.output := by
  unfold pidErrorHandle
  split_ifs <;> exact ⟨rfl, rfl, rfl⟩

/-- The stages up to the limit of the integral. -/
def beforeLimit (p : ControllerPid ℚ) : ControllerPid ℚ :=
  when Improve.derivativeFilter derivativeFilter
    (when Improve.derivativeOnMeasurement derivativeOnMeasurement
      (when Improve.changingIntegrationRate changingIntegrationRate
        (when Improve.trapezoidIntegral trapezoidIntegral p.computeTerms)))

/-- The stages after it. -/
def afterLimit (p : ControllerPid ℚ) : ControllerPid ℚ :=
  (when Improve.outputFilter outputFilter p).outputLimit.proportionLimit

theorem control_eq (p : ControllerPid ℚ) :
    p.control = afterLimit (when Improve.integralLimit integralLimit p.beforeLimit).sumTerms := rfl

theorem keepsIntegral_beforeLimit : KeepsIntegral beforeLimit :=
  (keepsIntegral_derivativeFilter.when _).comp
    ((keepsIntegral_derivativeOnMeasurement.when _).comp
      ((keepsIntegral_changingIntegrationRate.when _).comp
        ((keepsIntegral_trapezoidIntegral.when _).comp keepsIntegral_computeTerms)))

theorem keepsIntegral_afterLimit : KeepsIntegral afterLimit :=
  keepsIntegral_limits.comp (keepsIntegral_outputFilter.when _)

/-- Both bounds. -/
structure Bounded (p : ControllerPid ℚ) : Prop where
  output_le : |p.out| ≤ p.config.maxOut
  integral_le : hasFlag p.config.improve Improve.integralLimit = true →
    0 < p.config.integralLimit → |p.iOut| ≤ p.config.integralLimit

theorem abs_limitTo_le (value : ℚ) {maxOut : ℚ} (nonneg : 0 ≤ maxOut) :
    |limitTo value maxOut| ≤ maxOut := by
  rw [abs_le]
  simp only [limitTo, lt_rat, decide_eq_true_eq]
  split_ifs <;> constructor <;> linarith

/-- What the limit leaves can be added up. -/
theorem integralLimit_le {p : ControllerPid ℚ} (positive : 0 < p.config.integralLimit)
    (bound : |p.iOut| ≤ p.config.integralLimit) :
    p.integralLimit.config = p.config ∧
      |p.integralLimit.iOut + p.integralLimit.iTerm| ≤ p.config.integralLimit := by
  obtain ⟨hConfig, hIntegral⟩ := keepsIntegral_stopAtSaturation p
  have hTerm : p.stopAtSaturation.iTerm = p.iTerm ∨ p.stopAtSaturation.iTerm = 0 := by
    unfold stopAtSaturation
    split_ifs
    · exact Or.inr rfl
    · exact Or.inl rfl
  simp only [ControllerPid.integralLimit, lt_rat, decide_eq_true_eq, if_pos positive]
  split_ifs with hLow hHigh hHigh
  · linarith
  · exact ⟨hConfig, by simp [abs_of_pos positive]⟩
  · exact ⟨hConfig, by simp [abs_of_pos positive]⟩
  · refine ⟨hConfig, ?_⟩
    rcases hTerm with hSame | hZero
    · rw [hIntegral, hSame, abs_le]
      exact ⟨not_lt.mp hLow, not_lt.mp hHigh⟩
    · rwa [hIntegral, hZero, add_zero]

theorem config_integralLimit (p : ControllerPid ℚ) : p.integralLimit.config = p.config := by
  have hConfig := (keepsIntegral_stopAtSaturation p).1
  simp only [ControllerPid.integralLimit]
  split_ifs <;> exact hConfig

theorem config_when {stage : ControllerPid ℚ → ControllerPid ℚ} {p : ControllerPid ℚ}
    (kept : (stage p).config = p.config) (flag : UInt8) :
    (when flag stage p).config = p.config := by
  unfold ControllerPid.when
  split_ifs
  · exact kept
  · rfl

theorem abs_out_afterLimit_le {p : ControllerPid ℚ} (nonneg : 0 ≤ p.config.maxOut) :
    |p.afterLimit.out| ≤ p.config.maxOut := by
  have hConfig := config_when (keepsIntegral_outputFilter p).1 Improve.outputFilter
  have hOutput : p.afterLimit.out =
      limitTo (when Improve.outputFilter outputFilter p).output
        (when Improve.outputFilter outputFilter p).config.maxOut := rfl
  rw [hOutput, hConfig]
  exact abs_limitTo_le _ nonneg

/-- Outside the dead band. -/
theorem bounded_control {p : ControllerPid ℚ} (nonneg : 0 ≤ p.config.maxOut) (bounded : p.Bounded) :
    p.control.config = p.config ∧ p.control.Bounded := by
  obtain ⟨hBefore, hIntegral⟩ := keepsIntegral_beforeLimit p
  obtain ⟨hAfter, hSummed⟩ := keepsIntegral_afterLimit
    (when Improve.integralLimit integralLimit p.beforeLimit).sumTerms
  have hSum : (when Improve.integralLimit integralLimit p.beforeLimit).sumTerms.config = p.config :=
    (config_when (config_integralLimit p.beforeLimit) Improve.integralLimit).trans hBefore
  have hConfig : p.control.config = p.config := hAfter.trans hSum
  refine ⟨hConfig, ?_, ?_⟩
  · rw [hConfig, control_eq, ← hSum]
    exact abs_out_afterLimit_le (by rwa [hSum])
  · intro hOn hPositive
    rw [hConfig] at hOn hPositive ⊢
    have hLimited : when Improve.integralLimit integralLimit p.beforeLimit =
        p.beforeLimit.integralLimit := by
      rw [ControllerPid.when, hBefore, if_pos hOn]
    have hBound : |p.beforeLimit.iOut| ≤ p.beforeLimit.config.integralLimit := by
      rw [hIntegral, hBefore]
      exact bounded.integral_le hOn hPositive
    have hNext := (integralLimit_le (by rwa [hBefore]) hBound).2
    rw [control_eq, hSummed, hLimited, ← hBefore]
    exact hNext

/-- A call of the controller, with a limit of the output that is not negative, and with
the readings of the clock. -/
inductive Call where
  | configure (config : ControllerPidConfig ℚ) (nonneg : 0 ≤ config.maxOut)
  | reset
  | update (target now : ℚ) (cycles hz : UInt32)

def step (p : ControllerPid ℚ) : Call → ControllerPid ℚ
  | .configure config _ => p.configure config
  | .reset => p.reset
  | .update target now cycles hz => (p.update target now cycles hz).1

theorem bounded_runtimeReset {config : ControllerPidConfig ℚ} (nonneg : 0 ≤ config.maxOut) :
    (runtimeReset config).Bounded where
  output_le := by
    rw [show (runtimeReset config).out = 0 from rfl, abs_zero]
    exact nonneg
  integral_le _ hPositive := by
    rw [show (runtimeReset config).iOut = 0 from rfl, abs_zero]
    exact hPositive.le

/-- The parts of the state that the bounds are about. -/
theorem Bounded.of_eq {p q : ControllerPid ℚ} (bounded : p.Bounded) (config : q.config = p.config)
    (output : q.output = p.output) (integral : q.iOut = p.iOut) : q.Bounded where
  output_le := by
    rw [out, output, config]
    exact bounded.output_le
  integral_le hOn hPositive := by
    rw [config] at hOn hPositive ⊢
    rw [integral]
    exact bounded.integral_le hOn hPositive

theorem bounded_update {p : ControllerPid ℚ} (nonneg : 0 ≤ p.config.maxOut) (bounded : p.Bounded)
    (target now : ℚ) (cycles hz : UInt32) :
    (p.update target now cycles hz).1.config = p.config ∧
      (p.update target now cycles hz).1.Bounded := by
  have hHandled : (when Improve.errorHandle pidErrorHandle p).config = p.config ∧
      (when Improve.errorHandle pidErrorHandle p).iOut = p.iOut ∧
      (when Improve.errorHandle pidErrorHandle p).output = p.output := by
    unfold ControllerPid.when
    split_ifs
    · exact pidErrorHandle_keeps p
    · exact ⟨rfl, rfl, rfl⟩
  obtain ⟨hConfig, hIntegral, hOutput⟩ := hHandled
  have hKept := bounded.of_eq hConfig hOutput hIntegral
  simp only [update]
  generalize when Improve.errorHandle pidErrorHandle p = handled at hConfig hKept ⊢
  split_ifs
  · exact ⟨hConfig, hKept.of_eq rfl rfl rfl⟩
  · have hReady : ControllerPid.Bounded
        { handled with
          dt := (getDeltaTS handled.dwtCnt cycles hz).1
          dwtCnt := (getDeltaTS (F := ℚ) handled.dwtCnt cycles hz).2
          measure := now
          ref := target
          err := target - now } := hKept.of_eq rfl rfl rfl
    obtain ⟨hControlled, hControl⟩ := bounded_control (hConfig ▸ nonneg) hReady
    exact ⟨hControlled.trans hConfig, hControl.of_eq rfl rfl rfl⟩
  · exact ⟨hConfig, hKept.of_eq rfl rfl rfl⟩

theorem bounded_step (p : ControllerPid ℚ) (call : Call) (h : 0 ≤ p.config.maxOut ∧ p.Bounded) :
    0 ≤ (p.step call).config.maxOut ∧ (p.step call).Bounded := by
  obtain ⟨hNonneg, hBounded⟩ := h
  cases call with
  | configure config nonneg => exact ⟨nonneg, bounded_runtimeReset nonneg⟩
  | reset => exact ⟨hNonneg, bounded_runtimeReset hNonneg⟩
  | update target now cycles hz =>
      obtain ⟨hConfig, hUpdated⟩ := bounded_update hNonneg hBounded target now cycles hz
      refine ⟨?_, hUpdated⟩
      rw [step, hConfig]
      exact hNonneg

/-- In every state of every run the output is within its limit, and the integral within
its own when that is turned on. -/
theorem always_bounded (calls : List Call) : Run.Always step Bounded (zeroed ℚ) calls := by
  apply (Run.always_iff step Bounded (zeroed ℚ) calls).mpr
  intro before _
  exact (Run.foldl_invariant bounded_step ⟨le_rfl, bounded_runtimeReset le_rfl⟩ before).2

end RmTest.Algorithms.ControllerPid

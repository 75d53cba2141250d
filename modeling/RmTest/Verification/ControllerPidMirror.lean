import RmTest.Library.Mirror
import RmTest.Verification.ControllerPidBounds

/-! Two controllers in opposite directions. Every stage treats a controller and its
mirror image alike, with the exception of the error handling, which compares the output
itself and not its magnitude. -/
namespace RmTest.Algorithms.ControllerPid

open FloatModel

/-- The controller in the opposite direction, with counters of its own. -/
def mirror (errorCount : UInt64) (motorBlocked : Bool) (p : ControllerPid ℚ) : ControllerPid ℚ :=
  { p with
    ref := -p.ref
    measure := -p.measure
    lastMeasure := -p.lastMeasure
    err := -p.err
    lastErr := -p.lastErr
    lastITerm := -p.lastITerm
    pOut := -p.pOut
    iOut := -p.iOut
    dOut := -p.dOut
    iTerm := -p.iTerm
    output := -p.output
    lastOutput := -p.lastOutput
    lastDOut := -p.lastDOut
    errorCount := errorCount
    motorBlocked := motorBlocked }

/-- A configuration with a limit of the output and without the least-squares filter. -/
structure TwoSided (config : ControllerPidConfig ℚ) : Prop where
  positive : 0 < config.maxOut
  small : config.olsOrder ≤ 2

/-- A stage that makes of the mirror image the mirror image of what it makes. -/
def Symmetric (stage : ControllerPid ℚ → ControllerPid ℚ) : Prop :=
  ∀ count blocked p, TwoSided p.config →
    stage (mirror count blocked p) = mirror count blocked (stage p)

theorem Symmetric.comp {first second : ControllerPid ℚ → ControllerPid ℚ}
    (hSecond : Symmetric second) (hFirst : Symmetric first)
    (kept : ∀ p, (first p).config = p.config) :
    Symmetric fun p => second (first p) := by
  intro count blocked p hConfig
  have hNext : TwoSided (first p).config := by
    rw [kept p]
    exact hConfig
  exact (congrArg second (hFirst count blocked p hConfig)).trans
    (hSecond count blocked (first p) hNext)

theorem Symmetric.when {stage : ControllerPid ℚ → ControllerPid ℚ} (h : Symmetric stage)
    (flag : UInt8) : Symmetric (when flag stage) := by
  intro count blocked p hConfig
  have hMask : (mirror count blocked p).config = p.config := rfl
  rw [ControllerPid.when, ControllerPid.when, hMask]
  split_ifs
  · exact h count blocked p hConfig
  · rfl

theorem differentiate_mirror {p : ControllerPid ℚ} (small : p.config.olsOrder ≤ 2)
    (count : UInt64) (blocked : Bool) (sample difference : ℚ) :
    (mirror count blocked p).differentiate (-sample) (-difference) =
      mirror count blocked (p.differentiate sample difference) := by
  have hDifference : ¬p.config.olsOrder > 2 := UInt16.not_lt.mpr small
  simp only [differentiate, mirror, hDifference, if_false, mul_neg, neg_div]

theorem symmetric_computeTerms : Symmetric computeTerms := by
  intro count blocked p hConfig
  have hTerms := differentiate_mirror (p := { p with
    pOut := p.config.kp * p.err
    iTerm := p.config.ki * p.err * p.dt }) hConfig.small count blocked p.err (p.err - p.lastErr)
  rw [computeTerms, computeTerms, ← hTerms]
  simp only [mirror, neg_mul, mul_neg]
  congr 1
  ring

theorem symmetric_trapezoidIntegral : Symmetric trapezoidIntegral := by
  intro count blocked p _
  simp only [trapezoidIntegral, mirror]
  congr 1
  ring

theorem symmetric_changingIntegrationRate : Symmetric changingIntegrationRate := by
  intro count blocked p _
  simp only [changingIntegrationRate, mirror, SignSymmetric.fabs_neg, neg_mul_neg]
  split_ifs <;> simp

theorem symmetric_derivativeOnMeasurement : Symmetric derivativeOnMeasurement := by
  intro count blocked p hConfig
  have hStep := differentiate_mirror hConfig.small count blocked (-p.measure)
    (p.lastMeasure - p.measure)
  have hTime : (mirror count blocked p).dt = p.dt := rfl
  have hDifference : (mirror count blocked p).lastMeasure - (mirror count blocked p).measure =
      -(p.lastMeasure - p.measure) := by
    simp only [mirror]
    ring
  rw [derivativeOnMeasurement, derivativeOnMeasurement, hTime, hDifference]
  split_ifs
  · rfl
  · exact hStep

theorem symmetric_derivativeFilter : Symmetric derivativeFilter := by
  intro count blocked p _
  cases hDenom : le (p.config.derivativeLpfRc + p.dt) 0 with
  | true => simp only [derivativeFilter, mirror, hDenom, if_true]
  | false =>
      simp only [derivativeFilter, mirror, hDenom, Bool.false_eq_true, if_false]
      congr 1
      ring

theorem symmetric_outputFilter : Symmetric outputFilter := by
  intro count blocked p _
  cases hDenom : le (p.config.outputLpfRc + p.dt) 0 with
  | true => simp only [outputFilter, mirror, hDenom, if_true]
  | false =>
      simp only [outputFilter, mirror, hDenom, Bool.false_eq_true, if_false]
      congr 1
      ring

theorem symmetric_sumTerms : Symmetric sumTerms := by
  intro count blocked p _
  simp only [sumTerms, mirror]
  congr 1 <;> ring

theorem limitTo_neg {maxOut : ℚ} (positive : 0 < maxOut) (value : ℚ) :
    limitTo (-value) maxOut = -limitTo value maxOut := by
  simp only [limitTo, lt_rat, decide_eq_true_eq]
  split_ifs <;> linarith

theorem symmetric_limits : Symmetric fun p => p.outputLimit.proportionLimit := by
  intro count blocked p hConfig
  simp only [outputLimit, proportionLimit, mirror, limitTo_neg hConfig.positive]

theorem symmetric_stopAtSaturation : Symmetric stopAtSaturation := by
  intro count blocked p _
  have hSum : -p.pOut + -p.iOut + -p.dOut = -(p.pOut + p.iOut + p.dOut) := by ring
  simp only [stopAtSaturation, mirror, neg_mul_neg, hSum, SignSymmetric.fabs_neg]
  split_ifs
  · simp
  · rfl

theorem symmetric_integralLimit : Symmetric integralLimit := by
  intro count blocked p hConfig
  have hStop := symmetric_stopAtSaturation count blocked p hConfig
  have hSum : (mirror count blocked p).iOut + (mirror count blocked p).iTerm =
      -(p.iOut + p.iTerm) := by
    simp only [mirror]
    ring
  have hLimit : (mirror count blocked p).config = p.config := rfl
  simp only [ControllerPid.integralLimit, hStop, hSum, hLimit, lt_rat, decide_eq_true_eq]
  generalize p.stopAtSaturation = stopped
  generalize p.iOut + p.iTerm = tempIout
  by_cases hOn : 0 < p.config.integralLimit
  · rw [if_pos hOn, if_pos hOn]
    by_cases hHigh : p.config.integralLimit < tempIout
    · have hNotLow : ¬tempIout < -p.config.integralLimit := by linarith
      have hNotHigh : ¬p.config.integralLimit < -tempIout := by linarith
      have hLow : -tempIout < -p.config.integralLimit := by linarith
      simp only [if_pos hHigh, if_pos hLow, if_neg hNotLow, if_neg hNotHigh, mirror, neg_zero]
    · have hNotLow : ¬-tempIout < -p.config.integralLimit := by linarith
      rw [if_neg hHigh, if_neg hNotLow]
      by_cases hLow : tempIout < -p.config.integralLimit
      · have hUp : p.config.integralLimit < -tempIout := by linarith
        simp only [if_pos hLow, if_pos hUp, mirror, neg_zero, neg_neg]
      · have hNotUp : ¬p.config.integralLimit < -tempIout := by linarith
        simp only [if_neg hLow, if_neg hNotUp]
  · rw [if_neg hOn, if_neg hOn]

/-- The configuration before the last limits. -/
theorem config_summed (p : ControllerPid ℚ) :
    (when Improve.integralLimit integralLimit p.beforeLimit).config = p.config :=
  (config_when (config_integralLimit p.beforeLimit) _).trans (keepsIntegral_beforeLimit p).1

theorem config_control (p : ControllerPid ℚ) : p.control.config = p.config :=
  (keepsIntegral_afterLimit _).1.trans (config_summed p)

theorem KeepsIntegral.config {stage : ControllerPid ℚ → ControllerPid ℚ} (h : KeepsIntegral stage)
    (p : ControllerPid ℚ) : (stage p).config = p.config := (h p).1

theorem symmetric_beforeLimit : Symmetric beforeLimit := by
  have hTrapezoid := (symmetric_trapezoidIntegral.when Improve.trapezoidIntegral).comp
    symmetric_computeTerms keepsIntegral_computeTerms.config
  have hTrapezoidKeeps := (keepsIntegral_trapezoidIntegral.when Improve.trapezoidIntegral).comp
    keepsIntegral_computeTerms
  have hRate := (symmetric_changingIntegrationRate.when Improve.changingIntegrationRate).comp
    hTrapezoid hTrapezoidKeeps.config
  have hRateKeeps := (keepsIntegral_changingIntegrationRate.when
    Improve.changingIntegrationRate).comp hTrapezoidKeeps
  have hMeasured := (symmetric_derivativeOnMeasurement.when Improve.derivativeOnMeasurement).comp
    hRate hRateKeeps.config
  have hMeasuredKeeps := (keepsIntegral_derivativeOnMeasurement.when
    Improve.derivativeOnMeasurement).comp hRateKeeps
  exact (symmetric_derivativeFilter.when Improve.derivativeFilter).comp hMeasured
    hMeasuredKeeps.config

theorem symmetric_afterLimit : Symmetric afterLimit :=
  symmetric_limits.comp (symmetric_outputFilter.when _) (keepsIntegral_outputFilter.when _).config

theorem symmetric_control : Symmetric control := by
  have hLimit := (symmetric_integralLimit.when Improve.integralLimit).comp symmetric_beforeLimit
    keepsIntegral_beforeLimit.config
  exact symmetric_afterLimit.comp (symmetric_sumTerms.comp hLimit config_summed) config_summed

/-- The inputs of a call in place, with the time step that the clock gives. -/
def withInputs (p : ControllerPid ℚ) (target now : ℚ) (cycles hz : UInt32) : ControllerPid ℚ :=
  { p with
    dt := (getDeltaTS p.dwtCnt cycles hz).1
    dwtCnt := (getDeltaTS (F := ℚ) p.dwtCnt cycles hz).2
    measure := now
    ref := target
    err := target - now }

/-- A call after the error handling. -/
def measured (p : ControllerPid ℚ) (target now : ℚ) (cycles hz : UInt32) : ControllerPid ℚ :=
  let ready := p.withInputs target now cycles hz
  if le ready.dt 0 then { p with dt := ready.dt, dwtCnt := ready.dwtCnt }
  else if lt ready.config.deadband (fabs ready.err) then ready.control.remember
  else ready.remember

theorem update_eq (p : ControllerPid ℚ) (target now : ℚ) (cycles hz : UInt32) :
    p.update target now cycles hz =
      ((when Improve.errorHandle pidErrorHandle p).measured target now cycles hz,
        ((when Improve.errorHandle pidErrorHandle p).measured target now cycles hz).output) := by
  simp only [update]
  generalize when Improve.errorHandle pidErrorHandle p = handled
  cases hTime : le (getDeltaTS handled.dwtCnt cycles hz).1 (0 : ℚ) with
  | true => simp only [measured, withInputs, hTime, if_true]
  | false =>
      cases hBand : lt handled.config.deadband (fabs (target - now)) <;>
        simp only [measured, withInputs, hTime, hBand, Bool.false_eq_true, if_false, if_true]

theorem withInputs_mirror (p : ControllerPid ℚ) (count : UInt64) (blocked : Bool)
    (target now : ℚ) (cycles hz : UInt32) :
    (mirror count blocked p).withInputs (-target) (-now) cycles hz =
      mirror count blocked (p.withInputs target now cycles hz) := by
  have hErr : -target - -now = -(target - now) := by ring
  rw [withInputs, hErr]
  rfl

theorem measured_mirror {p : ControllerPid ℚ} (sided : TwoSided p.config) (count : UInt64)
    (blocked : Bool) (target now : ℚ) (cycles hz : UInt32) :
    (mirror count blocked p).measured (-target) (-now) cycles hz =
      mirror count blocked (p.measured target now cycles hz) := by
  have hReady := withInputs_mirror p count blocked target now cycles hz
  have hControl := symmetric_control count blocked (p.withInputs target now cycles hz) sided
  have hError : fabs (mirror count blocked (p.withInputs target now cycles hz)).err =
      fabs (p.withInputs target now cycles hz).err := SignSymmetric.fabs_neg _
  have hTime : (mirror count blocked (p.withInputs target now cycles hz)).dt =
      (p.withInputs target now cycles hz).dt := rfl
  have hBand : (mirror count blocked (p.withInputs target now cycles hz)).config.deadband =
      (p.withInputs target now cycles hz).config.deadband := rfl
  simp only [measured, hReady, hTime, hBand, hError, hControl]
  cases le (p.withInputs target now cycles hz).dt (0 : ℚ) with
  | true => rfl
  | false =>
      cases lt (p.withInputs target now cycles hz).config.deadband
        (fabs (p.withInputs target now cycles hz).err) <;> rfl

/-- A call leaves the counters as the error handling left them. -/
theorem counters_measured {p : ControllerPid ℚ} (sided : TwoSided p.config) (target now : ℚ)
    (cycles hz : UInt32) :
    (p.measured target now cycles hz).motorBlocked = p.motorBlocked := by
  -- A controller is the mirror image of its own mirror image.
  have hTwice : mirror p.errorCount p.motorBlocked (mirror 0 false p) = p := by
    simp only [mirror, neg_neg]
  have hMeasured := measured_mirror (p := mirror 0 false p) sided p.errorCount p.motorBlocked
    (-target) (-now) cycles hz
  rw [hTwice, neg_neg, neg_neg] at hMeasured
  rw [hMeasured]
  rfl

theorem config_measured {p : ControllerPid ℚ} (target now : ℚ) (cycles hz : UInt32) :
    (p.measured target now cycles hz).config = p.config := by
  simp only [measured]
  split_ifs
  · rfl
  · exact config_control (p.withInputs target now cycles hz)
  · rfl

/-- The error handling is about to count past its limit. -/
structure Stalls (p : ControllerPid ℚ) : Prop where
  flag_on : hasFlag p.config.improve Improve.errorHandle = true
  driven : p.config.maxOut / 1000 ≤ p.output
  wanted : 1 / 10000 ≤ |p.ref|
  missed : 95 / 100 < |p.ref - p.measure| / |p.ref|
  counted : p.errorCount + 1 > 500

/-- The error handling changes the counters only, and reports a stall exactly when it
counts past its limit. -/
theorem handled_eq {p : ControllerPid ℚ} (clear : p.motorBlocked = false) :
    ∃ count blocked, when Improve.errorHandle pidErrorHandle p =
      { p with errorCount := count, motorBlocked := blocked } ∧ (blocked = true ↔ p.Stalls) := by
  have hSame : p = { p with errorCount := p.errorCount, motorBlocked := false } := by rw [← clear]
  rw [ControllerPid.when]
  by_cases hFlag : hasFlag p.config.improve Improve.errorHandle = true
  · rw [if_pos hFlag]
    simp only [pidErrorHandle, lit_rat, lt_rat, fabs_rat, Bool.or_eq_true, decide_eq_true_eq]
    split_ifs with hIdle hMissed hMany hMany
    · refine ⟨p.errorCount, false, hSame, ⟨fun h => absurd h Bool.false_ne_true, ?_⟩⟩
      intro hStalls
      rcases hIdle with hSlow | hRest
      · linarith [hStalls.driven]
      · linarith [hStalls.wanted]
    · refine ⟨p.errorCount + 1, true, rfl, ⟨fun _ => ?_, fun _ => rfl⟩⟩
      obtain ⟨hDriven, hWanted⟩ := not_or.mp hIdle
      exact ⟨hFlag, by linarith, not_lt.mp hWanted, hMissed, hMany⟩
    · refine ⟨p.errorCount + 1, p.motorBlocked, rfl, ?_⟩
      rw [clear]
      exact ⟨fun h => absurd h Bool.false_ne_true, fun hStalls => absurd hStalls.counted hMany⟩
    · exact absurd hMany (by decide)
    · refine ⟨0, p.motorBlocked, rfl, ?_⟩
      rw [clear]
      exact ⟨fun h => absurd h Bool.false_ne_true, fun hStalls => absurd hStalls.missed hMissed⟩
  · rw [if_neg hFlag]
    refine ⟨p.errorCount, false, hSame, ⟨fun h => absurd h Bool.false_ne_true, ?_⟩⟩
    intro hStalls
    exact absurd hStalls.flag_on hFlag

instance (p : ControllerPid ℚ) : Decidable p.Stalls :=
  decidable_of_iff
    (hasFlag p.config.improve Improve.errorHandle = true ∧ p.config.maxOut / 1000 ≤ p.output ∧
      1 / 10000 ≤ |p.ref| ∧ 95 / 100 < |p.ref - p.measure| / |p.ref| ∧ p.errorCount + 1 > 500)
    ⟨fun ⟨flag_on, driven, wanted, missed, counted⟩ =>
        ⟨flag_on, driven, wanted, missed, counted⟩,
      fun h => ⟨h.flag_on, h.driven, h.wanted, h.missed, h.counted⟩⟩

/-- A controller that drives forward and its mirror image do not find a stall at once. -/
theorem Stalls.not_mirror {p : ControllerPid ℚ} (stalls : p.Stalls) (sided : TwoSided p.config)
    (count : UInt64) (blocked : Bool) : ¬(mirror count blocked p).Stalls := by
  intro hMirror
  have hForward := stalls.driven
  have hReverse : p.config.maxOut / 1000 ≤ -p.output := hMirror.driven
  linarith [sided.positive]

/-- Two controllers on one clock. -/
structure Directions where
  forward : ControllerPid ℚ
  reverse : ControllerPid ℚ

/-- The arguments of a call for the first of them, with the readings of the clock. -/
structure Reading where
  target : ℚ
  now : ℚ
  cycles : UInt32
  hz : UInt32

namespace Directions

def step (both : Directions) (call : Reading) : Directions where
  forward := (both.forward.update call.target call.now call.cycles call.hz).1
  reverse := (both.reverse.update (-call.target) (-call.now) call.cycles call.hz).1

/-- The two controllers after `configure`. -/
def configured (config : ControllerPidConfig ℚ) : Directions where
  forward := (zeroed ℚ).configure config
  reverse := (zeroed ℚ).configure config

/-- The outputs are opposite and the flags the same. -/
def Alike (both : Directions) : Prop :=
  both.reverse.out = -both.forward.out ∧ both.reverse.motorBlocked = both.forward.motorBlocked

instance (both : Directions) : Decidable both.Alike := inferInstanceAs (Decidable (_ ∧ _))

/-- The next call finds neither motor blocked. -/
def Unblocked (both : Directions) (_call : Reading) : Prop :=
  ¬both.forward.Stalls ∧ ¬both.reverse.Stalls

instance (both : Directions) (call : Reading) : Decidable (both.Unblocked call) :=
  inferInstanceAs (Decidable (_ ∧ _))

/-- One is the mirror image of the other but for the error count, and no motor has been
found blocked. -/
structure Mirrored (both : Directions) : Prop where
  sided : TwoSided both.forward.config
  clear : both.forward.motorBlocked = false
  image : ∃ count, both.reverse = mirror count false both.forward

theorem Mirrored.alike {both : Directions} (mirrored : both.Mirrored) : both.Alike := by
  obtain ⟨count, hImage⟩ := mirrored.image
  rw [Alike, hImage, mirrored.clear]
  exact ⟨rfl, rfl⟩

/-- A call makes of mirror images mirror images again, and each flag says whether its
controller found a stall. -/
theorem step_mirrored {both : Directions} (mirrored : both.Mirrored) (call : Reading) :
    ∃ count blocked, (both.step call).reverse = mirror count blocked (both.step call).forward ∧
      (blocked = true ↔ both.reverse.Stalls) ∧
      ((both.step call).forward.motorBlocked = true ↔ both.forward.Stalls) ∧
      (both.step call).forward.config = both.forward.config := by
  obtain ⟨hSided, hClear, before, hImage⟩ := mirrored
  obtain ⟨forwardCount, forwardBlocked, hForward, hForwardStalls⟩ := handled_eq hClear
  have hReverseClear : both.reverse.motorBlocked = false := by
    rw [hImage]
    rfl
  obtain ⟨count, blocked, hReverse, hReverseStalls⟩ := handled_eq hReverseClear
  have hSplit : when Improve.errorHandle pidErrorHandle both.reverse =
      mirror count blocked (when Improve.errorHandle pidErrorHandle both.forward) := by
    rw [hReverse, hForward, hImage]
    rfl
  have hKept : (when Improve.errorHandle pidErrorHandle both.forward).config =
      both.forward.config := by rw [hForward]
  have hHandled : TwoSided (when Improve.errorHandle pidErrorHandle both.forward).config := by
    rw [hKept]
    exact hSided
  refine ⟨count, blocked, ?_, hReverseStalls, ?_, ?_⟩
  · rw [step, update_eq, update_eq, hSplit]
    exact measured_mirror hHandled count blocked call.target call.now call.cycles call.hz
  · rw [step, update_eq, counters_measured hHandled, hForward]
    exact hForwardStalls
  · rw [step, update_eq, config_measured, hKept]

theorem unblocked_iff_alike (both : Directions) (call : Reading) (mirrored : both.Mirrored) :
    both.Unblocked call ↔ (both.step call).Alike := by
  obtain ⟨count, blocked, hImage, hReverse, hForward, -⟩ := step_mirrored mirrored call
  obtain ⟨before, hBefore⟩ := mirrored.image
  have hOnce : both.forward.Stalls → ¬both.reverse.Stalls := by
    intro hStalls
    rw [hBefore]
    exact hStalls.not_mirror mirrored.sided before false
  have hOut : (both.step call).reverse.out = -(both.step call).forward.out := by
    rw [hImage]
    rfl
  have hFlag : (both.step call).reverse.motorBlocked = blocked := by rw [hImage]; rfl
  rw [Unblocked, Alike, hFlag, Bool.eq_iff_iff, hReverse, hForward]
  constructor
  · rintro ⟨hNotForward, hNotReverse⟩
    exact ⟨hOut, iff_of_false hNotReverse hNotForward⟩
  · rintro ⟨_, hSame⟩
    have hNotForward : ¬both.forward.Stalls := fun h => hOnce h (hSame.mpr h)
    exact ⟨hNotForward, fun h => hNotForward (hSame.mp h)⟩

theorem mirrored_step (both : Directions) (call : Reading) (mirrored : both.Mirrored)
    (unblocked : both.Unblocked call) : (both.step call).Mirrored := by
  obtain ⟨count, blocked, hImage, hReverse, hForward, hConfig⟩ := step_mirrored mirrored call
  have hBlocked : blocked = false :=
    Bool.eq_false_iff.mpr fun h => unblocked.2 (hReverse.mp h)
  exact
    { sided := by
        rw [hConfig]
        exact mirrored.sided
      clear := Bool.eq_false_iff.mpr fun h => unblocked.1 (hForward.mp h)
      image := ⟨count, by rw [hImage, hBlocked]⟩ }

theorem mirrored_configured {config : ControllerPidConfig ℚ} (sided : TwoSided config) :
    (configured config).Mirrored where
  sided := sided
  clear := rfl
  image := by
    refine ⟨0, ?_⟩
    simp only [configured, configure, runtimeReset, mirror, neg_zero]

/-- From reset, the outputs stay opposite and the flags the same exactly as long as
neither controller finds a stall: the one that drives in reverse never finds any. -/
theorem unblocked_iff_always_alike (config : ControllerPidConfig ℚ) (positive : 0 < config.maxOut)
    (small : config.olsOrder ≤ 2) (calls : List Reading) :
    Run.Along step Unblocked (configured config) calls ↔
      Run.Always step Alike (configured config) calls :=
  Run.along_iff_always_good (fun _ => Mirrored.alike) unblocked_iff_alike mirrored_step
    (mirrored_configured ⟨positive, small⟩) calls

/-- A proportional controller with the error handling. -/
def proportional : ControllerPidConfig ℚ :=
  ⟨1, 0, 0, 1, 0, 1, 0, 0, 0, 0, 0, Improve.errorHandle⟩

/-- A target at twice the dead band and then at the dead band, and a motor at rest. -/
def heldMotor (count : Nat) : List Reading :=
  (List.range count).map fun i => ⟨if i < 2 then 2 else 1, 0, UInt32.ofNat (i + 1), 1⟩

/-- Over a few calls nothing is counted past its limit. -/
theorem always_alike_held :
    Run.Always step Alike (configured proportional) (heldMotor 5) :=
  (unblocked_iff_always_alike proportional (by decide) (by decide) (heldMotor 5)).mp
    (by decide +kernel)

set_option maxRecDepth 100000 in
/-- Of two motors held for long enough, only the one that is driven forward is found
blocked. -/
theorem not_always_alike_held :
    ¬Run.Always step Alike (configured proportional) (heldMotor 503) := by
  intro hAlways
  have hFinal := (Run.always_iff step Alike _ _).mp hAlways _ (List.prefix_refl _)
  have hForward : ((heldMotor 503).foldl step (configured proportional)).forward.motorBlocked =
      true := by decide +kernel
  have hReverse : ((heldMotor 503).foldl step (configured proportional)).reverse.motorBlocked =
      false := by decide +kernel
  have hSame := hFinal.2
  rw [hForward, hReverse] at hSame
  exact Bool.false_ne_true hSame

end Directions

end RmTest.Algorithms.ControllerPid

import RmTest.Library.Run
import RmTest.Modules.Gantry
import RmTest.Verification.PidSingles

/-! What the gantry's motors on CAN2 and CAN3 are left with when a command
disables it, over runs of its loop with any feedback and any commands. Floats are
singles. -/
namespace RmTest.Modules

open Algorithms Channels Protocols Platform Services FloatModel Single

namespace GantryModule

theorem kDjiSpeedPidKi_limits :
    eq (kDjiCurrentLimit : Single) 0 = false ∧
      (-kDjiCurrentLimit / kDjiSpeedPidKi : Single).read = .infinite true ∧
      (kDjiCurrentLimit / kDjiSpeedPidKi : Single).read = .infinite false := by
  decide +kernel

theorem djiSpeedPidConfig_reads :
    (kDjiSpeedPidKp : Single).read = .num 1 ∧ (kDjiSpeedPidKi : Single).read = .num 0 ∧
      (kDjiSpeedPidKd : Single).read = .num 0 ∧ (kDjiCurrentLimit : Single).read = .num 10000 ∧
      (lit (2 / 1000) : Single).read = .num (8589935 / 2 ^ 32) ∧
      (lit 1 * lit (2 / 1000) : Single).read = .num (8589935 / 2 ^ 32) := by
  decide +kernel

/-- Without an integral gain the limits of the integral are infinite, and no limits. -/
theorem clampedIntegral_speed {pid : Pid Single} (config : pid.config = djiSpeedPidConfig) :
    pid.clampedIntegral = pid.integralError := by
  obtain ⟨hOn, hLow, hHigh⟩ := kDjiSpeedPidKi_limits
  simp only [Pid.clampedIntegral, config, djiSpeedPidConfig, PidConfig.basic, hOn,
    Bool.false_eq_true, if_false]
  exact clamp_infinite hLow hHigh _

/-- What a controller that has met no NaN remembers. The integral comes to rest where a step
no longer reaches its last place. -/
structure Remembers (pid : Pid Single) : Prop where
  integralError : ∃ q, pid.integralError.read = .num q ∧ |q| ≤ 2 ^ 31
  preError : ∃ q, pid.preError.read = .num q ∧ |q| ≤ 32788
  preTarget : ∃ q, pid.preTarget.read = .num q ∧ |q| ≤ 20

/-- The integral grows by little enough to come to rest. -/
theorem accumulated_speed {pid : Pid Single} (config : pid.config = djiSpeedPidConfig)
    {error : Single} {i e : ℚ} (hIntegral : pid.integralError.read = .num i) (hI : |i| ≤ 2 ^ 31)
    (hError : error.read = .num e) (hE : |e| ≤ 32788) :
    ∃ q, (pid.accumulated error).read = .num q ∧ |q| ≤ 2 ^ 31 := by
  obtain ⟨_, _, _, _, _, hStep⟩ := djiSpeedPidConfig_reads
  have hLargest : (2 : ℚ) ^ 32 ≤ largest := by
    rw [largest_eq]
    norm_num
  have hProduct : |8589935 / 2 ^ 32 * e| ≤ ((67 : Nat) : ℚ) := by
    rw [abs_mul, abs_of_pos (by norm_num)]
    norm_num
    linarith
  have hAdded := read_mul hStep hError (by norm_num at hProduct ⊢; linarith)
  have hSmall : |nearest (8589935 / 2 ^ 32 * e)| ≤ ((67 : Nat) : ℚ) :=
    abs_nearest_le (nearest_natCast (by norm_num)) hProduct
  generalize nearest (8589935 / 2 ^ 32 * e) = added at hAdded hSmall
  have hSum : |i + added| ≤ 2 ^ 31 + 67 :=
    (abs_add_le i added).trans (by norm_num at hSmall ⊢; linarith)
  have hSaturates : nearest (2 ^ 31 + 67) = 2 ^ 31 := by decide +kernel
  refine ⟨_, ?_, abs_nearest_le hSaturates hSum⟩
  rw [Pid.accumulated, clampedIntegral_speed config, config]
  exact read_add hIntegral hAdded (by linarith)

/-- Of the four terms only the proportional one is not zero. -/
theorem terms_speed {pid : Pid Single} (config : pid.config = djiSpeedPidConfig)
    {target error : Single} {e p t r q : ℚ} (hError : error.read = .num e)
    (hPreError : pid.preError.read = .num p) (hTarget : target.read = .num t)
    (hPreTarget : pid.preTarget.read = .num r)
    (hAccumulated : (pid.accumulated error).read = .num q) (change : |e - p| ≤ largest)
    (change' : |t - r| ≤ largest) : (pid.terms target error).read = .num e := by
  obtain ⟨hKp, hKi, hKd, -, hDt, -⟩ := djiSpeedPidConfig_reads
  have hZeroD : (kDjiSpeedPidKd * (error - pid.preError) / lit (2 / 1000)).read = .num 0 :=
    read_zero_div (read_zero_mul hKd (read_sub hError hPreError change)) hDt (by norm_num)
  have hZeroF : (0 * (target - pid.preTarget)).read = .num 0 :=
    read_zero_mul read_zero (read_sub hTarget hPreTarget change')
  rw [Pid.terms, config]
  exact read_add_zero (read_add_zero (read_add_zero (read_one_mul hKp hError)
    (read_zero_mul hKi hAccumulated)) hZeroD) hZeroF

/-- A step towards a number is proportional control within the current limit. -/
theorem update_num {pid : Pid Single} (config : pid.config = djiSpeedPidConfig)
    (remembers : Remembers pid) {target now : Single} {t w : ℚ} (hTarget : target.read = .num t)
    (hNow : now.read = .num w) (small : |t| ≤ 20) (measured : |w| ≤ 32768) :
    (pid.update target now).2.read = .num (clamp (nearest (t - w)) (-10000) 10000) ∧
      Remembers (pid.update target now).1 := by
  obtain ⟨⟨i, hIntegral, hI⟩, ⟨p, hPreError, hP⟩, ⟨r, hPreTarget, hR⟩⟩ := remembers
  have hLargest : (2 : ℚ) ^ 32 ≤ largest := by
    rw [largest_eq]
    norm_num
  have hDifference : |t - w| ≤ ((32788 : Nat) : ℚ) :=
    (abs_sub t w).trans (by norm_num; linarith)
  have hError := read_sub hTarget hNow (hDifference.trans (by norm_num; linarith))
  have hSmall : |nearest (t - w)| ≤ ((32788 : Nat) : ℚ) :=
    abs_nearest_le (nearest_natCast (by norm_num)) hDifference
  generalize nearest (t - w) = e at hError hSmall ⊢
  have hE : |e| ≤ 32788 := by exact_mod_cast hSmall
  obtain ⟨error, absError, hDead, hErrorNum⟩ :=
    Pid.applyDeadZone_num { pid with target := target, now := now }
      (by rw [config]; rfl) hError
  obtain ⟨hNextIntegral, hNextError, hNextTarget, hOut⟩ := Pid.update_basic config hDead
  obtain ⟨q, hAccumulated, hQ⟩ := accumulated_speed config hIntegral hI hErrorNum hE
  have hTerms := terms_speed config hErrorNum hPreError hTarget hPreTarget hAccumulated
    ((abs_sub e p).trans (by linarith)) ((abs_sub t r).trans (by linarith))
  constructor
  · obtain ⟨-, -, -, hLimit, -, -⟩ := djiSpeedPidConfig_reads
    rw [hOut, kDjiSpeedPidKi_limits.1, if_neg Bool.false_ne_true, mathConstrain_eq_clamp,
      read_clamp (read_neg_num hLimit) hLimit, hTerms]
  · refine ⟨⟨q, ?_, hQ⟩, ⟨e, ?_, hE⟩, ⟨t, ?_, small⟩⟩
    · rw [hNextIntegral, hAccumulated]
    · rw [hNextError, hErrorNum]
    · rw [hNextTarget, hTarget]

/-- A NaN in the integral or the target goes into the output, and the integral
keeps it. -/
theorem update_nan {pid : Pid Single} (config : pid.config = djiSpeedPidConfig)
    {target now : Single} {w : ℚ} (hNow : now.read = .num w)
    (nan : pid.integralError.read = .nan ∨ target.read = .nan)
    (reached : target.read = .nan ∨ ∃ t, target.read = .num t ∧ |t - w| ≤ largest) :
    (pid.update target now).2.read = .nan ∧
    (pid.update target now).1.integralError.read = .nan := by
  obtain ⟨_, _, _, hLimit, _, _⟩ := djiSpeedPidConfig_reads
  have hDead : ∃ error absError,
      Pid.applyDeadZone { pid with target := target, now := now } = (target, error, absError) ∧
        (pid.integralError.read = .nan ∨ error.read = .nan) := by
    rcases reached with hNan | ⟨t, hTarget, hBound⟩
    · obtain ⟨error, absError, hDead, hError⟩ :=
        Pid.applyDeadZone_nan { pid with target := target, now := now }
          (sub_nan (.inl hNan))
      exact ⟨error, absError, hDead, .inr hError⟩
    · obtain ⟨error, absError, hDead, -⟩ :=
        Pid.applyDeadZone_num { pid with target := target, now := now }
          (by rw [config]; rfl) (read_sub hTarget hNow hBound)
      exact ⟨error, absError, hDead, .inl (nan.resolve_right (by rw [hTarget]; exact nofun))⟩
  obtain ⟨error, absError, hDead, hError⟩ := hDead
  obtain ⟨hNextIntegral, -, -, hOut⟩ := Pid.update_basic config hDead
  have hAccumulated : (pid.accumulated error).read = .nan := by
    rw [Pid.accumulated, clampedIntegral_speed config]
    exact add_nan (hError.imp id fun h => mul_nan (.inr h))
  have hTerms : (pid.terms target error).read = .nan :=
    add_nan (.inl (add_nan (.inl (add_nan (.inr (mul_nan (.inr hAccumulated)))))))
  refine ⟨?_, hNextIntegral ▸ hAccumulated⟩
  rw [hOut, kDjiSpeedPidKi_limits.1, if_neg Bool.false_ne_true, mathConstrain_eq_clamp,
    read_clamp (read_neg_num hLimit) hLimit, hTerms]

/-- A speed controller between two steps: either a NaN has reached its integral,
or what its other terms remember are numbers too. -/
structure SpeedPid (pid : Pid Single) : Prop where
  config : pid.config = djiSpeedPidConfig
  history : pid.integralError.read = .nan ∨ Remembers pid

theorem speedPid_initialized : SpeedPid ((Pid.zeroed Single).init djiSpeedPidConfig) where
  config := rfl
  history := .inr ⟨⟨0, read_zero, by norm_num⟩, ⟨0, read_zero, by norm_num⟩,
    ⟨0, read_zero, by norm_num⟩⟩

/-- A target speed, which is within its limits unless it is a NaN. -/
def Limited (targetOmega : Single) : Prop :=
  targetOmega.read = .nan ∨ ∃ t, targetOmega.read = .num t ∧ |t| ≤ 20

theorem limited_clamp (omega : Single) : Limited (clamp omega (-lit 20) (lit 20)) := by
  have hTwenty : (lit 20 : Single).read = .num 20 := by decide +kernel
  rcases clamp_cases (a := omega) (read_neg_num hTwenty) hTwenty (by norm_num) with
    ⟨-, hNan⟩ | ⟨-, t, hTarget, hLow, hHigh⟩
  · exact .inl hNan
  · exact .inr ⟨t, hTarget, abs_le.mpr ⟨hLow, hHigh⟩⟩

theorem Limited.neg {targetOmega : Single} (limited : Limited targetOmega) :
    Limited (-targetOmega) := by
  rcases limited with hNan | ⟨t, hTarget, hSmall⟩
  · exact .inl (read_neg_nan hNan)
  · exact .inr ⟨-t, read_neg_num hTarget, (abs_neg t).trans_le hSmall⟩

/-- The motor needs no current: it gives no feedback, or its speed is so close to its target
that the difference is rounded to less than one unit. A NaN that has reached the controller
counts as no current. -/
def AxisAtRest (pid : Pid Single) (feedback : DjiFeedbackSimple) (targetOmega : Single) : Prop :=
  feedback.valid = true →
    pid.integralError.read = .nan ∨
      ∃ target : ℚ, targetOmega.read = .num target ∧
        |target - feedback.omega.toInt| < 1 - 1 / 2 ^ 25

theorem abs_clamp_lt_one_iff (value : ℚ) : |clamp value (-10000) 10000| < 1 ↔ |value| < 1 := by
  simp only [clamp, lt_rat, decide_eq_true_eq]
  split_ifs with hLow hHigh
  · rw [abs_lt, abs_lt]
    constructor <;> rintro ⟨h, _⟩ <;> linarith
  · rw [abs_lt, abs_lt]
    constructor <;> rintro ⟨_, h⟩ <;> linarith
  · exact Iff.rfl

theorem abs_clamp_le (value : ℚ) : |clamp value (-10000) 10000| ≤ 32767 :=
  (abs_clamp_rat_le value (by norm_num)).trans (by norm_num)

theorem djiCurrent_of_valid {F : Type} [FloatModel F] {pid : Pid F} {feedback : DjiFeedbackSimple}
    (valid : feedback.valid = true) (targetOmega : F) :
    djiCurrent pid feedback targetOmega =
      ((pid.update targetOmega (lit feedback.omega.toInt)).1,
        castInt16 (pid.update targetOmega (lit feedback.omega.toInt)).2) := by
  simp [djiCurrent, valid]

theorem abs_omega_le (omega : Int16) : |(omega.toInt : ℚ)| ≤ 32768 := by
  have hLow := omega.le_toInt
  have hHigh := omega.toInt_lt
  have hInt : |omega.toInt| ≤ 32768 := abs_le.mpr ⟨by omega, by omega⟩
  exact_mod_cast hInt

/-- A controller that meets a NaN gives no current, and counts as at rest. -/
theorem djiCurrent_nan {pid : Pid Single} (speedPid : SpeedPid pid) {feedback : DjiFeedbackSimple}
    (valid : feedback.valid = true) {targetOmega : Single} (limited : Limited targetOmega)
    (nan : pid.integralError.read = .nan ∨ targetOmega.read = .nan) :
    SpeedPid (djiCurrent pid feedback targetOmega).1 ∧
      ((djiCurrent pid feedback targetOmega).2 = 0 ↔
        AxisAtRest (djiCurrent pid feedback targetOmega).1 feedback targetOmega) := by
  have hReached : targetOmega.read = .nan ∨ ∃ t, targetOmega.read = .num t ∧
      |t - feedback.omega.toInt| ≤ largest := by
    refine limited.imp id fun ⟨t, hTarget, hSmall⟩ => ⟨t, hTarget, ?_⟩
    rw [largest_eq]
    exact (abs_sub t _).trans (by linarith [abs_omega_le feedback.omega])
  obtain ⟨hOut, hIntegral⟩ := update_nan speedPid.config (read_int16 feedback.omega) nan hReached
  rw [djiCurrent_of_valid valid]
  refine ⟨⟨(Pid.config_update _ _ _).trans speedPid.config, .inl hIntegral⟩, ?_⟩
  exact iff_of_true (castInt16_nan hOut) (fun _ => .inl hIntegral)

/-- The current computed for a motor is zero exactly if, after that, it is at rest. -/
theorem djiCurrent_spec {pid : Pid Single} (speedPid : SpeedPid pid) (feedback : DjiFeedbackSimple)
    {targetOmega : Single} (limited : Limited targetOmega) :
    SpeedPid (djiCurrent pid feedback targetOmega).1 ∧
      ((djiCurrent pid feedback targetOmega).2 = 0 ↔
        AxisAtRest (djiCurrent pid feedback targetOmega).1 feedback targetOmega) := by
  cases hValid : feedback.valid with
  | false => simp [djiCurrent, AxisAtRest, hValid, speedPid]
  | true =>
      rcases speedPid.history with hNan | hRemembers
      · exact djiCurrent_nan speedPid hValid limited (.inl hNan)
      · rcases limited with hNan | ⟨t, hTarget, hSmall⟩
        · exact djiCurrent_nan speedPid hValid (.inl hNan) (.inr hNan)
        · obtain ⟨hOut, hNext⟩ := update_num speedPid.config hRemembers hTarget
            (read_int16 feedback.omega) hSmall (abs_omega_le feedback.omega)
          obtain ⟨i, hIntegral, -⟩ := hNext.integralError
          rw [djiCurrent_of_valid hValid]
          refine ⟨⟨(Pid.config_update _ _ _).trans speedPid.config, .inr hNext⟩, ?_⟩
          rw [castInt16_num hOut, castInt16_rat_eq_zero_iff _ (abs_clamp_le _),
            abs_clamp_lt_one_iff, abs_nearest_lt_one_iff]
          simp [AxisAtRest, hValid, hIntegral, hTarget]

section Frame

variable {F : Type} [FloatModel F]

def speedPids (m : GantryModule F) : Pid F × Pid F × Pid F :=
  (m.xLeftSpeedPid, m.xRightSpeedPid, m.ySpeedPid)

theorem speedPids_receive (loop : GantryLoop F) (arrived : List CanRawFrameMessage)
    (command : Option (GantryCommandMessage F)) :
    speedPids (loop.receive arrived command).gantry = speedPids loop.gantry :=
  GantryLoop.view_receive speedPids (fun _ _ => rfl) (fun _ _ _ _ => rfl) loop arrived command

end Frame

structure SpeedPids (m : GantryModule Single) : Prop where
  xLeft : SpeedPid m.xLeftSpeedPid
  xRight : SpeedPid m.xRightSpeedPid
  y : SpeedPid m.ySpeedPid

theorem SpeedPids.of_eq {m m' : GantryModule Single} (ok : SpeedPids m)
    (same : speedPids m' = speedPids m) : SpeedPids m' := by
  obtain ⟨hLeft, hRight, hY⟩ : _ ∧ _ ∧ _ := by simpa [speedPids] using same
  exact ⟨hLeft ▸ ok.xLeft, hRight ▸ ok.xRight, hY ▸ ok.y⟩

/-- The three DJI motors, as far as their buses have devices, need no current. -/
def DriveAtRest (m : GantryModule Single) (canDev : CanBus → Bool) : Prop :=
  (canDev .kCan2 = true →
    AxisAtRest m.xLeftSpeedPid m.xLeftFeedback m.xTargetOmega ∧
      AxisAtRest m.xRightSpeedPid m.xRightFeedback (-m.xTargetOmega)) ∧
  (canDev .kCan3 = true → AxisAtRest m.ySpeedPid m.yFeedback m.yTargetOmega)

/-- The last frames of currents on CAN2 and CAN3, if any, hold none for the gantry. -/
def MotorsStopped (port : CanPort) : Prop :=
  (∀ currents ∈ Actuator.heldCurrents port .kCan2,
    currents.get Dji.slot0x201 = 0 ∧ currents.get Dji.slot0x202 = 0) ∧
  ∀ currents ∈ Actuator.heldCurrents port .kCan3, currents.get Dji.slot0x201 = 0

instance (port : CanPort) : Decidable (MotorsStopped port) :=
  @instDecidableAnd _ _ (Option.decidableForallMem _) (Option.decidableForallMem _)

theorem limited_targets (m : GantryModule Single) :
    Limited m.xTargetOmega ∧ Limited (-m.xTargetOmega) ∧ Limited m.yTargetOmega :=
  ⟨limited_clamp _, (limited_clamp _).neg, limited_clamp _⟩

theorem speedPids_applyControlAndSend {m : GantryModule Single} (ok : SpeedPids m)
    (port : CanPort) : SpeedPids (m.applyControlAndSend port).1 := by
  obtain ⟨hLeft, hRight, hY⟩ := m.limited_targets
  exact ⟨(djiCurrent_spec ok.xLeft m.xLeftFeedback hLeft).1,
    (djiCurrent_spec ok.xRight m.xRightFeedback hRight).1,
    (djiCurrent_spec ok.y m.yFeedback hY).1⟩

/-- Sending stops the motors exactly if they are at rest. -/
theorem motorsStopped_applyControlAndSend {m : GantryModule Single} (ok : SpeedPids m)
    {port : CanPort}
    (absent : ∀ bus, port.canDev bus = false → Actuator.heldCurrents port bus = none) :
    MotorsStopped (m.applyControlAndSend port).2 ↔
      DriveAtRest (m.applyControlAndSend port).1 port.canDev := by
  obtain ⟨hCan2, hCan3⟩ := m.heldCurrents_applyControlAndSend port
  obtain ⟨hXLimited, hXLimited', hYLimited⟩ := m.limited_targets
  have hLeft := (djiCurrent_spec ok.xLeft m.xLeftFeedback hXLimited).2
  have hRight := (djiCurrent_spec ok.xRight m.xRightFeedback hXLimited').2
  have hY := (djiCurrent_spec ok.y m.yFeedback hYLimited).2
  rw [MotorsStopped, hCan2, hCan3]
  refine and_congr ?_ ?_
  · cases hDevice : port.canDev .kCan2 with
    | false => simp [absent _ hDevice]
    | true =>
        simp only [if_true, true_implies, Option.mem_some_iff, forall_eq']
        exact and_congr hLeft hRight
  · cases hDevice : port.canDev .kCan3 with
    | false => simp [absent _ hDevice]
    | true =>
        simp only [if_true, true_implies, Option.mem_some_iff, forall_eq']
        exact hY

end GantryModule

/-- What an iteration of the loop meets: the frames that have arrived and the
result of reading the command channel. -/
structure GantryTick (F : Type) where
  arrived : List CanRawFrameMessage
  command : Option (GantryCommandMessage F)

structure GantrySystem (F : Type) where
  loop : GantryLoop F
  port : CanPort

namespace GantrySystem

open GantryModule

section Steps

variable {F : Type} [FloatModel F]

def step (s : GantrySystem F) (tick : GantryTick F) : GantrySystem F :=
  let (loop, port) := s.loop.tick s.port tick.arrived tick.command
  ⟨loop, port⟩

/-- After `Initialize`, when `RunLoop` enters its loop. -/
def start (canDev : CanBus → Bool) : GantrySystem F :=
  let (gantry, port) := (zeroed F).initialized.runLoopStartup { canDev := canDev, sent := [] }
  ⟨.entered gantry, port⟩

theorem step_disabled (s : GantrySystem F) (tick : GantryTick F)
    (disabled : (s.loop.receive tick.arrived tick.command).command.enable = 0) :
    s.step tick = ⟨s.loop.receive tick.arrived tick.command, s.port⟩ := by
  rw [step, GantryLoop.tick_disabled disabled]

theorem step_enabled (s : GantrySystem F) (tick : GantryTick F)
    (enabled : (s.loop.receive tick.arrived tick.command).command.enable ≠ 0) :
    s.step tick =
      ⟨{ s.loop.receive tick.arrived tick.command with
          gantry := ((s.loop.receive tick.arrived tick.command).gantry.applyControlAndSend
            s.port).1 },
        ((s.loop.receive tick.arrived tick.command).gantry.applyControlAndSend s.port).2⟩ := by
  rw [step, GantryLoop.tick_enabled enabled]

theorem heldCurrents_start (canDev : CanBus → Bool) (bus : CanBus) :
    Actuator.heldCurrents (start canDev : GantrySystem F).port bus = none :=
  ((zeroed F).initialized.keepsCurrents_runLoopStartup { canDev := canDev, sent := [] }).held bus

end Steps

/-- While the command read last disables the gantry, its motors are stopped. -/
def DisableStops (s : GantrySystem Single) : Prop :=
  s.loop.command.enable = 0 → MotorsStopped s.port

instance (s : GantrySystem Single) : Decidable s.DisableStops :=
  inferInstanceAs (Decidable (_ → _))

/-- A command that disables the enabled gantry finds its motors at rest. -/
def DisablesAtRest (s : GantrySystem Single) (tick : GantryTick Single) : Prop :=
  ∀ command ∈ tick.command, command.enable = 0 → s.loop.command.enable ≠ 0 →
    DriveAtRest s.loop.gantry s.port.canDev

/-- What every run keeps. While the gantry is enabled, the last frames are those of
the present state of the controllers. -/
structure Consistent (s : GantrySystem Single) : Prop where
  pids : SpeedPids s.loop.gantry
  absent : ∀ bus, s.port.canDev bus = false → Actuator.heldCurrents s.port bus = none
  stopped : s.loop.command.enable ≠ 0 →
    (MotorsStopped s.port ↔ DriveAtRest s.loop.gantry s.port.canDev)

theorem consistent_start (canDev : CanBus → Bool) : Consistent (start canDev) where
  pids := ⟨speedPid_initialized, speedPid_initialized, speedPid_initialized⟩
  absent := fun bus _ => heldCurrents_start canDev bus
  stopped := fun hEnabled => absurd rfl hEnabled

theorem Consistent.step {s : GantrySystem Single} (consistent : Consistent s)
    (tick : GantryTick Single) :
    Consistent (s.step tick) := by
  have hPids := consistent.pids.of_eq (speedPids_receive s.loop tick.arrived tick.command)
  by_cases hEnable : (s.loop.receive tick.arrived tick.command).command.enable = 0
  · rw [step_disabled s tick hEnable]
    exact ⟨hPids, consistent.absent, fun hEnabled => absurd hEnable hEnabled⟩
  · have hDevices := (s.loop.receive tick.arrived tick.command).gantry.canDev_applyControlAndSend
      s.port
    rw [step_enabled s tick hEnable]
    refine ⟨speedPids_applyControlAndSend hPids s.port, ?_, fun _ => ?_⟩
    · intro bus hAbsent
      rw [hDevices] at hAbsent
      exact (heldCurrents_of_absent _ hAbsent).trans (consistent.absent bus hAbsent)
    · rw [hDevices]
      exact motorsStopped_applyControlAndSend hPids consistent.absent

/-- From a good state, being at rest when disabled is what keeps the state good. -/
theorem Consistent.disablesAtRest_iff {s : GantrySystem Single} (consistent : Consistent s)
    (stops : s.DisableStops) (tick : GantryTick Single) :
    s.DisablesAtRest tick ↔ (s.step tick).DisableStops := by
  obtain ⟨arrived, read⟩ := tick
  cases read with
  | none =>
      -- Nothing was read, so the command and with it what it asks for are unchanged.
      refine iff_of_true (fun command hCommand => nomatch hCommand) ?_
      by_cases hEnable : s.loop.command.enable = 0
      · rw [step_disabled s ⟨arrived, none⟩ hEnable]
        exact fun _ => stops hEnable
      · rw [step_enabled s ⟨arrived, none⟩ hEnable]
        exact fun hDisabled => absurd hDisabled hEnable
  | some command =>
      by_cases hEnable : command.enable = 0
      · have hStops : (s.step ⟨arrived, some command⟩).DisableStops ↔ MotorsStopped s.port := by
          rw [step_disabled s ⟨arrived, some command⟩ hEnable]
          exact ⟨fun h => h hEnable, fun h _ => h⟩
        rw [hStops]
        by_cases hBefore : s.loop.command.enable = 0
        · exact iff_of_true (fun _ _ _ hEnabled => absurd hBefore hEnabled) (stops hBefore)
        · rw [consistent.stopped hBefore]
          constructor
          · exact fun h => h command rfl hEnable hBefore
          · exact fun h _ _ _ _ => h
      · refine iff_of_true ?_ ?_
        · intro other hOther hDisabled
          obtain rfl : command = other := Option.some.inj hOther
          exact absurd hDisabled hEnable
        · rw [step_enabled s ⟨arrived, some command⟩ hEnable]
          exact fun hDisabled => absurd hDisabled hEnable

/-- Feedback of the left motor of the X axis while it turns. -/
def xLeftTurning : CanRawFrameMessage where
  bus := 2
  canId := 0x201
  dlc := 8
  data := #v[0, 0, 0, 100, 0, 0, 0, 0]

def command (enable : UInt8) : GantryCommandMessage Single where
  xDelta := 0
  yDelta := 0
  zDelta := 0
  source := .kInputSourceDr16
  enable := enable
  sequence := 1

end GantrySystem

end RmTest.Modules

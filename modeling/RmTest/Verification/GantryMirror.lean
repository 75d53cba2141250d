import RmTest.Library.Mirror
import RmTest.Verification.GantryDisable

/-! The axes of the gantry with two motors each, of which one turns against the other. The
controller treats both directions alike, so opposite feedback leads to opposite commands
over a whole run. Floats are rationals or NaN, and a quotient by zero is no limit. -/
namespace RmTest.Algorithms.Pid

open FloatModel

variable {F : Type} [FloatModel F] [SignSymmetric F]

/-- The controller in the opposite direction. -/
def mirror (p : Pid F) : Pid F :=
  { p with
    dLpfOutput := -p.dLpfOutput
    preNow := -p.preNow
    preTarget := -p.preTarget
    preOut := -p.preOut
    preError := -p.preError
    out := -p.out
    target := -p.target
    now := -p.now
    integralError := -p.integralError }

theorem mathAbs_neg (x : F) : mathAbs (-x) = mathAbs x := by
  rw [mathAbs, mathAbs, SignSymmetric.lt_zero_neg, SignSymmetric.neg_neg]
  cases hNegative : lt x 0 with
  | true => rw [if_pos rfl, SignSymmetric.lt_asymm x 0 hNegative, if_neg Bool.false_ne_true]
  | false =>
      rw [if_neg Bool.false_ne_true]
      cases hPositive : lt 0 x with
      | true => rw [if_pos rfl]
      | false =>
          rw [if_neg Bool.false_ne_true]
          exact (SignSymmetric.neg_of_unordered x hNegative hPositive).symm

/-- The dead zone has a branch for each sign. -/
theorem applyDeadZone_mirror (p : Pid F) :
    p.mirror.applyDeadZone =
      (-p.applyDeadZone.1, -p.applyDeadZone.2.1, p.applyDeadZone.2.2) := by
  have hError : p.mirror.target - p.mirror.now = -(p.target - p.now) :=
    SignSymmetric.neg_sub p.target p.now
  have hConfig : p.mirror.config = p.config := rfl
  simp only [applyDeadZone, hError, hConfig, mathAbs_neg, SignSymmetric.lt_zero_neg,
    SignSymmetric.lt_neg_zero]
  generalize p.target - p.now = error
  cases lt (mathAbs error) p.config.deadZone with
  | true => simp only [if_true, SignSymmetric.neg_zero]; rfl
  | false =>
      cases lt p.config.deadZone (mathAbs error) with
      | false => simp only [Bool.and_false, Bool.false_eq_true, if_false]; rfl
      | true =>
          cases hPositive : lt 0 error with
          | true =>
              have hNegative : lt error 0 = false := SignSymmetric.lt_asymm 0 error hPositive
              simp only [hNegative, Bool.true_and, Bool.false_and, Bool.false_eq_true, if_false,
                if_true, SignSymmetric.neg_add_right]
              rfl
          | false =>
              cases lt error 0 with
              | true =>
                  simp only [Bool.true_and, Bool.false_and, Bool.false_eq_true, if_false, if_true,
                    SignSymmetric.neg_sub_left]
                  rfl
              | false => simp only [Bool.false_and, Bool.false_eq_true, if_false]; rfl

/-- The limits of a configuration are the same to both sides. -/
structure TwoSided (config : PidConfig F) : Prop where
  output : lt config.outMax 0 = false
  integral : lt (config.iOutMax / config.kI) 0 = false

omit [SignSymmetric F] in
theorem speedRatio_congr {p q : Pid F} (same : q.config = p.config) (absError : F) :
    q.speedRatio absError = p.speedRatio absError := by
  rw [speedRatio, speedRatio, same]

theorem integrate_mirror {p : Pid F} (sided : TwoSided p.config) (error absError : F) :
    p.mirror.integrate (-error) absError =
      (-(p.integrate error absError).1, -(p.integrate error absError).2) := by
  have hConfig : p.mirror.config = p.config := rfl
  have hRatio : p.mirror.speedRatio absError = p.speedRatio absError :=
    speedRatio_congr hConfig absError
  have hIntegral : p.mirror.integralError = -p.integralError := rfl
  have hLimit : mathConstrain (-p.integralError) (-p.config.iOutMax / p.config.kI)
      (p.config.iOutMax / p.config.kI) =
        -mathConstrain p.integralError (-p.config.iOutMax / p.config.kI)
          (p.config.iOutMax / p.config.kI) := by
    rw [mathConstrain_eq_clamp, mathConstrain_eq_clamp, SignSymmetric.neg_div]
    exact SignSymmetric.clamp_neg sided.integral p.integralError
  simp only [integrate, hConfig, hRatio, hIntegral, hLimit, SignSymmetric.mul_neg]
  split_ifs <;>
    simp only [SignSymmetric.neg_add, SignSymmetric.mul_neg, SignSymmetric.neg_zero]

theorem differentiate_mirror (p : Pid F) (error : F) :
    p.mirror.differentiate (-error) =
      (-(p.differentiate error).1, -(p.differentiate error).2) := by
  have hConfig : p.mirror.config = p.config := rfl
  have hPrevious : p.mirror.preError = -p.preError := rfl
  have hNow : p.mirror.now - p.mirror.preNow = -(p.now - p.preNow) :=
    SignSymmetric.neg_sub p.now p.preNow
  have hFilter : p.mirror.dLpfOutput = -p.dLpfOutput := rfl
  simp only [differentiate, hConfig, hPrevious, hNow, hFilter, SignSymmetric.neg_sub]
  split_ifs <;>
    simp only [SignSymmetric.mul_neg, SignSymmetric.neg_div, SignSymmetric.neg_add]

/-- A step of the mirror image is the mirror image of the step. -/
theorem calculate_mirror {p : Pid F} (sided : TwoSided p.config) :
    p.mirror.calculatePeriodElapsedCallback = p.calculatePeriodElapsedCallback.mirror := by
  have hConfig : p.mirror.config = p.config := rfl
  have hPrevious : p.mirror.preTarget = -p.preTarget := rfl
  have hClamp (sum : F) : mathConstrain (-sum) (-p.config.outMax) p.config.outMax =
      -mathConstrain sum (-p.config.outMax) p.config.outMax :=
    SignSymmetric.clamp_neg sided.output sum
  simp only [calculatePeriodElapsedCallback, applyDeadZone_mirror, integrate_mirror sided,
    differentiate_mirror, hConfig, hPrevious, hClamp, SignSymmetric.mul_neg, SignSymmetric.neg_sub,
    SignSymmetric.neg_add]
  cases eq p.config.outMax 0 <;> rfl

theorem update_mirror {p : Pid F} (sided : TwoSided p.config) (target now : F) :
    p.mirror.update (-target) (-now) =
      ((p.update target now).1.mirror, -(p.update target now).2) := by
  have hStep := calculate_mirror (p := { p with target := target, now := now }) sided
  exact congrArg (fun stepped : Pid F => (stepped, stepped.out)) hStep

omit [SignSymmetric F] in
/-- With a limit the output is a clamped value. -/
theorem out_clamped {p : Pid F} (limited : eq p.config.outMax 0 = false) :
    ∃ sum, p.calculatePeriodElapsedCallback.out =
      clamp sum (-p.config.outMax) p.config.outMax := by
  simp only [calculatePeriodElapsedCallback, limited, Bool.false_eq_true, if_false]
  exact ⟨_, rfl⟩

end RmTest.Algorithms.Pid

namespace RmTest.Modules

open Algorithms Channels Protocols Platform Services FloatModel

namespace GantryModule

theorem toInt_castInt16_neg_rat {value : ℚ} (bound : |value| ≤ 32767) :
    (castInt16 (-value)).toInt = -(castInt16 value).toInt := by
  rw [toInt_castInt16_rat value bound, toInt_castInt16_rat (-value) (by rwa [abs_neg]),
    SignSymmetric.trunc_neg]

/-- A clamped output is converted alike in both directions. -/
theorem toInt_castInt16_clamp_neg (sum : NanRat) :
    (castInt16 (-clamp sum (.num (-10000)) (.num 10000))).toInt =
      -(castInt16 (clamp sum (.num (-10000)) (.num 10000))).toInt := by
  cases sum with
  | nan =>
      rw [NanRat.clamp_nan]
      rfl
  | num sum =>
      rw [NanRat.clamp_num]
      exact toInt_castInt16_neg_rat (abs_clamp_le sum)

theorem twoSided_djiSpeedPidConfig : Pid.TwoSided (djiSpeedPidConfig (F := NanRat)) := by
  constructor <;> rfl

theorem twoSided_zPidAngleConfig : Pid.TwoSided (zPidAngleConfig (F := NanRat)) := by
  constructor <;> decide +kernel

/-- The output of a speed controller is a clamped value. -/
theorem out_update_clamped {pid : Pid NanRat} (config : pid.config = djiSpeedPidConfig)
    (target now : NanRat) :
    ∃ sum, (pid.update target now).2 = clamp sum (.num (-10000)) (.num 10000) := by
  have hLimited : eq pid.config.outMax 0 = false := by
    rw [config]
    rfl
  obtain ⟨sum, hSum⟩ := Pid.out_clamped (p := { pid with target := target, now := now }) hLimited
  refine ⟨sum, hSum.trans ?_⟩
  show clamp sum (-pid.config.outMax) pid.config.outMax = _
  rw [config]
  rfl

theorem toInt_neg_of_ne {value : Int16} (ne : value ≠ Int16.minValue) :
    (-value).toInt = -value.toInt := by
  have hSmallest : value.toInt ≠ -32768 := fun h => ne (Int16.toInt_inj.mp h)
  have hLow := value.le_toInt
  have hHigh := value.toInt_lt
  rw [Int16.toInt_neg, Int.bmod_eq_of_le (by omega) (by omega)]

theorem config_djiCurrent (pid : Pid NanRat) (feedback : DjiFeedbackSimple)
    (targetOmega : NanRat) : (djiCurrent pid feedback targetOmega).1.config = pid.config := by
  unfold djiCurrent
  split_ifs <;> rfl

theorem config_zOmega (pid : Pid NanRat) (state : CubemarsState NanRat) (targetAngle : NanRat) :
    (zOmega pid state targetAngle).1.config = pid.config := by
  unfold zOmega
  split_ifs <;> rfl

/-- Feedback of two DJI motors that turn against each other. The smallest value has no
opposite. -/
def DjiOpposed (left right : DjiFeedbackSimple) : Prop :=
  left.valid = right.valid ∧
    (left.valid = true → right.omega = -left.omega ∧ left.omega ≠ Int16.minValue)

instance (left right : DjiFeedbackSimple) : Decidable (DjiOpposed left right) :=
  inferInstanceAs (Decidable (_ ∧ _))

/-- Feedback of two Z motors at opposite angles. -/
def CubemarsOpposed (left right : CubemarsState NanRat) : Prop :=
  left.valid = right.valid ∧ (left.valid = true → right.angle = -left.angle)

instance (left right : CubemarsState NanRat) : Decidable (CubemarsOpposed left right) :=
  inferInstanceAs (Decidable (_ ∧ _))

theorem djiCurrent_mirror {pid : Pid NanRat} (config : pid.config = djiSpeedPidConfig)
    {left right : DjiFeedbackSimple} (opposed : DjiOpposed left right) (targetOmega : NanRat) :
    (djiCurrent pid.mirror right (-targetOmega)).1 = (djiCurrent pid left targetOmega).1.mirror ∧
      (djiCurrent pid.mirror right (-targetOmega)).2.toInt =
        -(djiCurrent pid left targetOmega).2.toInt := by
  obtain ⟨hValid, hOmega⟩ := opposed
  cases hLeft : left.valid with
  | false =>
      have hRight : right.valid = false := hValid.symm.trans hLeft
      simp only [djiCurrent, hLeft, hRight, Bool.false_eq_true, if_false]
      exact ⟨trivial, rfl⟩
  | true =>
      have hRight : right.valid = true := hValid.symm.trans hLeft
      obtain ⟨hOpposite, hSmallest⟩ := hOmega hLeft
      have hMeasured : (lit right.omega.toInt : NanRat) = -lit left.omega.toInt := by
        rw [hOpposite, toInt_neg_of_ne hSmallest, Int.cast_neg]
        rfl
      have hSided : Pid.TwoSided pid.config := by
        rw [config]
        exact twoSided_djiSpeedPidConfig
      have hUpdate := Pid.update_mirror hSided targetOmega (lit left.omega.toInt)
      obtain ⟨sum, hSum⟩ := out_update_clamped config targetOmega (lit left.omega.toInt)
      rw [djiCurrent_of_valid hRight, djiCurrent_of_valid hLeft, hMeasured, hUpdate, hSum]
      exact ⟨rfl, toInt_castInt16_clamp_neg sum⟩

theorem zOmega_mirror {pid : Pid NanRat} (config : pid.config = zPidAngleConfig)
    {left right : CubemarsState NanRat} (opposed : CubemarsOpposed left right)
    (targetAngle : NanRat) :
    zOmega pid.mirror right (-targetAngle) =
      ((zOmega pid left targetAngle).1.mirror, -(zOmega pid left targetAngle).2) := by
  obtain ⟨hValid, hAngle⟩ := opposed
  cases hLeft : left.valid with
  | false =>
      have hRight : right.valid = false := hValid.symm.trans hLeft
      simp only [zOmega, hLeft, hRight, Bool.false_eq_true, if_false, SignSymmetric.neg_zero]
  | true =>
      have hRight : right.valid = true := hValid.symm.trans hLeft
      have hSided : Pid.TwoSided pid.config := by
        rw [config]
        exact twoSided_zPidAngleConfig
      have hLimit : lt (kZAxisSpeedLimit : NanRat) 0 = false := rfl
      simp only [zOmega, hLeft, hRight, if_true, hAngle hLeft, Pid.update_mirror hSided,
        SignSymmetric.clamp_neg hLimit]

/-- The speeds of the Z axis before they are encoded. -/
def zLeftOmega (m : GantryModule NanRat) : NanRat :=
  (zOmega m.zLeftPidAngle m.zLeftState (-(m.zAxisVirtualDistance * kZAxisRadPerDistance))).2

def zRightOmega (m : GantryModule NanRat) : NanRat :=
  (zOmega m.zRightPidAngle m.zRightState (m.zAxisVirtualDistance * kZAxisRadPerDistance)).2

/-- Sending ends with the two speeds. -/
theorem applyControlAndSend_port (m : GantryModule NanRat) (port : CanPort) :
    (m.applyControlAndSend port).2 =
      sendZOmega
        (sendZOmega
          (Actuator.sendMotorCurrent
            (Actuator.sendMotorCurrent port .kCan2 .kDji0x200 m.xCurrents).1
            .kCan3 .kDji0x200 m.yCurrents).1
          .kCan2 m.zLeftOmega)
        .kCan1 m.zRightOmega := rfl

/-- The controllers of the right motors are the mirror images of those of the left ones. -/
structure Mirrored (m : GantryModule NanRat) : Prop where
  xConfig : m.xLeftSpeedPid.config = djiSpeedPidConfig
  x : m.xRightSpeedPid = m.xLeftSpeedPid.mirror
  zConfig : m.zLeftPidAngle.config = zPidAngleConfig
  z : m.zRightPidAngle = m.zLeftPidAngle.mirror

/-- The four controllers. -/
def axisPids (m : GantryModule NanRat) : (Pid NanRat × Pid NanRat) × Pid NanRat × Pid NanRat :=
  ((m.xLeftSpeedPid, m.xRightSpeedPid), m.zLeftPidAngle, m.zRightPidAngle)

theorem Mirrored.of_eq {m m' : GantryModule NanRat} (mirrored : m.Mirrored)
    (same : axisPids m' = axisPids m) : m'.Mirrored := by
  simp only [axisPids, Prod.mk.injEq] at same
  obtain ⟨⟨hXLeft, hXRight⟩, hZLeft, hZRight⟩ := same
  obtain ⟨hXConfig, hX, hZConfig, hZ⟩ := mirrored
  refine ⟨?_, ?_, ?_, ?_⟩
  · rw [hXLeft, hXConfig]
  · rw [hXRight, hXLeft, hX]
  · rw [hZLeft, hZConfig]
  · rw [hZRight, hZLeft, hZ]

/-- Feedback of both axes from motors that turn against each other. -/
structure FeedbackOpposed (m : GantryModule NanRat) : Prop where
  x : DjiOpposed m.xLeftFeedback m.xRightFeedback
  z : CubemarsOpposed m.zLeftState m.zRightState

/-- What sending makes of opposite feedback. -/
theorem applyControlAndSend_mirrored {m : GantryModule NanRat} (mirrored : m.Mirrored)
    (opposed : m.FeedbackOpposed) (port : CanPort) :
    (m.applyControlAndSend port).1.Mirrored ∧
      (m.xCurrents.get Dji.slot0x202).toInt = -(m.xCurrents.get Dji.slot0x201).toInt ∧
      m.zRightOmega = -m.zLeftOmega := by
  obtain ⟨hXConfig, hX, hZConfig, hZ⟩ := mirrored
  obtain ⟨hXPid, hXCurrent⟩ := djiCurrent_mirror hXConfig opposed.x m.xTargetOmega
  have hZBoth := zOmega_mirror hZConfig opposed.z
    (-(m.zAxisVirtualDistance * kZAxisRadPerDistance))
  rw [SignSymmetric.neg_neg, ← hZ] at hZBoth
  rw [← hX] at hXPid hXCurrent
  refine ⟨⟨?_, hXPid, ?_, congrArg Prod.fst hZBoth⟩, hXCurrent, congrArg Prod.snd hZBoth⟩
  · exact (config_djiCurrent _ _ _).trans hXConfig
  · exact (config_zOmega _ _ _).trans hZConfig

/-- The two currents of a frame for the X axis are opposite. -/
def CurrentsOpposed (entry : CanBus × CanFrame) : Prop :=
  entry.1 = .kCan2 → entry.2.id = 0x200 →
    (Dji.slotCurrent entry.2.data Dji.slot0x202).toInt =
      -(Dji.slotCurrent entry.2.data Dji.slot0x201).toInt

/-- So it is in every frame that has been sent. -/
def PortOpposed (port : CanPort) : Prop := ∀ entry ∈ port.sent, CurrentsOpposed entry

theorem PortOpposed.cons {port : CanPort} (opposed : PortOpposed port)
    {entry : CanBus × CanFrame} (last : CurrentsOpposed entry) :
    PortOpposed { port with sent := entry :: port.sent } := by
  intro other hOther
  rcases List.mem_cons.mp hOther with rfl | hBefore
  · exact last
  · exact opposed other hBefore

/-- Frames of other identifiers hold no currents. -/
theorem PortOpposed.send {port : CanPort} (opposed : PortOpposed port) (bus : CanBus)
    {canId : UInt16} (other : canId ≠ 0x200) (data : Payload) :
    PortOpposed (port.sendStdDataOnBus bus canId data 8).1 := by
  rw [CanPort.sendStdDataOnBus_full]
  split_ifs
  · exact opposed.cons fun _ hId => absurd hId other
  · exact opposed

theorem PortOpposed.sendCurrents {port : CanPort} (opposed : PortOpposed port) (bus : CanBus)
    {currentCmd : Vector Int16 4}
    (currents : bus = .kCan2 →
      (currentCmd.get Dji.slot0x202).toInt = -(currentCmd.get Dji.slot0x201).toInt) :
    PortOpposed (Actuator.sendMotorCurrent port bus .kDji0x200 currentCmd).1 := by
  obtain ⟨payload, hSlots, hSent⟩ := Actuator.sendMotorCurrent_0x200 port bus currentCmd
  rw [hSent]
  split_ifs
  · refine opposed.cons fun hBus _ => ?_
    rw [hSlots, hSlots]
    exact currents hBus
  · exact opposed

theorem PortOpposed.sendZOmega {port : CanPort} (opposed : PortOpposed port) (bus : CanBus)
    (omega : NanRat) : PortOpposed (sendZOmega port bus omega) :=
  opposed.send bus (by decide) _

/-- Nothing is sent that is not opposite. -/
theorem portOpposed_applyControlAndSend {m : GantryModule NanRat}
    (currents : (m.xCurrents.get Dji.slot0x202).toInt = -(m.xCurrents.get Dji.slot0x201).toInt)
    {port : CanPort} (opposed : PortOpposed port) :
    PortOpposed (m.applyControlAndSend port).2 := by
  have hX := opposed.sendCurrents .kCan2 fun _ => currents
  have hY : PortOpposed (Actuator.sendMotorCurrent
      (Actuator.sendMotorCurrent port .kCan2 .kDji0x200 m.xCurrents).1
      .kCan3 .kDji0x200 m.yCurrents).1 := hX.sendCurrents .kCan3 fun hBus => nomatch hBus
  exact (hY.sendZOmega .kCan2 m.zLeftOmega).sendZOmega .kCan1 m.zRightOmega

theorem portOpposed_runLoopStartup (m : GantryModule NanRat) (canDev : CanBus → Bool) :
    PortOpposed (m.runLoopStartup { canDev := canDev, sent := [] }).2 := by
  have hEmpty : PortOpposed { canDev := canDev, sent := [] } := by
    intro entry hEntry
    cases hEntry
  have hOther : kCubemarsCanId ≠ 0x200 := by decide
  unfold runLoopStartup
  split_ifs
  · exact hEmpty
  · have hZero := (hEmpty.send .kCan2 hOther Cubemars.getSaveZeroFrame).send .kCan1 hOther
      Cubemars.getSaveZeroFrame
    exact (hZero.send .kCan2 hOther Cubemars.getEnterFrame).send .kCan1 hOther
      Cubemars.getEnterFrame

end GantryModule

namespace GantrySystem

open GantryModule

/-- An enabled tick with opposite feedback of both axes. -/
def MirroredTick (s : GantrySystem NanRat) (tick : GantryTick NanRat) : Prop :=
  (s.loop.receive tick.arrived tick.command).command.enable ≠ 0 ∧
    (s.loop.receive tick.arrived tick.command).gantry.FeedbackOpposed

/-- The speeds that the tick encodes and sends last are opposite. -/
def SpeedsOpposed (s : GantrySystem NanRat) (tick : GantryTick NanRat) : Prop :=
  ∃ port left right,
    (s.step tick).port = sendZOmega (sendZOmega port .kCan2 left) .kCan1 right ∧
      left = (s.loop.receive tick.arrived tick.command).gantry.zLeftOmega ∧
      right = (s.loop.receive tick.arrived tick.command).gantry.zRightOmega ∧ right = -left

/-- The frames sent so far are opposite, and so are the controllers. -/
structure Opposed (s : GantrySystem NanRat) : Prop where
  port : PortOpposed s.port
  gantry : s.loop.gantry.Mirrored

theorem opposed_start (canDev : CanBus → Bool) : Opposed (start canDev) where
  port := portOpposed_runLoopStartup (zeroed NanRat).initialized canDev
  gantry := by
    constructor <;> rfl

/-- A mirrored tick keeps both. -/
theorem opposed_step {s : GantrySystem NanRat} (opposed : s.Opposed) {tick : GantryTick NanRat}
    (mirrored : s.MirroredTick tick) : (s.step tick).Opposed ∧ s.SpeedsOpposed tick := by
  obtain ⟨hEnabled, hFeedback⟩ := mirrored
  have hSame := GantryLoop.view_receive axisPids (fun _ _ => rfl) (fun _ _ _ _ => rfl) s.loop
    tick.arrived tick.command
  obtain ⟨hGantry, hCurrents, hSpeeds⟩ := applyControlAndSend_mirrored
    (opposed.gantry.of_eq hSame) hFeedback s.port
  rw [SpeedsOpposed, step_enabled s tick hEnabled]
  exact ⟨⟨portOpposed_applyControlAndSend hCurrents opposed.port, hGantry⟩,
    _, _, _, applyControlAndSend_port _ s.port, rfl, rfl, hSpeeds⟩

/-- In a run of enabled ticks whose feedback is opposite, every frame of currents on CAN2
holds opposite currents for the X axis, and every tick sends opposite speeds to the Z axis. -/
theorem mirrored_axes (canDev : CanBus → Bool) (ticks : List (GantryTick NanRat))
    (mirrored : Run.Along step MirroredTick (start canDev) ticks) :
    Run.Always step (fun s => PortOpposed s.port) (start canDev) ticks ∧
      Run.Along step SpeedsOpposed (start canDev) ticks := by
  have hKept : ∀ s tick, Opposed s → MirroredTick s tick → Opposed (step s tick) :=
    fun _ _ opposed hTick => (opposed_step opposed hTick).1
  have hSpeeds : ∀ s tick, Opposed s → MirroredTick s tick → SpeedsOpposed s tick :=
    fun _ _ opposed hTick => (opposed_step opposed hTick).2
  exact ⟨Run.always_of_along hKept (fun _ opposed => opposed.port) (opposed_start canDev) mirrored,
    Run.along_of_invariant hKept hSpeeds (opposed_start canDev) mirrored⟩

instance (m : GantryModule NanRat) : Decidable m.FeedbackOpposed :=
  decidable_of_iff (DjiOpposed m.xLeftFeedback m.xRightFeedback ∧
      CubemarsOpposed m.zLeftState m.zRightState)
    ⟨fun ⟨x, z⟩ => ⟨x, z⟩, fun h => ⟨h.x, h.z⟩⟩

instance (s : GantrySystem NanRat) (tick : GantryTick NanRat) : Decidable (s.MirroredTick tick) :=
  inferInstanceAs (Decidable (_ ∧ _))

/-- Feedback of the right motor of the X axis while it turns against the left one. -/
def xRightTurning : CanRawFrameMessage where
  bus := 2
  canId := 0x202
  dlc := 8
  data := #v[0, 1, 0xff, 0x9c, 0, 0, 0, 0]

/-- Feedback of a motor of the Z axis. -/
def zTurned (bus high low : UInt8) : CanRawFrameMessage where
  bus := bus
  canId := 0x000
  dlc := 8
  data := #v[0, high, low, 0, 0, 0, 0, 0]

def moveBoth : GantryCommandMessage NanRat where
  xDelta := .num 1
  yDelta := 0
  zDelta := .num 1
  source := .kInputSourceDr16
  enable := 1
  sequence := 1

theorem mirrored_axes_turning :
    Run.Along step SpeedsOpposed (start fun _ => true)
      [⟨[xLeftTurning, xRightTurning], some moveBoth⟩,
        ⟨[zTurned 2 0x70 0x01, zTurned 1 0x8f 0xfe], none⟩] :=
  (mirrored_axes (fun _ => true) _ (by decide +kernel)).2

end GantrySystem

end RmTest.Modules

import RmTest.Library.Run
import RmTest.Modules.Arm
import RmTest.Modules.Gantry
import RmTest.Modules.Gimbal
import RmTest.Modules.RemoteInput

/-! The virtual targets of the joints over runs of commands. Floats are rationals
or NaN, which passes `std::clamp`. -/
namespace RmTest.Modules

open Channels FloatModel NanRat

/-- One target moved by a delta. -/
theorem within_clamp_add_iff {low high : ℚ} (order : low ≤ high) {target : NanRat}
    (within : Within (num low) (num high) target) (delta : NanRat) :
    Within (num low) (num high) (clamp (target + delta) (num low) (num high)) ↔ delta ≠ nan := by
  obtain ⟨a, rfl⟩ := within.exists_num
  rw [within_clamp_iff order, num_add_ne_nan_iff]

theorem within_zero {low high : ℚ} (hLow : low ≤ 0) (hHigh : 0 ≤ high) :
    Within (num low) (num high) 0 := (within_num low high 0).mpr ⟨hLow, hHigh⟩

namespace ArmModule

/-- The virtual targets of the arm are numbers within their limits. -/
structure TargetsHold (m : ArmModule NanRat) : Prop where
  claw : Within (-kClawLimit) kClawLimit m.clawsVirtualAngle
  elbowPitch : Within (-kElbowPitchLimit) kElbowPitchLimit m.elbowPitchJointVirtualAngle
  elbowYaw : Within (-kElbowYawLimit) kElbowYawLimit m.elbowYawJointVirtualAngle
  wristLeft : Within (-kWristLimit) kWristLimit m.wristJointLeftVirtualAngle
  wristRight : Within (-kWristLimit) kWristLimit m.wristJointRightVirtualAngle

/-- The deltas of a command that moves the arm are numbers. -/
def DeltasAreNumbers (command : ArmCommandMessage NanRat) : Prop :=
  command.enable ≠ 0 →
    command.clawDelta ≠ nan ∧ command.elbowPitchDelta ≠ nan ∧ command.elbowYawDelta ≠ nan ∧
      command.wristTwistDelta ≠ nan ∧ command.wristFlipDelta ≠ nan

/-- The claw keeps its target or takes the clamped one; it does not keep it against
a NaN, which is not less than anything. -/
theorem claw_controlClaw (m : ArmModule NanRat)
    (within : Within (-kClawLimit) kClawLimit m.clawsVirtualAngle) (delta : NanRat) :
    Within (-kClawLimit) kClawLimit
        (m.controlClaw (m.clawsVirtualAngle + delta)).clawsVirtualAngle ↔ delta ≠ nan := by
  have hClamp := within_clamp_add_iff (show (-(5 / 10) : ℚ) ≤ 5 / 10 by norm_num) within delta
  rw [controlClaw]
  split_ifs with hRefused
  · -- The claw refuses to close further only for an angle below its own.
    refine iff_of_true within ?_
    rintro rfl
    simp at hRefused
  · exact hClamp

theorem targets_controlClaw (m : ArmModule NanRat) (angle : NanRat) :
    (m.controlClaw angle).elbowPitchJointVirtualAngle = m.elbowPitchJointVirtualAngle ∧
      (m.controlClaw angle).elbowYawJointVirtualAngle = m.elbowYawJointVirtualAngle ∧
      (m.controlClaw angle).wristJointLeftVirtualAngle = m.wristJointLeftVirtualAngle ∧
      (m.controlClaw angle).wristJointRightVirtualAngle = m.wristJointRightVirtualAngle := by
  rw [controlClaw]
  split_ifs <;> exact ⟨rfl, rfl, rfl, rfl⟩

theorem targetsHold_handleCommand_iff {m : ArmModule NanRat} (holds : m.TargetsHold)
    (command : ArmCommandMessage NanRat) :
    (m.handleCommand command).TargetsHold ↔ DeltasAreNumbers command := by
  by_cases hEnable : command.enable = 0
  · have hHandled : m.handleCommand command = m.resetWrist := if_pos hEnable
    rw [hHandled]
    exact iff_of_true ⟨holds.claw, holds.elbowPitch, holds.elbowYaw, holds.wristLeft,
      holds.wristRight⟩ (fun h => absurd hEnable h)
  · obtain ⟨hPitchKept, hYawKept, hLeftKept, hRightKept⟩ :=
      m.targets_controlClaw (m.clawsVirtualAngle + command.clawDelta)
    have hClaw := claw_controlClaw m holds.claw command.clawDelta
    have hPitch := within_clamp_add_iff (show (-1 : ℚ) ≤ 1 by norm_num) holds.elbowPitch
      command.elbowPitchDelta
    have hYaw := within_clamp_add_iff (show (-(314 / 100) : ℚ) ≤ 314 / 100 by norm_num)
      holds.elbowYaw command.elbowYawDelta
    have hLeft := within_clamp_add_iff (show (-1 : ℚ) ≤ 1 by norm_num) holds.wristLeft
      (command.wristFlipDelta + command.wristTwistDelta)
    have hRight := within_clamp_add_iff (show (-1 : ℚ) ≤ 1 by norm_num) holds.wristRight
      (command.wristFlipDelta - command.wristTwistDelta)
    rw [← hPitchKept] at hPitch
    rw [← hYawKept] at hYaw
    rw [← hLeftKept] at hLeft
    rw [← hRightKept] at hRight
    have hSum : command.wristFlipDelta + command.wristTwistDelta ≠ nan ↔
        command.wristTwistDelta ≠ nan ∧ command.wristFlipDelta ≠ nan := by
      cases command.wristFlipDelta <;> cases command.wristTwistDelta <;> simp
    have hDifference : command.wristFlipDelta - command.wristTwistDelta ≠ nan ↔
        command.wristTwistDelta ≠ nan ∧ command.wristFlipDelta ≠ nan := by
      cases command.wristFlipDelta <;> cases command.wristTwistDelta <;> simp
    rw [handleCommand, if_neg hEnable, DeltasAreNumbers, imp_iff_right hEnable]
    constructor
    · intro h
      exact ⟨hClaw.mp h.claw, hPitch.mp h.elbowPitch, hYaw.mp h.elbowYaw,
        hSum.mp (hLeft.mp h.wristLeft)⟩
    · rintro ⟨hClawDelta, hPitchDelta, hYawDelta, hWristDeltas⟩
      exact ⟨hClaw.mpr hClawDelta, hPitch.mpr hPitchDelta, hYaw.mpr hYawDelta,
        hLeft.mpr (hSum.mpr hWristDeltas), hRight.mpr (hDifference.mpr hWristDeltas)⟩

/-- Feedback does not move the targets. -/
theorem targetsHold_decodeCanFrame {m : ArmModule NanRat} (holds : m.TargetsHold)
    (frame : CanRawFrameMessage) : (m.decodeCanFrame frame).TargetsHold := by
  have hKept := m.virtualTargets_decodeCanFrame frame
  simp only [virtualTargets, List.cons.injEq, and_true] at hKept
  obtain ⟨hClaw, hPitch, hYaw, hLeft, hRight⟩ := hKept
  exact ⟨hClaw ▸ holds.claw, hPitch ▸ holds.elbowPitch, hYaw ▸ holds.elbowYaw,
    hLeft ▸ holds.wristLeft, hRight ▸ holds.wristRight⟩

theorem targetsHold_initialized : ((zeroed NanRat).initialized).TargetsHold := by
  have hClaw := within_zero (show (-(5 / 10) : ℚ) ≤ 0 by norm_num) (show 0 ≤ 5 / 10 by norm_num)
  have hUnit := within_zero (show (-1 : ℚ) ≤ 0 by norm_num) (show 0 ≤ 1 by norm_num)
  have hYaw := within_zero (show (-(314 / 100) : ℚ) ≤ 0 by norm_num)
    (show 0 ≤ 314 / 100 by norm_num)
  exact ⟨hClaw, hUnit, hYaw, hUnit, hUnit⟩

end ArmModule

namespace GantryModule

/-- The virtual targets of the gantry are numbers within their limits. -/
structure TargetsHold (m : GantryModule NanRat) : Prop where
  x : Within (-kXAxisLimit) kXAxisLimit m.xAxisVirtualDistance
  y : Within (-kYAxisLimit) kYAxisLimit m.yAxisVirtualDistance
  z : Within (-kZAxisLimit) kZAxisLimit m.zAxisVirtualDistance

/-- The deltas of a command that moves the gantry are numbers. -/
def DeltasAreNumbers (command : GantryCommandMessage NanRat) : Prop :=
  command.enable ≠ 0 → command.xDelta ≠ nan ∧ command.yDelta ≠ nan ∧ command.zDelta ≠ nan

theorem targetsHold_zero {m : GantryModule NanRat} (hX : m.xAxisVirtualDistance = 0)
    (hY : m.yAxisVirtualDistance = 0) (hZ : m.zAxisVirtualDistance = 0) : m.TargetsHold := by
  have hTen := within_zero (show (-10 : ℚ) ≤ 0 by norm_num) (show 0 ≤ 10 by norm_num)
  have hFive := within_zero (show (-5 : ℚ) ≤ 0 by norm_num) (show 0 ≤ 5 by norm_num)
  constructor
  · rw [hX]
    exact hTen
  · rw [hY]
    exact hTen
  · rw [hZ]
    exact hFive

theorem targetsHold_handleCommand_iff {m : GantryModule NanRat} (holds : m.TargetsHold)
    (command : GantryCommandMessage NanRat) :
    (m.handleCommand command).TargetsHold ↔ DeltasAreNumbers command := by
  by_cases hEnable : command.enable = 0
  · have hHandled : m.handleCommand command =
        { m with
          xAxisVirtualDistance := 0, yAxisVirtualDistance := 0, zAxisVirtualDistance := 0 } :=
      if_pos hEnable
    rw [hHandled]
    exact iff_of_true (targetsHold_zero rfl rfl rfl) (fun h => absurd hEnable h)
  · have hX := within_clamp_add_iff (show (-10 : ℚ) ≤ 10 by norm_num) holds.x command.xDelta
    have hY := within_clamp_add_iff (show (-10 : ℚ) ≤ 10 by norm_num) holds.y command.yDelta
    have hZ := within_clamp_add_iff (show (-5 : ℚ) ≤ 5 by norm_num) holds.z command.zDelta
    rw [handleCommand, if_neg hEnable, DeltasAreNumbers, imp_iff_right hEnable, ← hX, ← hY, ← hZ]
    exact ⟨fun h => ⟨h.x, h.y, h.z⟩, fun h => ⟨h.1, h.2.1, h.2.2⟩⟩

theorem targetsHold_initialized : ((zeroed NanRat).initialized).TargetsHold :=
  targetsHold_zero rfl rfl rfl

end GantryModule

namespace GimbalModule

/-- The virtual targets of the gimbal are numbers within their limits. -/
structure TargetsHold (m : GimbalModule NanRat) : Prop where
  yaw : Within kYawMin kYawMax m.yawAngleDeg
  pitch : Within kPitchMin kPitchMax m.pitchAngleDeg

/-- The deltas of a command that moves the gimbal are numbers. -/
def DeltasAreNumbers (command : GimbalCommandMessage NanRat) : Prop :=
  command.enable ≠ 0 → command.yawDeltaDeg ≠ nan ∧ command.pitchDeltaDeg ≠ nan

theorem targetsHold_handleCommand_iff {m : GimbalModule NanRat} (holds : m.TargetsHold)
    (command : GimbalCommandMessage NanRat) :
    (m.handleCommand command).TargetsHold ↔ DeltasAreNumbers command := by
  by_cases hEnable : command.enable = 0
  · rw [handleCommand, if_pos hEnable]
    exact iff_of_true ⟨holds.yaw, holds.pitch⟩ (fun h => absurd hEnable h)
  · have hYaw := within_clamp_add_iff (show (-180 : ℚ) ≤ 180 by norm_num) holds.yaw
      command.yawDeltaDeg
    have hPitch := within_clamp_add_iff (show (-30 : ℚ) ≤ 45 by norm_num) holds.pitch
      command.pitchDeltaDeg
    rw [handleCommand, if_neg hEnable, DeltasAreNumbers, imp_iff_right hEnable, ← hYaw, ← hPitch]
    exact ⟨fun h => ⟨h.yaw, h.pitch⟩, fun h => ⟨h.1, h.2⟩⟩

theorem targetsHold_initialized (servoReady : Bool) (readId : UInt8 → Option UInt8) :
    (initialized servoReady readId : GimbalModule NanRat).TargetsHold :=
  ⟨within_zero (show (-180 : ℚ) ≤ 0 by norm_num) (show 0 ≤ 180 by norm_num),
    within_zero (show (-30 : ℚ) ≤ 0 by norm_num) (show 0 ≤ 45 by norm_num)⟩

end GimbalModule

structure JointSystem where
  arm : ArmModule NanRat
  gantry : GantryModule NanRat
  gimbal : GimbalModule NanRat

inductive JointEvent where
  | arm (command : ArmCommandMessage NanRat)
  | gantry (command : GantryCommandMessage NanRat)
  | gimbal (command : GimbalCommandMessage NanRat)
  /-- Feedback for the arm, on whose claw torque its commands depend. -/
  | armFeedback (frame : CanRawFrameMessage)

namespace JointSystem

/-- After `Initialize`, whatever it finds of the servos. -/
def start (servoReady : Bool) (readId : UInt8 → Option UInt8) : JointSystem where
  arm := (ArmModule.zeroed NanRat).initialized
  gantry := (GantryModule.zeroed NanRat).initialized
  gimbal := .initialized servoReady readId

def step (s : JointSystem) : JointEvent → JointSystem
  | .arm command => { s with arm := s.arm.handleCommand command }
  | .gantry command => { s with gantry := s.gantry.handleCommand command }
  | .gimbal command => { s with gimbal := s.gimbal.handleCommand command }
  | .armFeedback frame => { s with arm := s.arm.decodeCanFrame frame }

structure TargetsHold (s : JointSystem) : Prop where
  arm : s.arm.TargetsHold
  gantry : s.gantry.TargetsHold
  gimbal : s.gimbal.TargetsHold

/-- A command that moves something has numbers for deltas. -/
def DeltasAreNumbers (_ : JointSystem) : JointEvent → Prop
  | .arm command => ArmModule.DeltasAreNumbers command
  | .gantry command => GantryModule.DeltasAreNumbers command
  | .gimbal command => GimbalModule.DeltasAreNumbers command
  | .armFeedback _ => True

theorem deltasAreNumbers_iff (s : JointSystem) (event : JointEvent) (holds : s.TargetsHold) :
    s.DeltasAreNumbers event ↔ (s.step event).TargetsHold := by
  cases event with
  | arm command =>
      refine (ArmModule.targetsHold_handleCommand_iff holds.arm command).symm.trans ?_
      exact ⟨fun h => ⟨h, holds.gantry, holds.gimbal⟩, fun h => h.arm⟩
  | gantry command =>
      refine (GantryModule.targetsHold_handleCommand_iff holds.gantry command).symm.trans ?_
      exact ⟨fun h => ⟨holds.arm, h, holds.gimbal⟩, fun h => h.gantry⟩
  | gimbal command =>
      refine (GimbalModule.targetsHold_handleCommand_iff holds.gimbal command).symm.trans ?_
      exact ⟨fun h => ⟨holds.arm, holds.gantry, h⟩, fun h => h.gimbal⟩
  | armFeedback frame =>
      exact iff_of_true trivial
        ⟨ArmModule.targetsHold_decodeCanFrame holds.arm frame, holds.gantry, holds.gimbal⟩

/-- The targets stay numbers within their limits throughout a run exactly if every
command that moves something has numbers for deltas. -/
theorem targetsHold_iff (servoReady : Bool) (readId : UInt8 → Option UInt8)
    (events : List JointEvent) :
    Run.Along step DeltasAreNumbers (start servoReady readId) events ↔
      Run.Always step TargetsHold (start servoReady readId) events :=
  Run.along_iff_always (fun _ _ (_ : True) => trivial)
    (fun s event _ holds => s.deltasAreNumbers_iff event holds) trivial
    ⟨ArmModule.targetsHold_initialized, GantryModule.targetsHold_initialized,
      GimbalModule.targetsHold_initialized servoReady readId⟩ events

/-- The text `dr16 nan 0 0 1`, terminated, as the polled receiver chunks it. -/
def nanLine : List UartRawFrameMessage :=
  [0x64, 0x72, 0x31, 0x36, 0x20, 0x6e, 0x61, 0x6e, 0x20, 0x30, 0x20, 0x30, 0x20, 0x31, 0x0a].map
    UartRawFrameMessage.ofByte

/-- The gantry command that the remote input publishes in the tick in which it
receives that line. -/
def nanCommand : GantryCommandMessage NanRat :=
  ((RemoteInputModule.zeroed NanRat).initialized.runLoopTick nanLine).2.2.gantry

theorem nan_passes_clamp :
    ¬ Run.Always step TargetsHold (start false fun _ => none) [.gantry nanCommand] := by
  intro hAlways
  have hX := hAlways.2.gantry.x
  revert hX
  decide +kernel

end JointSystem

end RmTest.Modules

import RmTest.Modules.Arm
import RmTest.Verification.MitFrames

/-! What the DM motors of the arm make of CAN3, whatever else is sent on the buses. A motor
obeys its control frames, and takes every other frame with its identifier as a command. -/
namespace RmTest.Protocols

open Channels FloatModel

namespace Mit

/-- What five raw values stand for. -/
def valueOf (range : MitRange ℚ) (p v kp kd t : ℕ) : MitCommand ℚ where
  position := Quantise.value range.pMin range.pMax (steps 16) p
  velocity := Quantise.value range.vMin range.vMax (steps 12) v
  kp := Quantise.value range.kpMin range.kpMax (steps 12) kp
  kd := Quantise.value range.kdMin range.kdMax (steps 12) kd
  torque := Quantise.value range.tMin range.tMax (steps 12) t

/-- A command frame as a motor with this range reads it. -/
def readCommand (range : MitRange ℚ) (data : Payload) : MitCommand ℚ :=
  let word := Bits.beNat data.toList
  valueOf range (Bits.field word 48 16) (Bits.field word 36 12) (Bits.field word 24 12)
    (Bits.field word 12 12) (Bits.field word 0 12)

/-- A motor reads what is left of a command after quantisation. -/
theorem readCommand_pack {cmd : MitCommand ℚ} {range : MitRange ℚ}
    (valid : ∀ field ∈ fields cmd range, field.low < field.high) :
    readCommand range (packMitCommand cmd range) =
      valueOf range (floatToUInt cmd.position range.pMin range.pMax 16).toNat
        (floatToUInt cmd.velocity range.vMin range.vMax 12).toNat
        (floatToUInt cmd.kp range.kpMin range.kpMax 12).toNat
        (floatToUInt cmd.kd range.kdMin range.kdMax 12).toNat
        (floatToUInt cmd.torque range.tMin range.tMax 12).toNat := by
  have hFields := field_packMitCommand valid
  simp only [fields, List.forall_mem_cons] at hFields
  obtain ⟨hP, hV, hKp, hKd, hT, -⟩ := hFields
  rw [readCommand, hP, hV, hKp, hKd, hT]

/-- A control frame is the command with all values but the last at their maximum. -/
theorem field_fixedCommand (tail : UInt8) :
    Bits.field (Bits.beNat (fixedCommand tail).toList) 24 12 = 4095 := by
  have hList : (fixedCommand tail).toList = [0xff, 0xff, 0xff, 0xff, 0xff, 0xff, 0xff, tail] := rfl
  have hTail := tail.toNat_lt
  rw [hList]
  simp only [Bits.beNat, Bits.field, List.reverse_cons, List.reverse_nil, List.nil_append,
    List.cons_append, Bits.leNat_cons, Bits.leNat_nil]
  have hOnes : (0xff : UInt8).toNat = 255 := rfl
  rw [hOnes]
  omega

end Mit

namespace Dm

structure DmMotor where
  enabled : Bool
  order : Option (Mit.MitCommand ℚ)

namespace DmMotor

def off : DmMotor := ⟨false, none⟩

def receive (range : Mit.MitRange ℚ) (motor : DmMotor) (data : Payload) : DmMotor :=
  if data = getControlCommandFrame .kEnter then { motor with enabled := true }
  else if data = getControlCommandFrame .kExit then { motor with enabled := false }
  else if data = getControlCommandFrame .kClearError ∨ data = getControlCommandFrame .kSaveZero then
    motor
  else { motor with order := some (Mit.readCommand range data) }

theorem receive_enter (range : Mit.MitRange ℚ) (motor : DmMotor) :
    motor.receive range (getControlCommandFrame .kEnter) = { motor with enabled := true } :=
  if_pos rfl

theorem receive_clearError (range : Mit.MitRange ℚ) (motor : DmMotor) :
    motor.receive range (getControlCommandFrame .kClearError) = motor := by
  have hEnter : getControlCommandFrame .kClearError ≠ getControlCommandFrame .kEnter := by decide
  have hExit : getControlCommandFrame .kClearError ≠ getControlCommandFrame .kExit := by decide
  rw [receive, if_neg hEnter, if_neg hExit, if_pos (.inl rfl)]

/-- A command whose stiffness is not at its maximum is no control frame. -/
theorem receive_command {cmd : Mit.MitCommand ℚ} {range : Mit.MitRange ℚ}
    (valid : ∀ field ∈ Mit.fields cmd range, field.low < field.high)
    (below : (Mit.floatToUInt cmd.kp range.kpMin range.kpMax 12).toNat < 4095) (motor : DmMotor) :
    motor.receive range (packMitCommand cmd range) =
      { motor with order := some (Mit.readCommand range (packMitCommand cmd range)) } := by
  have hField := Mit.field_packMitCommand valid ⟨24, 12, cmd.kp, range.kpMin, range.kpMax⟩
    (by simp [Mit.fields])
  have hOther (tail : UInt8) : packMitCommand cmd range ≠ Mit.fixedCommand tail := by
    intro hSame
    have hFixed := Mit.field_fixedCommand tail
    rw [← hSame] at hFixed
    exact below.ne (hField.symm.trans hFixed)
  have hControl (command : DmControlCommand) :
      packMitCommand cmd range ≠ getControlCommandFrame command := by
    cases command <;> exact hOther _
  rw [receive, if_neg (hControl .kEnter), if_neg (hControl .kExit),
    if_neg (not_or.mpr ⟨hControl .kClearError, hControl .kSaveZero⟩)]

end DmMotor

end Dm

end RmTest.Protocols

namespace RmTest.Platform.CanPort

open Channels Protocols

/-- The motor with an identifier on a bus, after all that was sent on the bus. -/
def motorOn (range : Mit.MitRange ℚ) (port : CanPort) (bus : CanBus) (canId : UInt16) :
    Dm.DmMotor :=
  port.sent.foldr
    (fun sent motor =>
      if sent.1 = bus ∧ sent.2.id = canId then motor.receive range sent.2.data else motor)
    .off

variable (range : Mit.MitRange ℚ) (port : CanPort) (bus : CanBus) {sentBus : CanBus}
  {canId sentId : UInt16}

theorem motorOn_own (present : port.canDev bus = true) (data : Payload) :
    motorOn range (port.sendStdDataOnBus bus canId data 8).1 bus canId =
      (motorOn range port bus canId).receive range data := by
  rw [sendStdDataOnBus_full, if_pos present]
  exact if_pos ⟨rfl, rfl⟩

/-- Other frames, whether they are sent or not, are not for the motor. -/
theorem motorOn_other (other : ¬(sentBus = bus ∧ sentId = canId)) (data : Payload) (dlc : UInt8) :
    motorOn range (port.sendStdDataOnBus sentBus sentId data dlc).1 bus canId =
      motorOn range port bus canId := by
  unfold sendStdDataOnBus
  split_ifs
  · rfl
  · rfl
  · exact if_neg other

end RmTest.Platform.CanPort

namespace RmTest.Modules

open Channels FloatModel Platform Protocols Services

/-- The joints that DM motors drive. -/
inductive ArmJoint where
  | claw
  | elbowPitch
  | elbowYaw
  deriving DecidableEq

namespace ArmJoint

def canId : ArmJoint → UInt16
  | .claw => ArmModule.kDmClawCanId
  | .elbowPitch => ArmModule.kDmElbowPitchCanId
  | .elbowYaw => ArmModule.kDmElbowYawCanId

def angle (m : ArmModule ℚ) : ArmJoint → ℚ
  | .claw => m.clawsVirtualAngle
  | .elbowPitch => m.elbowPitchJointVirtualAngle
  | .elbowYaw => m.elbowYawJointVirtualAngle

def published (state : ArmStateMessage ℚ) : ArmJoint → ℚ
  | .claw => state.clawVirtualAngle
  | .elbowPitch => state.elbowPitchVirtualAngle
  | .elbowYaw => state.elbowYawVirtualAngle

def limit : ArmJoint → ℚ
  | .claw => ArmModule.kClawLimit
  | .elbowPitch => ArmModule.kElbowPitchLimit
  | .elbowYaw => ArmModule.kElbowYawLimit

end ArmJoint

namespace ArmModule

/-- The motor of a joint, as CAN3 leaves it. -/
def motor (port : CanPort) (joint : ArmJoint) : Dm.DmMotor :=
  port.motorOn dmMitRange .kCan3 joint.canId

/-- What a joint is commanded. The stiffness is ten up to quantisation, and the middle of the
ranges of velocity and torque falls between two codes. -/
def commandAt (position : ℚ) : Mit.MitCommand ℚ where
  position := position
  velocity := 10 / 4095
  kp := 41000 / 4095
  kd := 0
  torque := 29 / 4095

/-- The position that stands for an angle in a frame. -/
def quantised (angle : ℚ) : ℚ :=
  Quantise.value (-125 / 10) (125 / 10) (Mit.steps 16)
    (Mit.floatToUInt angle (-125 / 10) (125 / 10) 16).toNat

theorem abs_quantised_sub_le (angle : ℚ) :
    |quantised angle - clamp angle (-125 / 10) (125 / 10)| ≤ 25 / 131070 := by
  have hClose := Mit.abs_dequantised_sub_le (show (-125 / 10 : ℚ) < 125 / 10 by norm_num)
    (Nat.le_refl 16) (by omega) angle
  rw [quantised, Quantise.value, Int.cast_natCast, Mit.cast_steps]
  refine hClose.trans (le_of_eq ?_)
  norm_num

/-- The command of `SendDmMitCommand` as its motor takes it. -/
theorem receive_dmMitCommand (motor : Dm.DmMotor) (angle : ℚ) :
    motor.receive dmMitRange
        (Dm.packMitCommand ⟨angle, 0, lit 10, 0, 0⟩ (dmMitRange : Mit.MitRange ℚ)) =
      { motor with order := some (commandAt (quantised angle)) } := by
  have hValid : ∀ field ∈ Mit.fields ⟨angle, 0, lit 10, 0, 0⟩ (dmMitRange : Mit.MitRange ℚ),
      field.low < field.high := by
    simp only [Mit.fields, dmMitRange, List.forall_mem_cons, lit_rat]
    norm_num
  have hV : (Mit.floatToUInt (0 : ℚ) (-10) 10 12).toNat = 2048 := by decide +kernel
  have hKp : (Mit.floatToUInt (10 : ℚ) 0 500 12).toNat = 82 := by decide +kernel
  have hKd : (Mit.floatToUInt (0 : ℚ) 0 5 12).toNat = 0 := by decide +kernel
  have hT : (Mit.floatToUInt (0 : ℚ) (-29) 29 12).toNat = 2048 := by decide +kernel
  have hRead : Mit.readCommand dmMitRange (Mit.packMitCommand ⟨angle, 0, lit 10, 0, 0⟩ dmMitRange) =
      commandAt (quantised angle) := by
    rw [Mit.readCommand_pack hValid]
    simp only [dmMitRange, lit_rat, hV, hKp, hKd, hT, Mit.valueOf, commandAt,
      Mit.MitCommand.mk.injEq]
    refine ⟨rfl, ?_, ?_, ?_, ?_⟩
    · norm_num [Quantise.value, Mit.steps]
    · norm_num [Quantise.value, Mit.steps]
    · norm_num [Quantise.value, Mit.steps]
    · norm_num [Quantise.value, Mit.steps]
  rw [Dm.DmMotor.receive_command hValid, Dm.packMitCommand, hRead]
  simp only [dmMitRange, lit_rat, hKp]
  decide

theorem canId_injective {joint other : ArmJoint} (same : joint.canId = other.canId) :
    joint = other := by
  cases joint <;> cases other <;> first | rfl | exact absurd same (by decide)

/-- A command for one joint is for no other. -/
theorem motor_sendDmMitCommand {port : CanPort} (present : port.canDev .kCan3 = true)
    (joint sent : ArmJoint) (angle : ℚ) :
    motor (sendDmMitCommand port sent.canId angle (lit 10) 0).1 joint =
      if sent = joint then { motor port joint with order := some (commandAt (quantised angle)) }
      else motor port joint := by
  split_ifs with hSame
  · subst hSame
    exact (port.motorOn_own dmMitRange .kCan3 present _).trans (receive_dmMitCommand _ angle)
  · exact port.motorOn_other dmMitRange .kCan3 (fun h => hSame (canId_injective h.2)) _ 8

theorem canDev_sendDmMitCommand (port : CanPort) (canId : UInt16) (position kp kd : ℚ) :
    (sendDmMitCommand port canId position kp kd).1.canDev = port.canDev :=
  port.canDev_sendStdDataOnBus ..

theorem motor_sendDmMitCommands (m : ArmModule ℚ) {port : CanPort}
    (present : port.canDev .kCan3 = true) (joint : ArmJoint) :
    motor (m.sendDmMitCommands port) joint =
      { motor port joint with order := some (commandAt (quantised (joint.angle m))) } := by
  have hClaw := motor_sendDmMitCommand present joint .claw m.clawsVirtualAngle
  have hFirst : (sendDmMitCommand port ArmJoint.claw.canId m.clawsVirtualAngle (lit 10) 0).1.canDev
      .kCan3 = true := by rw [canDev_sendDmMitCommand]; exact present
  generalize hPort1 : (sendDmMitCommand port ArmJoint.claw.canId m.clawsVirtualAngle (lit 10) 0).1 =
    port1 at *
  have hPitch := motor_sendDmMitCommand hFirst joint .elbowPitch m.elbowPitchJointVirtualAngle
  have hSecond : (sendDmMitCommand port1 ArmJoint.elbowPitch.canId m.elbowPitchJointVirtualAngle
      (lit 10) 0).1.canDev .kCan3 = true := by rw [canDev_sendDmMitCommand]; exact hFirst
  generalize hPort2 : (sendDmMitCommand port1 ArmJoint.elbowPitch.canId
    m.elbowPitchJointVirtualAngle (lit 10) 0).1 = port2 at *
  have hYaw := motor_sendDmMitCommand hSecond joint .elbowYaw m.elbowYawJointVirtualAngle
  have hSend : m.sendDmMitCommands port = (sendDmMitCommand port2 ArmJoint.elbowYaw.canId
      m.elbowYawJointVirtualAngle (lit 10) 0).1 := by
    rw [← hPort2, ← hPort1]
    rfl
  rw [hSend, hYaw, hPitch, hClaw]
  cases joint <;> rfl

/-- The frame of the wrist currents is for no joint. -/
theorem motor_applyWristSpeedPidAndSend (m : ArmModule ℚ) (port : CanPort) (joint : ArmJoint) :
    motor (m.applyWristSpeedPidAndSend port).2 joint = motor port joint := by
  obtain ⟨payload, _, hSent⟩ := Actuator.sendMotorCurrent_0x200 port .kCan3 m.wristCurrents.2
  have hOther : ¬((CanBus.kCan3 = .kCan3) ∧ (0x200 : UInt16) = joint.canId) := fun h => by
    cases joint <;> exact absurd h.2 (by decide)
  have hPort : (m.applyWristSpeedPidAndSend port).2 =
      (Actuator.sendMotorCurrent port .kCan3 .kDji0x200 m.wristCurrents.2).1 := rfl
  rw [hPort, hSent]
  split_ifs
  · exact if_neg hOther
  · rfl

/-- The motors clear their errors and are switched on. -/
theorem motor_sendDmStartupSequence {port : CanPort} (present : port.canDev .kCan3 = true)
    (joint : ArmJoint) :
    motor (sendDmStartupSequence port) joint = { motor port joint with enabled := true } ∧
      (sendDmStartupSequence port).canDev .kCan3 = true := by
  have hSend (port : CanPort) (present : port.canDev .kCan3 = true) (sent : ArmJoint)
      (command : Dm.DmControlCommand) :
      motor (sendDmFrameOnCan3 port sent.canId (Dm.getControlCommandFrame command) 8).1 joint =
          (if sent = joint then
            (motor port joint).receive dmMitRange (Dm.getControlCommandFrame command)
          else motor port joint) ∧
        (sendDmFrameOnCan3 port sent.canId (Dm.getControlCommandFrame command) 8).1.canDev .kCan3 =
          true := by
    constructor
    · split_ifs with hSame
      · subst hSame
        exact port.motorOn_own dmMitRange .kCan3 present _
      · exact port.motorOn_other dmMitRange .kCan3 (fun h => hSame (canId_injective h.2)) _ 8
    · rw [sendDmFrameOnCan3, CanPort.canDev_sendStdDataOnBus]
      exact present
  have hRound (command : Dm.DmControlCommand) (port : CanPort)
      (present : port.canDev .kCan3 = true) :
      motor ([kDmClawCanId, kDmElbowPitchCanId, kDmElbowYawCanId].foldl (fun port canId =>
          (sendDmFrameOnCan3 port canId (Dm.getControlCommandFrame command) 8).1) port) joint =
          (motor port joint).receive dmMitRange (Dm.getControlCommandFrame command) ∧
        ([kDmClawCanId, kDmElbowPitchCanId, kDmElbowYawCanId].foldl (fun port canId =>
          (sendDmFrameOnCan3 port canId (Dm.getControlCommandFrame command) 8).1)
            port).canDev .kCan3 = true := by
    obtain ⟨hClaw, hFirst⟩ := hSend port present .claw command
    obtain ⟨hPitch, hSecond⟩ := hSend _ hFirst .elbowPitch command
    obtain ⟨hYaw, hThird⟩ := hSend _ hSecond .elbowYaw command
    rw [hPitch, hClaw] at hYaw
    refine ⟨hYaw.trans ?_, hThird⟩
    cases joint <;> rfl
  obtain ⟨hClear, hCleared⟩ := hRound .kClearError port present
  obtain ⟨hEnter, hEntered⟩ := hRound .kEnter _ hCleared
  rw [hClear, Dm.DmMotor.receive_clearError, Dm.DmMotor.receive_enter] at hEnter
  exact ⟨hEnter, hEntered⟩

def WithinLimits (m : ArmModule ℚ) : Prop := ∀ joint : ArmJoint, |joint.angle m| ≤ joint.limit

theorem withinLimits_handleCommand {m : ArmModule ℚ} (within : m.WithinLimits)
    (command : ArmCommandMessage ℚ) : (m.handleCommand command).WithinLimits := by
  have hClamp (x : ℚ) (joint : ArmJoint) : |clamp x (-joint.limit) joint.limit| ≤ joint.limit :=
    abs_clamp_rat_le x (by cases joint <;> norm_num [ArmJoint.limit, kClawLimit, kElbowPitchLimit,
      kElbowYawLimit])
  have hClaw (m : ArmModule ℚ) (held : |m.clawsVirtualAngle| ≤ ArmJoint.claw.limit) (x : ℚ) :
      |(m.controlClaw x).clawsVirtualAngle| ≤ ArmJoint.claw.limit := by
    simp only [controlClaw]
    split_ifs
    · exact held
    · exact hClamp x .claw
  rw [handleCommand]
  split_ifs
  · exact within
  · intro joint
    cases joint with
    | claw => exact hClaw m (within .claw) _
    | elbowPitch => exact hClamp _ .elbowPitch
    | elbowYaw => exact hClamp _ .elbowYaw

theorem withinLimits_receive {m : ArmModule ℚ} (within : m.WithinLimits)
    (frames : List CanRawFrameMessage) (command : Option (ArmCommandMessage ℚ)) :
    (m.receive frames command).WithinLimits := by
  have hTargets := m.virtualTargets_decodeCanFramesInQueue frames
  have hDecoded : (m.decodeCanFramesInQueue frames).WithinLimits := by
    simp only [virtualTargets, List.cons.injEq, and_true] at hTargets
    obtain ⟨hClaw, hPitch, hYaw, -⟩ := hTargets
    intro joint
    have hAngle : joint.angle (m.decodeCanFramesInQueue frames) = joint.angle m := by
      cases joint with
      | claw => exact hClaw
      | elbowPitch => exact hPitch
      | elbowYaw => exact hYaw
    rw [hAngle]
    exact within joint
  cases command with
  | none => exact hDecoded
  | some command => exact withinLimits_handleCommand hDecoded command

end ArmModule

/-- What happens on the buses: an iteration of the arm's `RunLoop`, or any other frame. -/
inductive ArmBusEvent where
  | tick (frames : List CanRawFrameMessage) (command : Option (ArmCommandMessage ℚ))
  | other (bus : CanBus) (canId : UInt16) (data : Payload) (dlc : UInt8)

/-- The frame is not for a joint of the arm. -/
def ArmBusEvent.KeepsOff : ArmBusEvent → Prop
  | .tick _ _ => True
  | .other bus canId _ _ => ∀ joint : ArmJoint, ¬(bus = .kCan3 ∧ canId = joint.canId)

structure ArmOnBus where
  arm : ArmModule ℚ
  port : CanPort

namespace ArmOnBus

open ArmModule

/-- `Initialize`, and `RunLoop` up to its loop. -/
def started (arm : ArmModule ℚ) (port : CanPort) : ArmOnBus where
  arm := (arm.initialized.runLoopStartup port).1
  port := (arm.initialized.runLoopStartup port).2

def step (s : ArmOnBus) : ArmBusEvent → ArmOnBus
  | .tick frames command =>
      { arm := (s.arm.runLoopTick s.port frames command).1
        port := (s.arm.runLoopTick s.port frames command).2.1 }
  | .other bus canId data dlc =>
      { s with port := (s.port.sendStdDataOnBus bus canId data dlc).1 }

structure Driven (s : ArmOnBus) : Prop where
  present : s.port.canDev .kCan3 = true
  enabled : ∀ joint, (motor s.port joint).enabled = true
  limits : s.arm.WithinLimits

theorem driven_started (arm : ArmModule ℚ) {port : CanPort} (present : port.canDev .kCan3 = true) :
    (started arm port).Driven := by
  have hLimits : arm.initialized.WithinLimits := by
    intro joint
    cases joint <;> norm_num [ArmJoint.angle, initialized, ArmJoint.limit, kClawLimit,
      kElbowPitchLimit, kElbowYawLimit]
  refine ⟨(motor_sendDmStartupSequence present .claw).2, fun joint => ?_, hLimits⟩
  exact congrArg Dm.DmMotor.enabled (motor_sendDmStartupSequence present joint).1

/-- After a tick a motor has the command for the angle that the tick publishes. -/
theorem motor_tick {s : ArmOnBus} (driven : s.Driven) (frames : List CanRawFrameMessage)
    (command : Option (ArmCommandMessage ℚ)) (joint : ArmJoint) :
    motor (s.step (.tick frames command)).port joint =
      { motor s.port joint with
        order := some (commandAt (quantised
          (joint.published (s.arm.runLoopTick s.port frames command).2.2))) } := by
  have hPort : (s.step (.tick frames command)).port =
      ((s.arm.receive frames command).applyWristSpeedPidAndSend
        ((s.arm.receive frames command).sendDmMitCommands s.port)).2 := rfl
  rw [hPort, motor_applyWristSpeedPidAndSend, motor_sendDmMitCommands _ driven.present]
  cases joint <;> rfl

theorem driven_step {s : ArmOnBus} (driven : s.Driven) {event : ArmBusEvent}
    (keepsOff : event.KeepsOff) : (s.step event).Driven := by
  cases event with
  | tick frames command =>
      refine ⟨?_, fun joint => ?_, withinLimits_receive driven.limits frames command⟩
      · rw [← driven.present]
        exact congrFun (canDev_runLoopTick s.arm s.port frames command) .kCan3
      · rw [motor_tick driven]
        exact driven.enabled joint
  | other bus canId data dlc =>
      refine ⟨?_, fun joint => ?_, driven.limits⟩
      · rw [← driven.present]
        exact congrFun (s.port.canDev_sendStdDataOnBus bus canId data dlc) .kCan3
      · have hMotor : motor (s.step (.other bus canId data dlc)).port joint = motor s.port joint :=
          s.port.motorOn_other dmMitRange .kCan3 (keepsOff joint) data dlc
        rw [hMotor]
        exact driven.enabled joint

theorem driven_run {s : ArmOnBus} (driven : s.Driven) {events : List ArmBusEvent}
    (keepOff : ∀ event ∈ events, event.KeepsOff) : (events.foldl step s).Driven := by
  induction events generalizing s with
  | nil => exact driven
  | cons event rest ih =>
      obtain ⟨hFirst, hRest⟩ := List.forall_mem_cons.mp keepOff
      exact ih (driven_step driven hFirst) hRest

/-- Over every run of ticks and of other frames, after each tick every joint's motor is enabled
and is commanded the angle that the tick publishes, up to half a step of the frame. The angle is
within the limit of the joint, and stays where it is while the arm is disabled. -/
theorem motors_follow (arm : ArmModule ℚ) {port : CanPort} (present : port.canDev .kCan3 = true)
    {events : List ArmBusEvent} (keepOff : ∀ event ∈ events, event.KeepsOff)
    (frames : List CanRawFrameMessage) (command : Option (ArmCommandMessage ℚ)) (joint : ArmJoint) :
    let s := events.foldl step (started arm port)
    let angle := joint.published (s.arm.runLoopTick s.port frames command).2.2
    ∃ position,
      motor (s.step (.tick frames command)).port joint = ⟨true, some (commandAt position)⟩ ∧
      |position - angle| ≤ 25 / 131070 ∧ |angle| ≤ joint.limit ∧
      ((∀ read ∈ command, read.enable = 0) → angle = joint.angle s.arm) := by
  have hDriven : (events.foldl step (started arm port)).Driven :=
    driven_run (driven_started arm present) keepOff
  intro s angle
  have hAngle : angle = joint.angle (s.arm.receive frames command) := by cases joint <;> rfl
  have hLimit : |angle| ≤ joint.limit := by
    rw [hAngle]
    exact withinLimits_receive hDriven.limits frames command joint
  have hRange : |angle| ≤ 125 / 10 := by
    refine hLimit.trans ?_
    cases joint <;> norm_num [ArmJoint.limit, kClawLimit, kElbowPitchLimit, kElbowYawLimit]
  have hClamp : clamp angle (-125 / 10) (125 / 10) = angle := by
    rw [neg_div]
    exact clamp_rat_of_abs_le hRange
  have hClose := abs_quantised_sub_le angle
  rw [hClamp] at hClose
  have hMotor := motor_tick hDriven frames command joint
  have hEnabled := hDriven.enabled joint
  refine ⟨quantised angle, hMotor.trans ?_, hClose, hLimit, fun hDisabled => ?_⟩
  · rw [Dm.DmMotor.mk.injEq]
    exact ⟨hEnabled, rfl⟩
  · have hKept := virtualTargets_runLoopTick_of_disabled s.arm s.port frames hDisabled
    simp only [virtualTargets, List.cons.injEq, and_true] at hKept
    cases joint with
    | claw => exact hKept.1
    | elbowPitch => exact hKept.2.1
    | elbowYaw => exact hKept.2.2.1

/-- A bus with every device. -/
def wholePort : CanPort where
  canDev _ := true
  sent := []

theorem keepsOff_can2 (canId : UInt16) (data : Payload) (dlc : UInt8) :
    (ArmBusEvent.other .kCan2 canId data dlc).KeepsOff := fun _ h => by cases h.1

/-- A command that raises the elbow. -/
def raiseCommand : ArmCommandMessage ℚ := { (0 : ArmCommandMessage ℚ) with
  elbowPitchDelta := 7 / 10, source := .kInputSourceDr16, enable := 1, sequence := 1 }

/-- The elbow is raised twice, the second time as far as its limit, with a frame for other
motors in between. -/
theorem motors_follow_raised :
    let s := [ArmBusEvent.tick [] (some raiseCommand),
      .other .kCan2 0x011 (Vector.replicate 8 0) 8].foldl step (started (zeroed ℚ) wholePort)
    ∃ position, motor (s.step (.tick [] (some raiseCommand))).port .elbowPitch =
        ⟨true, some (commandAt position)⟩ ∧
      |position - 1| ≤ 25 / 131070 := by
  intro s
  have hKeepOff : ∀ event ∈ [ArmBusEvent.tick [] (some raiseCommand),
      .other .kCan2 0x011 (Vector.replicate 8 0) 8], event.KeepsOff :=
    List.forall_mem_cons.mpr ⟨trivial, List.forall_mem_singleton.mpr (keepsOff_can2 _ _ _)⟩
  have hRaised : ArmJoint.elbowPitch.published
      (s.arm.runLoopTick s.port [] (some raiseCommand)).2.2 = 1 := by
    decide +kernel
  have hPresent : wholePort.canDev .kCan3 = true := rfl
  obtain ⟨position, hMotor, hClose, -⟩ :=
    motors_follow (zeroed ℚ) hPresent hKeepOff [] (some raiseCommand) .elbowPitch
  exact ⟨position, hMotor, hRaised ▸ hClose⟩

end ArmOnBus

end RmTest.Modules

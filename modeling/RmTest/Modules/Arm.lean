import RmTest.Algorithms.Pid
import RmTest.Services.Actuator

/-! The arm module: claw and elbow follow virtual angles through DM motors, the
two wrist motors follow speeds through PID controllers and motor currents, all
on CAN3. The locks around the controllers are left out. -/
namespace RmTest.Modules

open Algorithms Channels Protocols Platform Services FloatModel

variable {F : Type} [FloatModel F]

structure ArmModule (F : Type) where
  clawsVirtualAngle : F
  wristJointLeftVirtualAngle : F
  wristJointRightVirtualAngle : F
  elbowPitchJointVirtualAngle : F
  elbowYawJointVirtualAngle : F
  wristTargetOmega : Vector F 2
  wristFeedback : Vector MotorFeedbackMessage 2
  wristFeedbackValid : Vector Bool 2
  dmFeedbackClaw : Dm.DmMotorFeedback1To4
  dmFeedbackElbowPitch : Dm.DmMotorFeedback1To4
  dmFeedbackElbowYaw : Dm.DmMotorFeedback1To4
  dmFeedbackClawValid : Bool
  dmFeedbackElbowPitchValid : Bool
  dmFeedbackElbowYawValid : Bool
  wristSpeedPid : Vector (Pid F) 2
  dmStarted : Bool
  stateSequence : UInt32

namespace ArmModule

def kDmClawCanId : UInt16 := 0x011
def kDmElbowYawCanId : UInt16 := 0x012
def kDmElbowPitchCanId : UInt16 := 0x013
def kWristMotorCanId : Vector UInt16 2 := #v[0x202, 0x203]

def kClawLimit : F := lit (5 / 10)
def kWristLimit : F := lit 1
def kElbowPitchLimit : F := lit 1
def kElbowYawLimit : F := lit (314 / 100)
def kLoopDtSec : F := lit (2 / 1000)
def kWristPidKp : F := lit 1
def kWristPidKi : F := lit (5 / 100)
def kPidKd : F := 0
def kIntegralLimit : F := lit 500
def kCurrentLimit : F := lit 16384
def kClawHoldCurrentLimitA : F := lit 2
def kDmClawKp : F := lit 10
def kDmClawKd : F := 0
def kDmElbowPitchKp : F := lit 10
def kDmElbowPitchKd : F := 0
def kDmElbowYawKp : F := lit 10
def kDmElbowYawKd : F := 0

/-- With the runtime CAN initialization configured, as on the robot. -/
def sendDmFrameOnCan3 (port : CanPort) (canId : UInt16) (data : Payload) (dlc : UInt8) :
    CanPort × Except Errno Unit :=
  port.sendStdDataOnBus .kCan3 canId data dlc

def dmMitRange : Mit.MitRange F where
  pMin := lit (-125 / 10)
  pMax := lit (125 / 10)
  vMin := lit (-10)
  vMax := lit 10
  kpMin := 0
  kpMax := lit 500
  kdMin := 0
  kdMax := lit 5
  tMin := lit (-29)
  tMax := lit 29

def sendDmMitCommand (port : CanPort) (canId : UInt16) (position kp kd : F) :
    CanPort × Except Errno Unit :=
  let cmd : Mit.MitCommand F :=
    { position := position, velocity := 0, kp := kp, kd := kd, torque := 0 }
  sendDmFrameOnCan3 port canId (Dm.packMitCommand cmd dmMitRange) 8

/-- The object in static storage, before `Initialize`. -/
def zeroed (F : Type) [FloatModel F] : ArmModule F where
  clawsVirtualAngle := 0
  wristJointLeftVirtualAngle := 0
  wristJointRightVirtualAngle := 0
  elbowPitchJointVirtualAngle := 0
  elbowYawJointVirtualAngle := 0
  wristTargetOmega := Vector.replicate 2 0
  wristFeedback := Vector.replicate 2 0
  wristFeedbackValid := Vector.replicate 2 false
  dmFeedbackClaw := 0
  dmFeedbackElbowPitch := 0
  dmFeedbackElbowYaw := 0
  dmFeedbackClawValid := false
  dmFeedbackElbowPitchValid := false
  dmFeedbackElbowYawValid := false
  wristSpeedPid := Vector.replicate 2 (Pid.zeroed F)
  dmStarted := false
  stateSequence := 0

/-- `Initialize`, which keeps the wrist feedback but marks it invalid. -/
def initialized (m : ArmModule F) : ArmModule F :=
  { m with
    clawsVirtualAngle := 0
    wristJointLeftVirtualAngle := 0
    wristJointRightVirtualAngle := 0
    elbowPitchJointVirtualAngle := 0
    elbowYawJointVirtualAngle := 0
    wristTargetOmega := Vector.replicate 2 0
    wristFeedbackValid := Vector.replicate 2 false
    dmFeedbackClaw := 0
    dmFeedbackElbowPitch := 0
    dmFeedbackElbowYaw := 0
    dmFeedbackClawValid := false
    dmFeedbackElbowPitchValid := false
    dmFeedbackElbowYawValid := false
    wristSpeedPid := m.wristSpeedPid.map fun pid =>
      (pid.init (.basic kWristPidKp kWristPidKi kPidKd 0 kIntegralLimit kCurrentLimit
        kLoopDtSec)).setIntegralError 0
    dmStarted := false
    stateSequence := 0 }

/-- Closing further is refused while the claw already holds something. -/
def controlClaw (m : ArmModule F) (virtualAngle : F) : ArmModule F :=
  let angle := clamp virtualAngle (-kClawLimit) kClawLimit
  let nowTorqueA : F := lit m.dmFeedbackClaw.currentMa.toInt / lit 1000
  if lt angle m.clawsVirtualAngle && m.dmFeedbackClawValid &&
      le kClawHoldCurrentLimitA (fabs nowTorqueA) then m
  else { m with clawsVirtualAngle := angle }

def controlElbowPitchJoint (m : ArmModule F) (virtualAngle : F) : ArmModule F :=
  { m with
    elbowPitchJointVirtualAngle := clamp virtualAngle (-kElbowPitchLimit) kElbowPitchLimit }

def controlElbowYawJoint (m : ArmModule F) (virtualAngle : F) : ArmModule F :=
  { m with elbowYawJointVirtualAngle := clamp virtualAngle (-kElbowYawLimit) kElbowYawLimit }

def controlWristByTwistFlip (m : ArmModule F) (twistDelta flipDelta : F) : ArmModule F :=
  { m with
    wristJointLeftVirtualAngle :=
      clamp (m.wristJointLeftVirtualAngle + (flipDelta + twistDelta)) (-kWristLimit) kWristLimit
    wristJointRightVirtualAngle :=
      clamp (m.wristJointRightVirtualAngle + (flipDelta - twistDelta)) (-kWristLimit) kWristLimit }

/-- What a disabling command and a failed read do to the wrist. -/
def resetWrist (m : ArmModule F) : ArmModule F :=
  { m with
    wristTargetOmega := Vector.replicate 2 0
    wristSpeedPid := m.wristSpeedPid.map Pid.reset }

def handleCommand (m : ArmModule F) (command : ArmCommandMessage F) : ArmModule F :=
  if command.enable = 0 then m.resetWrist
  else
    let invDt : F := lit 1 / kLoopDtSec
    let prevLeft := m.wristJointLeftVirtualAngle
    let prevRight := m.wristJointRightVirtualAngle
    let m := m.controlClaw (m.clawsVirtualAngle + command.clawDelta)
    let m := m.controlElbowYawJoint (m.elbowYawJointVirtualAngle + command.elbowYawDelta)
    let m := m.controlElbowPitchJoint (m.elbowPitchJointVirtualAngle + command.elbowPitchDelta)
    let m := m.controlWristByTwistFlip command.wristTwistDelta command.wristFlipDelta
    let wristLeftDelta := m.wristJointLeftVirtualAngle - prevLeft
    let wristRightDelta := m.wristJointRightVirtualAngle - prevRight
    { m with wristTargetOmega := #v[wristLeftDelta * invDt, wristRightDelta * invDt] }

def sendDmStartupSequence (port : CanPort) : CanPort :=
  [Dm.DmControlCommand.kClearError, .kEnter].foldl
    (fun port command =>
      [kDmClawCanId, kDmElbowPitchCanId, kDmElbowYawCanId].foldl
        (fun port canId =>
          (sendDmFrameOnCan3 port canId (Dm.getControlCommandFrame command) 8).1)
        port)
    port

/-- A frame taken from the queue: wrist and DM feedback on CAN3 is kept. -/
def decodeCanFrame (m : ArmModule F) (frame : CanRawFrameMessage) : ArmModule F :=
  if frame.bus ≠ 3 then m
  else if frame.canId = kWristMotorCanId.get 0 ∨ frame.canId = kWristMotorCanId.get 1 then
    match Dji.decodeFeedback frame.data frame.dlc with
    | .error _ => m
    | .ok decoded =>
        let idx := (frame.canId - kWristMotorCanId.get 0).toNat
        let feedback : MotorFeedbackMessage :=
          { m.wristFeedback.toList.getD idx 0 with
            bus := frame.bus
            canId := frame.canId
            encoder := decoded.encoder
            omega := decoded.omega
            current := decoded.current
            temperature := decoded.temperature }
        { m with
          wristFeedback := m.wristFeedback.setIfInBounds idx feedback
          wristFeedbackValid := m.wristFeedbackValid.setIfInBounds idx true }
  else if frame.canId = kDmClawCanId ∨ frame.canId = kDmElbowYawCanId ∨
      frame.canId = kDmElbowPitchCanId then
    match Dm.decodeFeedback1To4 frame.data frame.dlc with
    | .error _ => m
    | .ok decoded =>
        if frame.canId = kDmClawCanId then
          { m with dmFeedbackClaw := decoded, dmFeedbackClawValid := true }
        else if frame.canId = kDmElbowPitchCanId then
          { m with dmFeedbackElbowPitch := decoded, dmFeedbackElbowPitchValid := true }
        else { m with dmFeedbackElbowYaw := decoded, dmFeedbackElbowYawValid := true }
  else m

def decodeCanFramesInQueue (m : ArmModule F) (frames : List CanRawFrameMessage) : ArmModule F :=
  frames.foldl decodeCanFrame m

/-- The controllers after one step of those with valid feedback, and the currents. -/
def wristCurrents (m : ArmModule F) : Vector (Pid F) 2 × Vector Int16 4 :=
  (List.finRange 2).foldl
    (fun (pids, currentCmd) i =>
      if m.wristFeedbackValid.get i then
        let measured := lit (m.wristFeedback.get i).omega.toInt
        let (pid, output) := (pids.get i).update (m.wristTargetOmega.get i) measured
        let slot := (kWristMotorCanId.get i - 0x201).toNat
        (pids.setIfInBounds i pid, currentCmd.setIfInBounds slot (castInt16 output))
      else (pids, currentCmd))
    (m.wristSpeedPid, Vector.replicate 4 0)

def applyWristSpeedPidAndSend (m : ArmModule F) (port : CanPort) : ArmModule F × CanPort :=
  let (pids, currentCmd) := m.wristCurrents
  ({ m with wristSpeedPid := pids },
    (Actuator.sendMotorCurrent port .kCan3 .kDji0x200 currentCmd).1)

/-- The part of `RunLoop` before the loop. -/
def runLoopStartup (m : ArmModule F) (port : CanPort) : ArmModule F × CanPort :=
  if m.dmStarted then (m, port)
  else ({ m with dmStarted := true }, sendDmStartupSequence port)

/-- An iteration of `RunLoop` as far as the controllers: the frames in the queue
and what reading the command channel returns. -/
def receive (m : ArmModule F) (frames : List CanRawFrameMessage)
    (command : Option (ArmCommandMessage F)) : ArmModule F :=
  let m := m.decodeCanFramesInQueue frames
  match command with
  | some command => m.handleCommand command
  | none => m.resetWrist

def sendDmMitCommands (m : ArmModule F) (port : CanPort) : CanPort :=
  let port := (sendDmMitCommand port kDmClawCanId m.clawsVirtualAngle kDmClawKp kDmClawKd).1
  let port := (sendDmMitCommand port kDmElbowPitchCanId m.elbowPitchJointVirtualAngle
    kDmElbowPitchKp kDmElbowPitchKd).1
  (sendDmMitCommand port kDmElbowYawCanId m.elbowYawJointVirtualAngle kDmElbowYawKp
    kDmElbowYawKd).1

/-- One iteration of `RunLoop`, with the state it publishes. -/
def runLoopTick (m : ArmModule F) (port : CanPort) (frames : List CanRawFrameMessage)
    (command : Option (ArmCommandMessage F)) : ArmModule F × CanPort × ArmStateMessage F :=
  let m := m.receive frames command
  let port := m.sendDmMitCommands port
  let (m, port) := m.applyWristSpeedPidAndSend port
  let sequence := m.stateSequence + 1
  let m := { m with stateSequence := sequence }
  (m, port,
    { clawVirtualAngle := m.clawsVirtualAngle
      elbowPitchVirtualAngle := m.elbowPitchJointVirtualAngle
      elbowYawVirtualAngle := m.elbowYawJointVirtualAngle
      wristLeftVirtualAngle := m.wristJointLeftVirtualAngle
      wristRightVirtualAngle := m.wristJointRightVirtualAngle
      sequence := sequence })

omit [FloatModel F] in
theorem keepsCurrents_sendDmFrameOnCan3 (port : CanPort) {canId : UInt16} (other : canId ≠ 0x200)
    (data : Payload) (dlc : UInt8) :
    Actuator.KeepsCurrents port (sendDmFrameOnCan3 port canId data dlc).1 :=
  .sendStdDataOnBus port .kCan3 other data dlc

omit [FloatModel F] in
theorem keepsCurrents_runLoopStartup (m : ArmModule F) (port : CanPort) :
    Actuator.KeepsCurrents port (m.runLoopStartup port).2 := by
  unfold runLoopStartup
  split_ifs
  · exact .refl port
  · refine .foldl (fun command _ port => .foldl (fun canId hMem port => ?_) port) port
    have hOther : canId ≠ 0x200 := by
      simp only [List.mem_cons, List.not_mem_nil, or_false] at hMem
      rcases hMem with rfl | rfl | rfl <;> decide
    exact keepsCurrents_sendDmFrameOnCan3 port hOther _ 8

theorem keepsCurrents_sendDmMitCommands (m : ArmModule F) (port : CanPort) :
    Actuator.KeepsCurrents port (m.sendDmMitCommands port) :=
  ((keepsCurrents_sendDmFrameOnCan3 port (by decide) _ 8).trans
    (keepsCurrents_sendDmFrameOnCan3 _ (by decide) _ 8)).trans
    (keepsCurrents_sendDmFrameOnCan3 _ (by decide) _ 8)

/-- The wrist motors' slots are 1 and 2. -/
theorem wristCurrents_other (m : ArmModule F) :
    m.wristCurrents.2.get 0 = 0 ∧ m.wristCurrents.2.get 3 = 0 := by
  have hSlots : List.finRange 2 = [0, 1] := rfl
  simp only [wristCurrents, hSlots, List.foldl_cons, List.foldl_nil]
  split_ifs <;> exact ⟨rfl, rfl⟩

theorem canDev_runLoopTick (m : ArmModule F) (port : CanPort) (frames : List CanRawFrameMessage)
    (command : Option (ArmCommandMessage F)) :
    (m.runLoopTick port frames command).2.1.canDev = port.canDev := by
  have hKeeps := (m.receive frames command).keepsCurrents_sendDmMitCommands port
  exact (Actuator.canDev_sendMotorCurrent _ _ _ _).trans hKeeps.canDev

/-- On CAN3 a tick leaves the wrist currents it computed. -/
theorem heldCurrents_runLoopTick (m : ArmModule F) (port : CanPort)
    (frames : List CanRawFrameMessage) (command : Option (ArmCommandMessage F)) :
    Actuator.heldCurrents (m.runLoopTick port frames command).2.1 .kCan3 =
      if port.canDev .kCan3 then some (m.receive frames command).wristCurrents.2
      else Actuator.heldCurrents port .kCan3 := by
  have hKeeps := (m.receive frames command).keepsCurrents_sendDmMitCommands port
  have hSent := Actuator.heldCurrents_sendMotorCurrent
    ((m.receive frames command).sendDmMitCommands port) .kCan3 .kCan3
    (m.receive frames command).wristCurrents.2
  simp only [hKeeps.canDev, hKeeps.held, and_true] at hSent
  exact hSent

def virtualTargets (m : ArmModule F) : List F :=
  [m.clawsVirtualAngle, m.elbowPitchJointVirtualAngle, m.elbowYawJointVirtualAngle,
    m.wristJointLeftVirtualAngle, m.wristJointRightVirtualAngle]

omit [FloatModel F] in
theorem virtualTargets_decodeCanFrame (m : ArmModule F) (frame : CanRawFrameMessage) :
    (m.decodeCanFrame frame).virtualTargets = m.virtualTargets := by
  unfold decodeCanFrame
  split_ifs
  · rfl
  · split <;> rfl
  · split <;> rfl
  · split <;> rfl
  · split <;> rfl
  · rfl

omit [FloatModel F] in
theorem virtualTargets_decodeCanFramesInQueue (m : ArmModule F) (frames : List CanRawFrameMessage) :
    (m.decodeCanFramesInQueue frames).virtualTargets = m.virtualTargets := by
  induction frames generalizing m with
  | nil => rfl
  | cons frame rest ih =>
      exact (ih (m.decodeCanFrame frame)).trans (m.virtualTargets_decodeCanFrame frame)

/-- Only a command that enables the arm moves them. -/
theorem virtualTargets_runLoopTick_of_disabled (m : ArmModule F) (port : CanPort)
    (frames : List CanRawFrameMessage) {read : Option (ArmCommandMessage F)}
    (disabled : ∀ command ∈ read, command.enable = 0) :
    (m.runLoopTick port frames read).1.virtualTargets = m.virtualTargets := by
  have hReset : m.receive frames read = (m.decodeCanFramesInQueue frames).resetWrist := by
    cases read with
    | none => rfl
    | some command => exact if_pos (disabled command rfl)
  have hTick : (m.runLoopTick port frames read).1.virtualTargets =
      (m.receive frames read).virtualTargets := rfl
  rw [hTick, hReset]
  exact m.virtualTargets_decodeCanFramesInQueue frames

end ArmModule

end RmTest.Modules

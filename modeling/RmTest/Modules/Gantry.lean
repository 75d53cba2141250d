import RmTest.Algorithms.Pid
import RmTest.Services.Actuator

/-! The gantry module: two motors of the X axis on CAN2 and one of the Y axis on
CAN3 take currents, two motors of the Z axis on CAN2 and CAN1 take speeds. The
variable `has_command`, which the source sets and never reads, is left out. -/
namespace RmTest.Modules

open Algorithms Channels Protocols Platform Services FloatModel

variable {F : Type} [FloatModel F]

structure DjiFeedbackSimple where
  omega : Int16
  valid : Bool

instance : Zero DjiFeedbackSimple := ⟨⟨0, false⟩⟩

structure CubemarsState (F : Type) where
  angle : F
  omega : F
  torque : F
  valid : Bool

instance : Zero (CubemarsState F) := ⟨⟨0, 0, 0, false⟩⟩

structure GantryModule (F : Type) where
  cubemarsStarted : Bool
  xAxisVirtualDistance : F
  yAxisVirtualDistance : F
  zAxisVirtualDistance : F
  xLeftSpeedPid : Pid F
  xRightSpeedPid : Pid F
  ySpeedPid : Pid F
  zLeftPidAngle : Pid F
  zRightPidAngle : Pid F
  xLeftFeedback : DjiFeedbackSimple
  xRightFeedback : DjiFeedbackSimple
  yFeedback : DjiFeedbackSimple
  zLeftState : CubemarsState F
  zRightState : CubemarsState F

namespace GantryModule

def kMaxFramesPerTick : Nat := 8
def kXAxisLimit : F := lit 10
def kYAxisLimit : F := lit 10
def kZAxisLimit : F := lit 5
def kXAxisSpeedLimit : F := lit 20
def kYAxisSpeedLimit : F := lit 20
def kZAxisSpeedLimit : F := lit 20
def kZAxisRadPerDistance : F := lit 1
def kDjiSpeedPidKp : F := lit 1
def kDjiSpeedPidKi : F := 0
def kDjiSpeedPidKd : F := 0
def kDjiCurrentLimit : F := lit 10000
def kDistanceToSpeedKp : F := lit 5
def kCubemarsZKd : F := lit (8 / 10)
def kDjiXLeftCanId : UInt16 := 0x201
def kDjiXRightCanId : UInt16 := 0x202
def kDjiYCanId : UInt16 := 0x201
def kCubemarsCanId : UInt16 := 0x000

def uIntToFloat (raw : UInt16) (minValue maxValue : F) (bits : Nat) : F :=
  let span := maxValue - minValue
  let scale := lit ((2 ^ bits - 1 : Nat) : ℚ)
  lit (raw.toNat : ℚ) * span / scale + minValue

/-- The object in static storage, before `Initialize`. -/
def zeroed (F : Type) [FloatModel F] : GantryModule F where
  cubemarsStarted := false
  xAxisVirtualDistance := 0
  yAxisVirtualDistance := 0
  zAxisVirtualDistance := 0
  xLeftSpeedPid := Pid.zeroed F
  xRightSpeedPid := Pid.zeroed F
  ySpeedPid := Pid.zeroed F
  zLeftPidAngle := Pid.zeroed F
  zRightPidAngle := Pid.zeroed F
  xLeftFeedback := 0
  xRightFeedback := 0
  yFeedback := 0
  zLeftState := 0
  zRightState := 0

def djiSpeedPidConfig : PidConfig F :=
  .basic kDjiSpeedPidKp kDjiSpeedPidKi kDjiSpeedPidKd 0 kDjiCurrentLimit kDjiCurrentLimit
    (lit (2 / 1000))

def zPidAngleConfig : PidConfig F :=
  .basic (lit 20) (lit (1 / 10)) (lit (1 / 10)) 0 (lit 29) (lit 50) (lit (1 / 100))

def initialized (m : GantryModule F) : GantryModule F where
  cubemarsStarted := false
  xAxisVirtualDistance := 0
  yAxisVirtualDistance := 0
  zAxisVirtualDistance := 0
  xLeftSpeedPid := m.xLeftSpeedPid.init djiSpeedPidConfig
  xRightSpeedPid := m.xRightSpeedPid.init djiSpeedPidConfig
  ySpeedPid := m.ySpeedPid.init djiSpeedPidConfig
  zLeftPidAngle := m.zLeftPidAngle.init zPidAngleConfig
  zRightPidAngle := m.zRightPidAngle.init zPidAngleConfig
  xLeftFeedback := 0
  xRightFeedback := 0
  yFeedback := 0
  zLeftState := 0
  zRightState := 0

def xAxisMoveInDistance (m : GantryModule F) (distance : F) : GantryModule F :=
  { m with xAxisVirtualDistance := clamp distance (-kXAxisLimit) kXAxisLimit }

def yAxisMoveInDistance (m : GantryModule F) (distance : F) : GantryModule F :=
  { m with yAxisVirtualDistance := clamp distance (-kYAxisLimit) kYAxisLimit }

def zAxisMoveInDistance (m : GantryModule F) (distance : F) : GantryModule F :=
  { m with zAxisVirtualDistance := clamp distance (-kZAxisLimit) kZAxisLimit }

def handleCommand (m : GantryModule F) (command : GantryCommandMessage F) : GantryModule F :=
  if command.enable = 0 then
    { m with xAxisVirtualDistance := 0, yAxisVirtualDistance := 0, zAxisVirtualDistance := 0 }
  else
    let m := m.xAxisMoveInDistance (m.xAxisVirtualDistance + command.xDelta)
    let m := m.yAxisMoveInDistance (m.yAxisVirtualDistance + command.yDelta)
    m.zAxisMoveInDistance (m.zAxisVirtualDistance + command.zDelta)

def sendCubemarsStartupSequence (port : CanPort) : CanPort :=
  [Cubemars.getSaveZeroFrame, Cubemars.getEnterFrame].foldl
    (fun port frame =>
      [CanBus.kCan2, .kCan1].foldl
        (fun port bus => (port.sendStdDataOnBus bus kCubemarsCanId frame 8).1) port)
    port

/-- The X axis feedback on CAN2, and by how much it advances the frame count. -/
def decodeXFeedback (m : GantryModule F) (frame : CanRawFrameMessage) : GantryModule F × Nat :=
  if frame.bus = 2 ∧ (frame.canId = kDjiXLeftCanId ∨ frame.canId = kDjiXRightCanId) then
    match Dji.decodeFeedback frame.data frame.dlc with
    | .error _ => (m, 1)
    | .ok dji =>
        if frame.canId = kDjiXLeftCanId then
          ({ m with xLeftFeedback := { omega := dji.omega, valid := true } }, 1)
        else ({ m with xRightFeedback := { omega := dji.omega, valid := true } }, 1)
  else (m, 0)

/-- The Y axis feedback on CAN3, likewise. -/
def decodeYFeedback (m : GantryModule F) (frame : CanRawFrameMessage) : GantryModule F × Nat :=
  if frame.bus = 3 ∧ frame.canId = kDjiYCanId then
    match Dji.decodeFeedback frame.data frame.dlc with
    | .error _ => (m, 1)
    | .ok dji => ({ m with yFeedback := { omega := dji.omega, valid := true } }, 1)
  else (m, 0)

/-- The Z axis feedback, likewise. Every frame is counted here, but for one of a
Z motor that does not decode. -/
def decodeZFeedback (m : GantryModule F) (frame : CanRawFrameMessage) : GantryModule F × Nat :=
  if frame.canId = kCubemarsCanId then
    match Cubemars.decodeFeedback frame.data frame.dlc with
    | .error _ => (m, 0)
    | .ok z =>
        let state : CubemarsState F :=
          { angle := uIntToFloat z.positionRaw (lit (-125 / 10)) (lit (125 / 10)) 16
            omega := uIntToFloat z.velocityRaw (lit (-50)) (lit 50) 12
            torque := uIntToFloat z.torqueRaw (lit (-18)) (lit 18) 12
            valid := true }
        if frame.bus = 2 then ({ m with zLeftState := state }, 1)
        else if frame.bus = 1 then ({ m with zRightState := state }, 1)
        else (m, 1)
  else (m, 1)

/-- A frame taken from the queue, and its share of the frames of a tick. -/
def decodeCanFrame (m : GantryModule F) (frame : CanRawFrameMessage) : GantryModule F × Nat :=
  let (m, xCount) := m.decodeXFeedback frame
  let (m, yCount) := m.decodeYFeedback frame
  let (m, zCount) := m.decodeZFeedback frame
  (m, xCount + yCount + zCount)

/-- Frames are taken until the queue is empty or enough are counted. The second
component is what stays in the queue. -/
def decodeCanFrames (m : GantryModule F) (framesProcessed : Nat) :
    List CanRawFrameMessage → GantryModule F × List CanRawFrameMessage
  | [] => (m, [])
  | frame :: rest =>
      if framesProcessed < kMaxFramesPerTick then
        decodeCanFrames (m.decodeCanFrame frame).1
          (framesProcessed + (m.decodeCanFrame frame).2) rest
      else (m, frame :: rest)

def decodeCanFramesInQueue (m : GantryModule F) (queue : List CanRawFrameMessage) :
    GantryModule F × List CanRawFrameMessage :=
  m.decodeCanFrames 0 queue

def xTargetOmega (m : GantryModule F) : F :=
  clamp (m.xAxisVirtualDistance * kDistanceToSpeedKp) (-kXAxisSpeedLimit) kXAxisSpeedLimit

def yTargetOmega (m : GantryModule F) : F :=
  clamp (m.yAxisVirtualDistance * kDistanceToSpeedKp) (-kYAxisSpeedLimit) kYAxisSpeedLimit

/-- The controller and the current of one DJI motor. -/
def djiCurrent (pid : Pid F) (feedback : DjiFeedbackSimple) (targetOmega : F) : Pid F × Int16 :=
  if feedback.valid then
    let (pid, out) := pid.update targetOmega (lit feedback.omega.toInt)
    (pid, castInt16 out)
  else (pid, 0)

/-- The controller and the speed of one Z motor. -/
def zOmega (pid : Pid F) (state : CubemarsState F) (targetAngle : F) : Pid F × F :=
  if state.valid then
    let (pid, out) := pid.update targetAngle state.angle
    (pid, clamp out (-kZAxisSpeedLimit) kZAxisSpeedLimit)
  else (pid, 0)

def cubemarsMitRange : Mit.MitRange F where
  pMin := lit (-125 / 10)
  pMax := lit (125 / 10)
  vMin := lit (-50)
  vMax := lit 50
  kpMin := 0
  kpMax := lit 500
  kdMin := 0
  kdMax := lit 5
  tMin := lit (-18)
  tMax := lit 18

def sendZOmega (port : CanPort) (bus : CanBus) (omega : F) : CanPort :=
  let cmd : Mit.MitCommand F :=
    { position := 0, velocity := omega, kp := 0, kd := kCubemarsZKd, torque := 0 }
  (port.sendStdDataOnBus bus kCubemarsCanId (Cubemars.packMitCommand cmd cubemarsMitRange) 8).1

def applyControlAndSend (m : GantryModule F) (port : CanPort) : GantryModule F × CanPort :=
  let (xLeftPid, xLeft) := djiCurrent m.xLeftSpeedPid m.xLeftFeedback m.xTargetOmega
  let (xRightPid, xRight) := djiCurrent m.xRightSpeedPid m.xRightFeedback (-m.xTargetOmega)
  let port := (Actuator.sendMotorCurrent port .kCan2 .kDji0x200 #v[xLeft, xRight, 0, 0]).1
  let (yPid, y) := djiCurrent m.ySpeedPid m.yFeedback m.yTargetOmega
  let port := (Actuator.sendMotorCurrent port .kCan3 .kDji0x200 #v[y, 0, 0, 0]).1
  let zTarget := m.zAxisVirtualDistance * kZAxisRadPerDistance
  let (zLeftPid, zLeftOmega) := zOmega m.zLeftPidAngle m.zLeftState (-zTarget)
  let (zRightPid, zRightOmega) := zOmega m.zRightPidAngle m.zRightState zTarget
  let port := sendZOmega port .kCan2 zLeftOmega
  let port := sendZOmega port .kCan1 zRightOmega
  ({ m with
      xLeftSpeedPid := xLeftPid
      xRightSpeedPid := xRightPid
      ySpeedPid := yPid
      zLeftPidAngle := zLeftPid
      zRightPidAngle := zRightPid },
    port)

/-- The part of `RunLoop` before the loop. -/
def runLoopStartup (m : GantryModule F) (port : CanPort) : GantryModule F × CanPort :=
  if m.cubemarsStarted then (m, port)
  else ({ m with cubemarsStarted := true }, sendCubemarsStartupSequence port)

/-- The currents for CAN2: both motors of the X axis. -/
def xCurrents (m : GantryModule F) : Vector Int16 4 :=
  #v[(djiCurrent m.xLeftSpeedPid m.xLeftFeedback m.xTargetOmega).2,
    (djiCurrent m.xRightSpeedPid m.xRightFeedback (-m.xTargetOmega)).2, 0, 0]

/-- The currents for CAN3: the motor of the Y axis. -/
def yCurrents (m : GantryModule F) : Vector Int16 4 :=
  #v[(djiCurrent m.ySpeedPid m.yFeedback m.yTargetOmega).2, 0, 0, 0]

omit [FloatModel F] in
theorem keepsCurrents_runLoopStartup (m : GantryModule F) (port : CanPort) :
    Actuator.KeepsCurrents port (m.runLoopStartup port).2 := by
  unfold runLoopStartup
  split_ifs
  · exact .refl port
  · exact .foldl (fun frame _ port => .foldl (fun bus _ port =>
      .sendStdDataOnBus port bus (by decide) frame 8) port) port

theorem keepsCurrents_sendZOmega (port : CanPort) (bus : CanBus) (omega : F) :
    Actuator.KeepsCurrents port (sendZOmega port bus omega) :=
  .sendStdDataOnBus port bus (by decide) _ 8

/-- Sending is the two frames of currents and frames of other identifiers. -/
theorem keepsCurrents_applyControlAndSend (m : GantryModule F) (port : CanPort) :
    Actuator.KeepsCurrents
      (Actuator.sendMotorCurrent
        (Actuator.sendMotorCurrent port .kCan2 .kDji0x200 m.xCurrents).1
        .kCan3 .kDji0x200 m.yCurrents).1
      (m.applyControlAndSend port).2 :=
  (keepsCurrents_sendZOmega _ .kCan2 _).trans (keepsCurrents_sendZOmega _ .kCan1 _)

theorem canDev_applyControlAndSend (m : GantryModule F) (port : CanPort) :
    (m.applyControlAndSend port).2.canDev = port.canDev := by
  rw [(m.keepsCurrents_applyControlAndSend port).canDev, Actuator.canDev_sendMotorCurrent,
    Actuator.canDev_sendMotorCurrent]

theorem heldCurrents_applyControlAndSend (m : GantryModule F) (port : CanPort) :
    Actuator.heldCurrents (m.applyControlAndSend port).2 .kCan2 =
        (if port.canDev .kCan2 then some m.xCurrents else Actuator.heldCurrents port .kCan2) ∧
      Actuator.heldCurrents (m.applyControlAndSend port).2 .kCan3 =
        (if port.canDev .kCan3 then some m.yCurrents else Actuator.heldCurrents port .kCan3) := by
  have hKeeps := (m.keepsCurrents_applyControlAndSend port).held
  refine ⟨?_, ?_⟩
  · rw [hKeeps, Actuator.heldCurrents_sendMotorCurrent, Actuator.heldCurrents_sendMotorCurrent]
    simp
  · rw [hKeeps, Actuator.heldCurrents_sendMotorCurrent, Actuator.heldCurrents_sendMotorCurrent]
    simp

theorem heldCurrents_of_absent (m : GantryModule F) {port : CanPort} {bus : CanBus}
    (absent : port.canDev bus = false) :
    Actuator.heldCurrents (m.applyControlAndSend port).2 bus = Actuator.heldCurrents port bus := by
  have hSkip (sentBus : CanBus) : ¬ (port.canDev sentBus = true ∧ sentBus = bus) := by
    rintro ⟨hPresent, rfl⟩
    rw [absent] at hPresent
    cases hPresent
  rw [(m.keepsCurrents_applyControlAndSend port).held, Actuator.heldCurrents_sendMotorCurrent,
    Actuator.canDev_sendMotorCurrent, if_neg (hSkip .kCan3), Actuator.heldCurrents_sendMotorCurrent,
    if_neg (hSkip .kCan2)]

/-- The module with the feedback of another. -/
def withFeedback (m other : GantryModule F) : GantryModule F :=
  { m with
    xLeftFeedback := other.xLeftFeedback
    xRightFeedback := other.xRightFeedback
    yFeedback := other.yFeedback
    zLeftState := other.zLeftState
    zRightState := other.zRightState }

omit [FloatModel F] in
theorem eq_withFeedback_trans {first second third : GantryModule F}
    (left : second = first.withFeedback second) (right : third = second.withFeedback third) :
    third = first.withFeedback third := by
  rw [left] at right
  exact right

theorem decodeCanFrame_eq (m : GantryModule F) (frame : CanRawFrameMessage) :
    (m.decodeCanFrame frame).1 = m.withFeedback (m.decodeCanFrame frame).1 := by
  have hX (m : GantryModule F) :
      (m.decodeXFeedback frame).1 = m.withFeedback (m.decodeXFeedback frame).1 := by
    unfold decodeXFeedback
    split_ifs
    · split <;> rfl
    · split <;> rfl
    · rfl
  have hY (m : GantryModule F) :
      (m.decodeYFeedback frame).1 = m.withFeedback (m.decodeYFeedback frame).1 := by
    unfold decodeYFeedback
    split_ifs
    · split <;> rfl
    · rfl
  have hZ (m : GantryModule F) :
      (m.decodeZFeedback frame).1 = m.withFeedback (m.decodeZFeedback frame).1 := by
    unfold decodeZFeedback
    split_ifs
    · split <;> rfl
    · split <;> rfl
    · split <;> rfl
    · rfl
  exact eq_withFeedback_trans (hX m) (eq_withFeedback_trans (hY _) (hZ _))

/-- A view of the module that does not look at the feedback. -/
theorem view_decodeCanFrames {Seen : Type} (view : GantryModule F → Seen)
    (blind : ∀ m other, view (withFeedback m other) = view m) (m : GantryModule F)
    (framesProcessed : Nat) (queue : List CanRawFrameMessage) :
    view (m.decodeCanFrames framesProcessed queue).1 = view m := by
  induction queue generalizing m framesProcessed with
  | nil => rfl
  | cons frame rest ih =>
      have hFrame : view (m.decodeCanFrame frame).1 = view m := by
        rw [decodeCanFrame_eq]
        exact blind m _
      rw [decodeCanFrames]
      split_ifs
      · exact (ih _ _).trans hFrame
      · rfl

def virtualTargets (m : GantryModule F) : List F :=
  [m.xAxisVirtualDistance, m.yAxisVirtualDistance, m.zAxisVirtualDistance]

theorem virtualTargets_decodeCanFrames (m : GantryModule F) (framesProcessed : Nat)
    (queue : List CanRawFrameMessage) :
    (m.decodeCanFrames framesProcessed queue).1.virtualTargets = m.virtualTargets :=
  view_decodeCanFrames virtualTargets (fun _ _ => rfl) m framesProcessed queue

/-- The module with other virtual targets. -/
def withTargets (m : GantryModule F) (xDistance yDistance zDistance : F) : GantryModule F :=
  { m with
    xAxisVirtualDistance := xDistance
    yAxisVirtualDistance := yDistance
    zAxisVirtualDistance := zDistance }

theorem handleCommand_eq (m : GantryModule F) (command : GantryCommandMessage F) :
    ∃ xDistance yDistance zDistance,
      m.handleCommand command = m.withTargets xDistance yDistance zDistance := by
  unfold handleCommand
  split_ifs
  · exact ⟨0, 0, 0, rfl⟩
  · exact ⟨_, _, _, rfl⟩

end GantryModule

/-- What `RunLoop` keeps from one iteration to the next: the module, the command
it read last, and the frames still in its queue. -/
structure GantryLoop (F : Type) where
  gantry : GantryModule F
  command : GantryCommandMessage F
  queue : List CanRawFrameMessage

namespace GantryLoop

def entered (gantry : GantryModule F) : GantryLoop F := ⟨gantry, 0, []⟩

/-- An iteration of `RunLoop` as far as the command: the frames that have arrived
since the last one and what reading the command channel returns. -/
def receive (loop : GantryLoop F) (arrived : List CanRawFrameMessage)
    (read : Option (GantryCommandMessage F)) : GantryLoop F :=
  let (gantry, queue) := loop.gantry.decodeCanFramesInQueue (loop.queue ++ arrived)
  match read with
  | some command => ⟨gantry.handleCommand command, command, queue⟩
  | none => ⟨gantry, loop.command, queue⟩

/-- Frames and commands do not show in what looks at neither feedback nor targets. -/
theorem view_receive {Seen : Type} (view : GantryModule F → Seen)
    (blind : ∀ m other, view (GantryModule.withFeedback m other) = view m)
    (still : ∀ m x y z, view (GantryModule.withTargets m x y z) = view m) (loop : GantryLoop F)
    (arrived : List CanRawFrameMessage) (read : Option (GantryCommandMessage F)) :
    view (loop.receive arrived read).gantry = view loop.gantry := by
  have hDecode := GantryModule.view_decodeCanFrames view blind loop.gantry 0 (loop.queue ++ arrived)
  cases read with
  | none => exact hDecode
  | some command =>
      obtain ⟨x, y, z, hCommand⟩ := GantryModule.handleCommand_eq
        (loop.gantry.decodeCanFrames 0 (loop.queue ++ arrived)).1 command
      have hStill := still (loop.gantry.decodeCanFrames 0 (loop.queue ++ arrived)).1 x y z
      rw [← hCommand] at hStill
      exact hStill.trans hDecode

/-- One iteration of `RunLoop`, which sends nothing while the command disables. -/
def tick (loop : GantryLoop F) (port : CanPort) (arrived : List CanRawFrameMessage)
    (read : Option (GantryCommandMessage F)) : GantryLoop F × CanPort :=
  let loop := loop.receive arrived read
  if loop.command.enable = 0 then (loop, port)
  else
    let (gantry, port) := loop.gantry.applyControlAndSend port
    ({ loop with gantry := gantry }, port)

theorem tick_disabled {loop : GantryLoop F} {arrived : List CanRawFrameMessage}
    {read : Option (GantryCommandMessage F)}
    (disabled : (loop.receive arrived read).command.enable = 0) (port : CanPort) :
    loop.tick port arrived read = (loop.receive arrived read, port) := if_pos disabled

theorem tick_enabled {loop : GantryLoop F} {arrived : List CanRawFrameMessage}
    {read : Option (GantryCommandMessage F)}
    (enabled : (loop.receive arrived read).command.enable ≠ 0) (port : CanPort) :
    loop.tick port arrived read =
      ({ loop.receive arrived read with
          gantry := ((loop.receive arrived read).gantry.applyControlAndSend port).1 },
        ((loop.receive arrived read).gantry.applyControlAndSend port).2) := if_neg enabled

theorem canDev_tick (loop : GantryLoop F) (port : CanPort) (arrived : List CanRawFrameMessage)
    (read : Option (GantryCommandMessage F)) :
    (loop.tick port arrived read).2.canDev = port.canDev := by
  by_cases hEnable : (loop.receive arrived read).command.enable = 0
  · rw [tick_disabled hEnable]
  · rw [tick_enabled hEnable]
    exact (loop.receive arrived read).gantry.canDev_applyControlAndSend port

/-- An enabled tick leaves its Y axis current on CAN3. -/
theorem heldCurrents_tick (loop : GantryLoop F) (port : CanPort)
    (arrived : List CanRawFrameMessage) (read : Option (GantryCommandMessage F)) :
    Actuator.heldCurrents (loop.tick port arrived read).2 .kCan3 =
      if port.canDev .kCan3 ∧ (loop.receive arrived read).command.enable ≠ 0 then
        some (loop.receive arrived read).gantry.yCurrents
      else Actuator.heldCurrents port .kCan3 := by
  by_cases hEnable : (loop.receive arrived read).command.enable = 0
  · rw [tick_disabled hEnable, if_neg (fun h => h.2 hEnable)]
  · rw [tick_enabled hEnable]
    simpa [hEnable] using
      ((loop.receive arrived read).gantry.heldCurrents_applyControlAndSend port).2

/-- Sending moves no virtual target. -/
theorem virtualTargets_tick (loop : GantryLoop F) (port : CanPort)
    (arrived : List CanRawFrameMessage) (read : Option (GantryCommandMessage F)) :
    (loop.tick port arrived read).1.gantry.virtualTargets =
      (loop.receive arrived read).gantry.virtualTargets := by
  by_cases hEnable : (loop.receive arrived read).command.enable = 0
  · rw [tick_disabled hEnable]
  · rw [tick_enabled hEnable]
    rfl

end GantryLoop

end RmTest.Modules

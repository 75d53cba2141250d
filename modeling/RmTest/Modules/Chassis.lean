import RmTest.Algorithms.Pid
import RmTest.Library.Cells
import RmTest.Services.Actuator
import RmTest.Services.ChassisTuning

/-! The chassis module: the last command becomes four wheel speed targets, which
four PID controllers turn into motor currents on CAN1. The locks around the
controllers are left out. -/
namespace RmTest.Modules

open Algorithms Channels Protocols Platform Services FloatModel

variable {F : Type} [FloatModel F]

structure ChassisModule (F : Type) where
  publishSequence : UInt32
  idleTicks : UInt32
  state : ChassisStateMessage F
  motorFeedback : Vector MotorFeedbackMessage 4
  motorFeedbackValid : Vector Bool 4
  wheelSpeedPid : Vector (Pid F) 4
  pidKp : F
  pidKi : F
  pidKd : F
  pidILimit : F
  pidOutLimit : F

namespace ChassisModule

def kKinematicsFactor : F := lit (707107 / 1000000)
def kPidKp : F := lit 3
def kPidKi : F := lit (2 / 10)
def kPidKd : F := 0
def kIntegralLimit : F := lit 500
def kCurrentLimit : F := lit 16384
def kCommandVxLimit : F := lit 20
def kCommandVyLimit : F := lit 20
def kCommandWzLimit : F := lit 20
def kWheelTargetOmegaLimit : F := lit 40
def kNoCommandStopTicks : UInt32 := 100

/-- The object in static storage, before `Initialize`. -/
def zeroed (F : Type) [FloatModel F] : ChassisModule F where
  publishSequence := 0
  idleTicks := 0
  state := 0
  motorFeedback := Vector.replicate 4 0
  motorFeedbackValid := Vector.replicate 4 false
  wheelSpeedPid := Vector.replicate 4 (Pid.zeroed F)
  pidKp := kPidKp
  pidKi := kPidKi
  pidKd := kPidKd
  pidILimit := kIntegralLimit
  pidOutLimit := kCurrentLimit

def setSpeedPidTuning (m : ChassisModule F) (kp ki kd iLimit outLimit : F) :
    ChassisModule F × Except Errno Unit :=
  if le iLimit 0 || le outLimit 0 then (m, .error .einval)
  else
    ({ m with
        pidKp := kp
        pidKi := ki
        pidKd := kd
        pidILimit := iLimit
        pidOutLimit := outLimit
        wheelSpeedPid := m.wheelSpeedPid.map fun pid =>
          (pid.init (.basic kp ki kd 0 iLimit outLimit (lit (1 / 1000)))).setIntegralError 0 },
      .ok ())

/-- The limits pass the check of `SetSpeedPidTuning`. -/
def Accepts (iLimit outLimit : F) : Prop := (le iLimit 0 || le outLimit 0) = false

instance (iLimit outLimit : F) : Decidable (Accepts iLimit outLimit) :=
  inferInstanceAs (Decidable (_ = _))

theorem setSpeedPidTuning_accepted (m : ChassisModule F) {kp ki kd iLimit outLimit : F}
    (accepted : Accepts iLimit outLimit) :
    m.setSpeedPidTuning kp ki kd iLimit outLimit =
      ({ m with
          pidKp := kp
          pidKi := ki
          pidKd := kd
          pidILimit := iLimit
          pidOutLimit := outLimit
          wheelSpeedPid := m.wheelSpeedPid.map fun pid =>
            (pid.init (.basic kp ki kd 0 iLimit outLimit (lit (1 / 1000)))).setIntegralError 0 },
        .ok ()) := if_neg (ne_true_of_eq_false accepted)

theorem setSpeedPidTuning_rejected (m : ChassisModule F) (kp ki kd : F) {iLimit outLimit : F}
    (rejected : ¬ Accepts iLimit outLimit) :
    m.setSpeedPidTuning kp ki kd iLimit outLimit = (m, .error .einval) :=
  if_pos (eq_true_of_ne_false rejected)

def getSpeedPidTuning (m : ChassisModule F) : SpeedPidTuning F where
  kp := m.pidKp
  ki := m.pidKi
  kd := m.pidKd
  iLimit := m.pidILimit
  outLimit := m.pidOutLimit

def resetSpeedPidIntegrator (m : ChassisModule F) : ChassisModule F :=
  { m with wheelSpeedPid := m.wheelSpeedPid.map Pid.reset }

instance : SpeedPidTuningProvider (ChassisModule F) F where
  setSpeedPidTuning m tuning :=
    m.setSpeedPidTuning tuning.kp tuning.ki tuning.kd tuning.iLimit tuning.outLimit
  getSpeedPidTuning m := .ok m.getSpeedPidTuning
  resetSpeedPidIntegrator m := (m.resetSpeedPidIntegrator, .ok ())

def resetTargetsAndPid (m : ChassisModule F) : ChassisModule F :=
  resetSpeedPidIntegrator
    { m with
      state :=
        { m.state with
          wheel1TargetOmega := 0
          wheel2TargetOmega := 0
          wheel3TargetOmega := 0
          wheel4TargetOmega := 0 } }

/-- `Initialize` after the module is registered with the tuning service. -/
def initialized (m : ChassisModule F) : ChassisModule F :=
  (setSpeedPidTuning { m with state := 0, publishSequence := 0, idleTicks := 0 }
    kPidKp kPidKi kPidKd kIntegralLimit kCurrentLimit).1

/-- `Initialize` of the module at the address `this`, which registers with the tuning
service before it takes the default tuning. -/
def initializeAt {Provider : Type} [DecidableEq Provider] (this : Provider)
    (service : ChassisTuning Provider) (m : ChassisModule F) :
    ChassisTuning Provider × ChassisModule F × Except Errno Unit :=
  let m := { m with state := 0, publishSequence := 0, idleTicks := 0 }
  let (service, unregisterRc) := service.unregisterProvider (some this)
  if unregisterRc ≠ .ok () ∧ unregisterRc ≠ .error .enoent then (service, m, unregisterRc)
  else
    match service.registerProvider (some this) (some "chassis_module") 100 with
    | (service, .error registerRc) => (service, m, .error registerRc)
    | (service, .ok ()) =>
        let (m, rc) := m.setSpeedPidTuning kPidKp kPidKi kPidKd kIntegralLimit kCurrentLimit
        (service, m, rc)

/-- With room in the table the module takes the default tuning, and without it keeps the
one it has. -/
theorem initializeAt_spec {Provider : Type} [DecidableEq Provider] (this : Provider)
    (service : ChassisTuning Provider) (m : ChassisModule F) :
    (service.HasRoom this →
        m.initializeAt this service =
          (((service.unregisterProvider (some this)).1.registerProvider (some this)
              (some "chassis_module") 100).1, m.initialized,
            (setSpeedPidTuning { m with state := 0, publishSequence := 0, idleTicks := 0 }
              kPidKp kPidKi kPidKd kIntegralLimit kCurrentLimit).2)) ∧
      (¬ service.HasRoom this →
        m.initializeAt this service =
          (service, { m with state := 0, publishSequence := 0, idleTicks := 0 },
            .error .enomem)) := by
  obtain ⟨hUnregister, hRegister⟩ := service.reregister_spec this "chassis_module" 100
  have hPass : ¬ ((service.unregisterProvider (some this)).2 ≠ .ok () ∧
      (service.unregisterProvider (some this)).2 ≠ .error .enoent) :=
    fun h => hUnregister.elim h.1 h.2
  constructor
  · intro hRoom
    have hOk := (hRegister.1 hRoom)
    rcases hTable : (service.unregisterProvider (some this)).1.registerProvider (some this)
        (some "chassis_module") 100 with ⟨table, rc⟩
    obtain rfl : rc = .ok () := by rwa [hTable] at hOk
    simp only [initializeAt, if_neg hPass, hTable]
    rfl
  · intro hFull
    simp only [initializeAt, if_neg hPass, hRegister.2 hFull]

/-- If the default limits are accepted, as they are wherever they compare as numbers,
the controllers have the default tuning. -/
theorem initialized_of_accepts (accepted : Accepts (kIntegralLimit : F) kCurrentLimit)
    (m : ChassisModule F) :
    m.initialized.state = 0 ∧
      m.initialized.wheelSpeedPid = m.wheelSpeedPid.map fun pid =>
        (pid.init (.basic kPidKp kPidKi kPidKd 0 kIntegralLimit kCurrentLimit
          (lit (1 / 1000)))).setIntegralError 0 := by
  rw [initialized, setSpeedPidTuning_accepted _ accepted]
  exact ⟨rfl, rfl⟩

/-- A frame taken from the queue: only wheel feedback on CAN1 is kept. -/
def decodeCanFrame (m : ChassisModule F) (frame : CanRawFrameMessage) : ChassisModule F :=
  if frame.bus ≠ 1 then m
  else if frame.canId < 0x201 ∨ frame.canId > 0x204 then m
  else
    match Dji.decodeFeedback frame.data frame.dlc with
    | .error _ => m
    | .ok decoded =>
        let idx := frame.canId.toNat - 0x201
        let feedback : MotorFeedbackMessage :=
          { m.motorFeedback.toList.getD idx 0 with
            bus := frame.bus
            canId := frame.canId
            encoder := decoded.encoder
            omega := decoded.omega
            current := decoded.current
            temperature := decoded.temperature }
        { m with
          motorFeedback := m.motorFeedback.setIfInBounds idx feedback
          motorFeedbackValid := m.motorFeedbackValid.setIfInBounds idx true }

def decodeCanFramesInQueue (m : ChassisModule F) (frames : List CanRawFrameMessage) :
    ChassisModule F :=
  frames.foldl decodeCanFrame m

/-- The target of one wheel from its mix of the clamped `vx` and `vy`. -/
def wheelTarget (mix wz : F) : F :=
  clamp (mix + wz) (-kWheelTargetOmegaLimit) kWheelTargetOmegaLimit

def updateStateFromCommand (m : ChassisModule F) (command : ChassisCommandMessage F) :
    ChassisModule F :=
  let vx := clamp command.targetVx (-kCommandVxLimit) kCommandVxLimit
  let vy := clamp command.targetVy (-kCommandVyLimit) kCommandVyLimit
  let wz := clamp command.targetWz (-kCommandWzLimit) kCommandWzLimit
  { m with
    state :=
      { m.state with
        wheel1TargetOmega := wheelTarget (kKinematicsFactor * vx - kKinematicsFactor * vy) wz
        wheel2TargetOmega := wheelTarget (-kKinematicsFactor * vx - kKinematicsFactor * vy) wz
        wheel3TargetOmega := wheelTarget (-kKinematicsFactor * vx + kKinematicsFactor * vy) wz
        wheel4TargetOmega := wheelTarget (kKinematicsFactor * vx + kKinematicsFactor * vy) wz } }

/-- The controllers after one step of those with valid feedback, and the currents. -/
def wheelCurrents (m : ChassisModule F) : Vector (Pid F) 4 × Vector Int16 4 :=
  let target := #v[m.state.wheel1TargetOmega, m.state.wheel2TargetOmega,
    m.state.wheel3TargetOmega, m.state.wheel4TargetOmega]
  (List.finRange 4).foldl
    (fun (pids, currentCmd) i =>
      if m.motorFeedbackValid.get i then
        let measured := lit (m.motorFeedback.get i).omega.toInt
        let (pid, out) := (pids.get i).update (target.get i) measured
        (pids.setIfInBounds i pid, currentCmd.setIfInBounds i (castInt16 out))
      else (pids, currentCmd))
    (m.wheelSpeedPid, Vector.replicate 4 0)

/-- The step of the controller of one wheel, with its output. -/
def wheelStep (m : ChassisModule F) (i : Fin 4) : Pid F × F :=
  (m.wheelSpeedPid.get i).update
    (#v[m.state.wheel1TargetOmega, m.state.wheel2TargetOmega, m.state.wheel3TargetOmega,
      m.state.wheel4TargetOmega].get i)
    (lit (m.motorFeedback.get i).omega.toInt)

/-- Of the wheels with valid feedback, each controller takes its own step, and each
current is its output. -/
theorem wheelCurrents_get (m : ChassisModule F) (i : Fin 4) :
    (m.wheelCurrents.1.get i, m.wheelCurrents.2.get i) =
      if m.motorFeedbackValid.get i then ((m.wheelStep i).1, castInt16 (m.wheelStep i).2)
      else (m.wheelSpeedPid.get i, 0) := by
  let target := #v[m.state.wheel1TargetOmega, m.state.wheel2TargetOmega,
    m.state.wheel3TargetOmega, m.state.wheel4TargetOmega]
  have hLoop := Cells.foldl_finRange m.motorFeedbackValid.get
    (fun i pid =>
      let (pid, out) := pid.update (target.get i) (lit (m.motorFeedback.get i).omega.toInt)
      (pid, castInt16 out))
    (m.wheelSpeedPid, Vector.replicate 4 0) i
  have hZero : (Vector.replicate 4 (0 : Int16)).get i = 0 := Vector.getElem_replicate i.isLt
  rw [hZero] at hLoop
  exact hLoop

def applyWheelSpeedPidAndSend (m : ChassisModule F) (port : CanPort) :
    ChassisModule F × CanPort :=
  let (pids, currentCmd) := m.wheelCurrents
  ({ m with wheelSpeedPid := pids },
    (Actuator.sendMotorCurrent port .kCan1 .kDji0x200 currentCmd).1)

/-- One iteration of `RunLoop`, given the frames it dequeues and what reading the
command channel returns, with the state it publishes. -/
def runLoopTick (m : ChassisModule F) (port : CanPort) (frames : List CanRawFrameMessage)
    (command : Option (ChassisCommandMessage F)) :
    ChassisModule F × CanPort × ChassisStateMessage F :=
  let m := m.decodeCanFramesInQueue frames
  let m :=
    match command with
    | some command => updateStateFromCommand { m with idleTicks := 0 } command
    | none =>
        let m := { m with idleTicks := m.idleTicks + 1 }
        if m.idleTicks > kNoCommandStopTicks then m.resetTargetsAndPid else m
  let (m, port) := m.applyWheelSpeedPidAndSend port
  let sequence := m.publishSequence + 1
  let m := { m with publishSequence := sequence, state := { m.state with sequence := sequence } }
  (m, port, m.state)

/-- An iteration of `RunLoop` as far as the controllers: the frames it dequeues and
what reading the command channel returns. -/
def receive (m : ChassisModule F) (frames : List CanRawFrameMessage)
    (command : Option (ChassisCommandMessage F)) : ChassisModule F :=
  let m := m.decodeCanFramesInQueue frames
  match command with
  | some command => updateStateFromCommand { m with idleTicks := 0 } command
  | none =>
      let m := { m with idleTicks := m.idleTicks + 1 }
      if m.idleTicks > kNoCommandStopTicks then m.resetTargetsAndPid else m

/-- The rest of the iteration sends the currents of the controllers. -/
theorem runLoopTick_receive (m : ChassisModule F) (port : CanPort)
    (frames : List CanRawFrameMessage) (command : Option (ChassisCommandMessage F)) :
    (m.runLoopTick port frames command).1.wheelSpeedPid =
    (m.receive frames command).wheelCurrents.1 ∧
      (m.runLoopTick port frames command).2.1 =
        (Actuator.sendMotorCurrent port .kCan1 .kDji0x200
          (m.receive frames command).wheelCurrents.2).1 :=
  ⟨rfl, rfl⟩

omit [FloatModel F] in
/-- Feedback frames touch only the feedback. -/
theorem decodeCanFramesInQueue_keeps {Kept : Type} (view : ChassisModule F → Kept)
    (keeps : ∀ (m : ChassisModule F) feedback valid,
      view { m with motorFeedback := feedback, motorFeedbackValid := valid } = view m)
    (m : ChassisModule F) (frames : List CanRawFrameMessage) :
    view (m.decodeCanFramesInQueue frames) = view m := by
  have hFrame (m : ChassisModule F) (frame : CanRawFrameMessage) :
      view (m.decodeCanFrame frame) = view m := by
    unfold decodeCanFrame
    split_ifs
    · rfl
    · rfl
    · split
      · rfl
      · exact keeps m _ _
  unfold decodeCanFramesInQueue
  induction frames generalizing m with
  | nil => rfl
  | cons frame rest ih => exact (ih (m.decodeCanFrame frame)).trans (hFrame m frame)

/-- The watchdog resets the controllers and the targets in this iteration. -/
def WatchdogResets (m : ChassisModule F) (command : Option (ChassisCommandMessage F)) : Prop :=
  command = none ∧ m.idleTicks + 1 > kNoCommandStopTicks

theorem wheelSpeedPid_receive (m : ChassisModule F) (frames : List CanRawFrameMessage)
    (command : Option (ChassisCommandMessage F)) :
    (m.WatchdogResets command →
        (m.receive frames command).wheelSpeedPid = m.wheelSpeedPid.map Pid.reset) ∧
      (¬ m.WatchdogResets command →
        (m.receive frames command).wheelSpeedPid = m.wheelSpeedPid) := by
  have hPid := decodeCanFramesInQueue_keeps wheelSpeedPid (fun _ _ _ => rfl) m frames
  have hIdle := decodeCanFramesInQueue_keeps idleTicks (fun _ _ _ => rfl) m frames
  cases command with
  | some command => exact ⟨fun h => absurd h.1 (Option.some_ne_none command), fun _ => hPid⟩
  | none =>
      simp only [receive, WatchdogResets, hIdle, true_and]
      split_ifs with hOut
      · exact ⟨fun _ => congrArg (Vector.map Pid.reset) hPid, fun h => absurd hOut h⟩
      · exact ⟨fun h => absurd h hOut, fun _ => hPid⟩

/-- Past decoding, nothing touches the feedback. -/
theorem feedback_receive (m : ChassisModule F) (frames : List CanRawFrameMessage)
    (command : Option (ChassisCommandMessage F)) :
    (m.receive frames command).motorFeedback = (m.decodeCanFramesInQueue frames).motorFeedback ∧
      (m.receive frames command).motorFeedbackValid =
        (m.decodeCanFramesInQueue frames).motorFeedbackValid := by
  cases command with
  | some command => exact ⟨rfl, rfl⟩
  | none =>
      simp only [receive]
      split_ifs <;> exact ⟨rfl, rfl⟩

end ChassisModule

end RmTest.Modules

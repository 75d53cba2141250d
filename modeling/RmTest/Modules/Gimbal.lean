import RmTest.Channels.Messages
import RmTest.Library.FloatModel

/-! The gimbal module: the angles of yaw and pitch follow the commands, and two
serial servos follow the angles. The servos answer only during `Initialize`;
afterwards a tick gives the calls it makes to them. -/
namespace RmTest.Modules

open Channels FloatModel

variable {F : Type}

/-- A call to the serial servos. -/
inductive ServoCall (F : Type) where
  | stop (id : UInt8)
  | moveToAngle (id : UInt8) (degrees : F) (timeMs : UInt16)
  deriving DecidableEq

structure GimbalModule (F : Type) where
  servoReady : Bool
  servoStopped : Bool
  yawServoOnline : Bool
  pitchServoOnline : Bool
  commandEnable : UInt8
  idleTicks : UInt32
  yawServoId : UInt8
  pitchServoId : UInt8
  yawAngleDeg : F
  pitchAngleDeg : F
  yawLastSentAngleDeg : F
  pitchLastSentAngleDeg : F
  yawSentOnce : Bool
  pitchSentOnce : Bool
  nextServoSendMs : Int
  stateSequence : UInt32

variable [FloatModel F]

namespace GimbalModule

def kYawMin : F := lit (-180)
def kYawMax : F := lit 180
def kPitchMin : F := lit (-30)
def kPitchMax : F := lit 45
def kDefaultYawServoId : UInt8 := 1
def kDefaultPitchServoId : UInt8 := 2
def kServoMoveTimeMs : UInt16 := 20
def kServoUpdatePeriodMs : UInt16 := 20
def kServoAngleEpsilonDeg : F := lit (2 / 10)
def kNoCommandStopTicks : UInt32 := 100

/-- `Initialize`, given whether the servo driver initializes and what it finds for
an identifier, which is 0xfe for any servo. -/
def initialized (servoReady : Bool) (readId : UInt8 → Option UInt8) : GimbalModule F :=
  let yaw := if servoReady then readId kDefaultYawServoId else none
  let pitch := if servoReady then readId kDefaultPitchServoId else none
  let broadcast :=
    if servoReady && yaw.isNone && pitch.isNone then readId 0xfe else none
  { servoReady := servoReady
    servoStopped := false
    yawServoOnline := yaw.isSome || broadcast.isSome
    pitchServoOnline := pitch.isSome
    commandEnable := 0
    idleTicks := 0
    yawServoId := (yaw.or broadcast).getD kDefaultYawServoId
    pitchServoId := pitch.getD kDefaultPitchServoId
    yawAngleDeg := 0
    pitchAngleDeg := 0
    yawLastSentAngleDeg := 0
    pitchLastSentAngleDeg := 0
    yawSentOnce := false
    pitchSentOnce := false
    nextServoSendMs := 0
    stateSequence := 0 }

def setYawAngle (m : GimbalModule F) (degrees : F) : GimbalModule F :=
  { m with yawAngleDeg := clamp degrees kYawMin kYawMax }

def setPitchAngle (m : GimbalModule F) (degrees : F) : GimbalModule F :=
  { m with pitchAngleDeg := clamp degrees kPitchMin kPitchMax }

def handleCommand (m : GimbalModule F) (command : GimbalCommandMessage F) : GimbalModule F :=
  let m := { m with commandEnable := command.enable, idleTicks := 0 }
  if command.enable = 0 then m
  else
    let m := m.setYawAngle (m.yawAngleDeg + command.yawDeltaDeg)
    m.setPitchAngle (m.pitchAngleDeg + command.pitchDeltaDeg)

/-- An iteration of `RunLoop` as far as the servos: what reading the command channel
returns. -/
def receive (m : GimbalModule F) (command : Option (GimbalCommandMessage F)) : GimbalModule F :=
  match command with
  | some command => m.handleCommand command
  | none =>
      let m := { m with idleTicks := m.idleTicks + 1 }
      if m.idleTicks > kNoCommandStopTicks then { m with commandEnable := 0 } else m

omit [FloatModel F] in
/-- Both servos are stopped once, and then need to be sent their angles again. -/
def stopServos (m : GimbalModule F) : GimbalModule F × List (ServoCall F) :=
  if m.servoStopped then (m, [])
  else
    ({ m with servoStopped := true, yawSentOnce := false, pitchSentOnce := false },
      (if m.yawServoOnline then [.stop m.yawServoId] else []) ++
        if m.pitchServoOnline then [.stop m.pitchServoId] else [])

/-- Whether a servo needs to be sent an angle. -/
def needsAngle (online sentOnce : Bool) (angle lastSent : F) : Bool :=
  online && (!sentOnce || le kServoAngleEpsilonDeg (fabs (angle - lastSent)))

def moveYaw (m : GimbalModule F) : GimbalModule F × List (ServoCall F) :=
  let yawServoAngle := m.yawAngleDeg + lit 120
  if needsAngle m.yawServoOnline m.yawSentOnce yawServoAngle m.yawLastSentAngleDeg then
    ({ m with yawLastSentAngleDeg := yawServoAngle, yawSentOnce := true },
      [.moveToAngle m.yawServoId yawServoAngle kServoMoveTimeMs])
  else (m, [])

def movePitch (m : GimbalModule F) : GimbalModule F × List (ServoCall F) :=
  let pitchServoAngle := m.pitchAngleDeg + lit 90
  if needsAngle m.pitchServoOnline m.pitchSentOnce pitchServoAngle m.pitchLastSentAngleDeg then
    ({ m with pitchLastSentAngleDeg := pitchServoAngle, pitchSentOnce := true },
      [.moveToAngle m.pitchServoId pitchServoAngle kServoMoveTimeMs])
  else (m, [])

/-- The servos are sent their angles once in a period. -/
def moveServos (m : GimbalModule F) (nowMs : Int) : GimbalModule F × List (ServoCall F) :=
  if nowMs ≥ m.nextServoSendMs then
    let (m, yawCalls) := m.moveYaw
    let (m, pitchCalls) := m.movePitch
    ({ m with nextServoSendMs := nowMs + kServoUpdatePeriodMs.toNat, servoStopped := false },
      yawCalls ++ pitchCalls)
  else ({ m with servoStopped := false }, [])

/-- One iteration of `RunLoop`, given what reading the command channel returns and
the time, with the calls to the servos and the state it publishes. -/
def runLoopTick (m : GimbalModule F) (command : Option (GimbalCommandMessage F)) (nowMs : Int) :
    GimbalModule F × List (ServoCall F) × GimbalStateMessage F :=
  let m := m.receive command
  let (m, calls) :=
    if m.servoReady then
      if m.commandEnable = 0 then m.stopServos else m.moveServos nowMs
    else (m, [])
  let sequence := m.stateSequence + 1
  let m := { m with stateSequence := sequence }
  (m, calls,
    { yawAngleDeg := m.yawAngleDeg
      pitchAngleDeg := m.pitchAngleDeg
      servoReady := if m.servoReady then 1 else 0
      sequence := sequence })

omit [FloatModel F] in
theorem angles_stopServos (m : GimbalModule F) :
    m.stopServos.1.yawAngleDeg = m.yawAngleDeg ∧
      m.stopServos.1.pitchAngleDeg = m.pitchAngleDeg := by
  unfold stopServos
  split_ifs <;> exact ⟨rfl, rfl⟩

theorem angles_moveServos (m : GimbalModule F) (nowMs : Int) :
    (m.moveServos nowMs).1.yawAngleDeg = m.yawAngleDeg ∧
      (m.moveServos nowMs).1.pitchAngleDeg = m.pitchAngleDeg := by
  have hYaw (m : GimbalModule F) : m.moveYaw.1.yawAngleDeg = m.yawAngleDeg ∧
      m.moveYaw.1.pitchAngleDeg = m.pitchAngleDeg := by
    simp only [moveYaw]
    split_ifs <;> exact ⟨rfl, rfl⟩
  have hPitch (m : GimbalModule F) : m.movePitch.1.yawAngleDeg = m.yawAngleDeg ∧
      m.movePitch.1.pitchAngleDeg = m.pitchAngleDeg := by
    simp only [movePitch]
    split_ifs <;> exact ⟨rfl, rfl⟩
  simp only [moveServos]
  split_ifs
  · exact ⟨(hPitch _).1.trans (hYaw m).1, (hPitch _).2.trans (hYaw m).2⟩
  · exact ⟨rfl, rfl⟩

def virtualTargets (m : GimbalModule F) : List F := [m.yawAngleDeg, m.pitchAngleDeg]

/-- Only the command changes the angles. -/
theorem virtualTargets_runLoopTick (m : GimbalModule F)
    (command : Option (GimbalCommandMessage F)) (nowMs : Int) :
    (m.runLoopTick command nowMs).1.virtualTargets = (m.receive command).virtualTargets := by
  have hKept {m m' : GimbalModule F}
      (kept : m'.yawAngleDeg = m.yawAngleDeg ∧ m'.pitchAngleDeg = m.pitchAngleDeg) :
      m'.virtualTargets = m.virtualTargets := by
    rw [virtualTargets, kept.1, kept.2, virtualTargets]
  simp only [runLoopTick]
  split_ifs
  · exact hKept (angles_stopServos _)
  · exact hKept (angles_moveServos _ nowMs)
  · rfl

theorem virtualTargets_receive_of_disabled (m : GimbalModule F)
    {read : Option (GimbalCommandMessage F)} (disabled : ∀ command ∈ read, command.enable = 0) :
    (m.receive read).virtualTargets = m.virtualTargets := by
  cases read with
  | none =>
      simp only [receive]
      split_ifs <;> rfl
  | some command =>
      have hHandled : m.receive (some command) =
          { m with commandEnable := command.enable, idleTicks := 0 } :=
        if_pos (disabled command rfl)
      rw [hHandled]
      rfl

end GimbalModule

end RmTest.Modules

import RmTest.Modules.Gimbal
import RmTest.Platform.SerialServo

/-! The gimbal module together with the servo driver it calls, and everything the two have
put on the serial line since the start. -/
namespace RmTest.Modules

open Channels FloatModel Platform

variable {F : Type}

/-- When a query is made, and what the line has while `ReadId` waits for its answer. -/
structure QueryAnswer where
  nowMs : Int
  polls : List Poll

namespace ServoCall

variable [FloatModel F]

/-- A call to the driver, whose result the module does not look at. -/
def send (servo : SerialServo) : ServoCall F → List UInt8
  | .stop id => (servo.stop id).1
  | .moveToAngle id degrees timeMs => (servo.moveToAngle id degrees timeMs).1

end ServoCall

structure GimbalRig (F : Type) where
  gimbal : GimbalModule F
  servo : SerialServo
  line : List UInt8

namespace GimbalRig

def kReadIdTimeoutMs (query : UInt8) : UInt32 := if query = 0xfe then 200 else 120

/-- A `ReadId` of `Initialize`: the bytes it sends and the identifier it finds. -/
def ask (servo : SerialServo) (answers : UInt8 → QueryAnswer) (query : UInt8) :
    List UInt8 × Option UInt8 :=
  match servo.readId query (some 0) (answers query).nowMs (kReadIdTimeoutMs query)
      (answers query).polls with
  | (sent, found, .ok ()) => (sent, found)
  | (sent, _, .error _) => (sent, none)

/-- The bytes of the queries: the broadcast only if neither servo answers. -/
def queries (servo : SerialServo) (answers : UInt8 → QueryAnswer) : List UInt8 :=
  let (yawSent, yaw) := ask servo answers GimbalModule.kDefaultYawServoId
  let (pitchSent, pitch) := ask servo answers GimbalModule.kDefaultPitchServoId
  let broadcastSent := if yaw.isNone && pitch.isNone then (ask servo answers 0xfe).1 else []
  yawSent ++ pitchSent ++ broadcastSent

variable [FloatModel F]

/-- `Initialize`, with what the device tree chooses, whether that is ready, and what the
line answers. -/
def initialized (hasChosen deviceReady : Bool) (answers : UInt8 → QueryAnswer) : GimbalRig F :=
  match SerialServo.initial.initializeDriver hasChosen deviceReady with
  | (servo, .ok ()) =>
      { gimbal := GimbalModule.initialized true fun query => (ask servo answers query).2
        servo := servo
        line := queries servo answers }
  | (servo, .error _) =>
      { gimbal := GimbalModule.initialized false fun _ => none
        servo := servo
        line := [] }

/-- An iteration of `RunLoop`, given what reading the command channel returns and the time. -/
def tick (rig : GimbalRig F) (event : Option (GimbalCommandMessage F) × Int) : GimbalRig F :=
  let (gimbal, calls, _) := rig.gimbal.runLoopTick event.1 event.2
  { rig with gimbal := gimbal, line := rig.line ++ calls.flatMap (ServoCall.send rig.servo) }

end GimbalRig

end RmTest.Modules

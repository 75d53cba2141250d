import RmTest.Debug.ChassisTuningShell
import RmTest.Modules.Chassis

/-! The commands `chassis pid` as they are typed, and what else happens to the chassis
modules and to the table of providers in between. -/
namespace RmTest.Debug

open Channels Modules Platform Services

variable {Volume Provider Object F : Type}

/-- `ParseFloatArg`, of a whole argument. -/
def parseFloatArg [FloatSource F] (arg : Scan.Text) : Except Errno F :=
  match Scan.strtof arg with
  | some (value, []) => .ok (FloatSource.ofText value)
  | _ => .error .einval

/-- The five calls of `ParseFloatArg` in `CmdPidSet`, of which the first that fails is the
last. -/
def parseTuningArgs [FloatSource F] (kp ki kd iLimit outLimit : Scan.Text) :
    Except Errno (SpeedPidTuning F) := do
  let kp ← parseFloatArg kp
  let ki ← parseFloatArg ki
  let kd ← parseFloatArg kd
  let iLimit ← parseFloatArg iLimit
  let outLimit ← parseFloatArg outLimit
  return ⟨kp, ki, kd, iLimit, outLimit⟩

/-- `argv` begins with the name of the command. -/
def cmdPidSet (F : Type) [DecidableEq Provider] [FloatSource F] [SpeedPidTuningProvider Object F]
    (argv : List Scan.Text) (w : ShellSystem Volume Provider Object) :
    ShellSystem Volume Provider Object × Except Errno Unit :=
  match argv with
  | [_, kp, ki, kd, iLimit, outLimit] =>
      match (parseTuningArgs kp ki kd iLimit outLimit : Except Errno (SpeedPidTuning F)) with
      | .error rc => (w, .error rc)
      | .ok tuning =>
          let (objects, rc) := w.service.setSpeedPidTuning w.objects tuning
          ({ w with objects := objects }, rc)
  | _ => (w, .error .einval)

def cmdPidResetI (F : Type) [DecidableEq Provider] [SpeedPidTuningProvider Object F]
    (w : ShellSystem Volume Provider Object) :
    ShellSystem Volume Provider Object × Except Errno Unit :=
  let (objects, rc) := w.service.resetSpeedPidIntegrator (F := F) w.objects
  ({ w with objects := objects }, rc)

/-- What `CmdPidStatus` prints. -/
inductive PidStatus where
  | notReady
  | ready (active : Option String) (priority : Int) (count : Nat)
  deriving DecidableEq

def cmdPidStatus (w : ShellSystem Volume Provider Object) : Except Errno PidStatus :=
  let status := w.service.getProviderStatus
  match status.result with
  | .error rc => if rc = .enoent then .ok .notReady else .error rc
  | .ok () => .ok (.ready status.activeName status.activePriority status.providerCount)

/-- A command of the shell, a call of the tuning service by someone else, or an iteration
of `RunLoop` or a call of `Initialize` of a chassis module. -/
inductive PidEvent (Provider F : Type) where
  | get
  | set (argv : List Scan.Text)
  | save
  | load
  | dump
  | status
  | resetI
  | tuningCall (call : TuningCall Provider)
  | initializeChassis (provider : Provider)
  | tick (provider : Provider) (port : CanPort) (frames : List CanRawFrameMessage)
      (command : Option (ChassisCommandMessage F))

variable [DecidableEq Provider] [FloatBits F] (fs : FileSystem Volume)

/-- An event, with what its command returns. -/
def pidEvent (w : ShellSystem Volume Provider (ChassisModule F)) :
    PidEvent Provider F → ShellSystem Volume Provider (ChassisModule F) × Except Errno Unit
  | .get => (w, (w.service.getSpeedPidTuning (F := F) w.objects).map fun _ => ())
  | .set argv => cmdPidSet F argv w
  | .save => cmdPidSave (F := F) fs w
  | .load => cmdPidLoad (F := F) fs w
  | .dump => ((cmdPidDump (F := F) fs w).1, (cmdPidDump (F := F) fs w).2.map fun _ => ())
  | .status => (w, (cmdPidStatus w).map fun _ => ())
  | .resetI => cmdPidResetI F w
  | .tuningCall call => ({ w with service := (w.service.call call).1 }, (w.service.call call).2)
  | .initializeChassis provider =>
      let (service, object, rc) := (w.objects provider).initializeAt provider w.service
      ({ w with service := service, objects := Function.update w.objects provider object }, rc)
  | .tick provider port frames command =>
      ({ w with
          objects := Function.update w.objects provider
            ((w.objects provider).runLoopTick port frames command).1 }, .ok ())

/-- A step of the session. -/
def pidStep (w : ShellSystem Volume Provider (ChassisModule F)) (event : PidEvent Provider F) :
    ShellSystem Volume Provider (ChassisModule F) := (pidEvent fs w event).1

end RmTest.Debug

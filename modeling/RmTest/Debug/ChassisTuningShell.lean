import RmTest.Library.Print
import RmTest.Platform.LittlefsService
import RmTest.Services.ChassisTuning

/-! The shell commands that save the tuning of the chassis controllers to a file and
load it back. What they print is left out. -/
namespace RmTest.Debug

open Channels Platform Services

def kPidConfigPath : String := "/lfs/chassis_pid.cfg"

/-- The size of `buf`, in which one byte is left for the terminating zero. -/
def kBufSize : Nat := 128

/-- What the commands work on. -/
structure ShellSystem (Volume Provider Object : Type) where
  littlefs : LittlefsService Volume
  service : ChassisTuning Provider
  objects : Provider → Object

variable {Volume Provider Object F : Type}

section Parsers

variable [FloatSource F]

/-- The loop of `ParsePidFromFloatText`. -/
def floatTexts : Nat → Scan.Text → Option (List F)
  | 0, _ => some []
  | count + 1, cursor =>
      (Scan.strtof cursor).bind fun (value, rest) =>
        (floatTexts count rest).map (FloatSource.ofText value :: ·)

def parsePidFromFloatText (text : Scan.Text) : Except Errno (SpeedPidTuning F) :=
  match floatTexts 5 text with
  | some [kp, ki, kd, iLimit, outLimit] => .ok ⟨kp, ki, kd, iLimit, outLimit⟩
  | _ => .error .einval

/-- `sscanf` with a format of as many `%x`, with blanks between them. -/
def hexWords : Nat → Scan.Text → Option (List UInt32)
  | 0, _ => some []
  | count + 1, text =>
      (Scan.hex text).bind fun (bits, rest) => (hexWords count rest).map (bits :: ·)

def parsePidFromHexBits (text : Scan.Text) : Except Errno (SpeedPidTuning F) :=
  match hexWords 5 text with
  | some [b0, b1, b2, b3, b4] =>
      .ok ⟨FloatSource.ofBits b0, FloatSource.ofBits b1, FloatSource.ofBits b2,
        FloatSource.ofBits b3, FloatSource.ofBits b4⟩
  | _ => .error .einval

/-- `CmdPidLoad` and `CmdPidDump` try the bit patterns first. -/
def parsePid (text : Scan.Text) : Except Errno (SpeedPidTuning F) :=
  match parsePidFromHexBits text with
  | .ok values => .ok values
  | .error _ => parsePidFromFloatText text

/-- `format` in `CmdPidDump`. -/
inductive PidFormat where
  | hex
  | float
  deriving DecidableEq

/-- What `CmdPidDump` makes of a text. -/
def parsePidFormat (text : Scan.Text) : Except Errno (PidFormat × SpeedPidTuning F) :=
  match parsePidFromHexBits text with
  | .ok values => .ok (.hex, values)
  | .error _ => (parsePidFromFloatText text).map (.float, ·)

end Parsers

/-- The text of `CmdPidSave`, of five times `%08x`. -/
def pidText [FloatBits F] (tuning : SpeedPidTuning F) : Scan.Text :=
  Print.hex8 (FloatBits.toBits tuning.kp) ++ 0x20 ::
    (Print.hex8 (FloatBits.toBits tuning.ki) ++ 0x20 ::
      (Print.hex8 (FloatBits.toBits tuning.kd) ++ 0x20 ::
        (Print.hex8 (FloatBits.toBits tuning.iLimit) ++ 0x20 ::
          (Print.hex8 (FloatBits.toBits tuning.outLimit) ++ [0x0a]))))

/-- `snprintk`: what it writes before the terminating zero, and the length of the text. -/
def snprintk (size : Nat) (text : Scan.Text) : Scan.Text × Nat :=
  (text.take (size - 1), text.length)

variable (fs : FileSystem Volume)

/-- `CmdPidSave` from `fs_write` on: the errors are looked at after all three calls. -/
def storeBytes (volume : Volume) (buf : List UInt8) (len : Nat) : Volume × Except Errno Unit :=
  let (volume, writeLen) := fs.fsWrite volume (buf.take len)
  let (volume, rc) := fs.fsSync volume
  (fs.fsClose volume,
    match writeLen with
    | .error writeRc => .error writeRc
    | .ok written => if written ≠ len then .error .eio else rc)

/-- `CmdPidSave` from formatting on, with the file open. -/
def writeOpened (volume : Volume) (text : Scan.Text) : Volume × Except Errno Unit :=
  let (buf, len) := snprintk kBufSize text
  if len = 0 then (fs.fsClose volume, .error .eio) else storeBytes fs volume buf len

/-- The calls of `CmdPidSave` on the file. -/
def writeConfig (volume : Volume) (text : Scan.Text) : Volume × Except Errno Unit :=
  match fs.fsOpen volume kPidConfigPath [.create, .write, .trunc] with
  | (volume, .error rc) => (volume, .error rc)
  | (volume, .ok ()) => writeOpened fs volume text

def cmdPidSave [FloatBits F] [SpeedPidTuningProvider Object F]
    (w : ShellSystem Volume Provider Object) :
    ShellSystem Volume Provider Object × Except Errno Unit :=
  match w.littlefs.initializeLittlefs fs with
  | (littlefs, .error mountRc) => ({ w with littlefs := littlefs }, .error mountRc)
  | (littlefs, .ok ()) =>
      match w.service.getSpeedPidTuning w.objects with
      | .error rc => ({ w with littlefs := littlefs }, .error rc)
      | .ok tuning =>
          let (volume, rc) := writeConfig fs littlefs.volume (pidText tuning)
          ({ w with littlefs := { littlefs with volume := volume } }, rc)

/-- The calls of `CmdPidLoad` on the file: the text it reads into `buf`, up to the
terminating zero. -/
def readConfig (volume : Volume) : Volume × Except Errno Scan.Text :=
  match fs.fsOpen volume kPidConfigPath [.read] with
  | (volume, .error rc) => (volume, .error rc)
  | (volume, .ok ()) =>
      let (volume, n) := fs.fsRead volume (kBufSize - 1)
      let volume := fs.fsClose volume
      match n with
      | .error rc => (volume, .error rc)
      | .ok [] => (volume, .error .enoent)
      | .ok bytes => (volume, .ok (bytes.takeWhile (· ≠ 0)))

/-- `CmdPidLoad` up to parsing. -/
def loadText (w : ShellSystem Volume Provider Object) :
    LittlefsService Volume × Except Errno Scan.Text :=
  match w.littlefs.initializeLittlefs fs with
  | (littlefs, .error mountRc) => (littlefs, .error mountRc)
  | (littlefs, .ok ()) =>
      let (volume, text) := readConfig fs littlefs.volume
      ({ littlefs with volume := volume }, text)

def cmdPidLoad [DecidableEq Provider] [FloatSource F] [SpeedPidTuningProvider Object F]
    (w : ShellSystem Volume Provider Object) :
    ShellSystem Volume Provider Object × Except Errno Unit :=
  match loadText fs w with
  | (littlefs, .error rc) => ({ w with littlefs := littlefs }, .error rc)
  | (littlefs, .ok text) =>
      match (parsePid text : Except Errno (SpeedPidTuning F)) with
      | .error rc => ({ w with littlefs := littlefs }, .error rc)
      | .ok values =>
          let (objects, rc) := w.service.setSpeedPidTuning w.objects values
          ({ w with littlefs := littlefs, objects := objects }, rc)

/-- What `CmdPidDump` prints: the text, and the values with their format, or the error
of the parser. -/
structure PidDump (F : Type) where
  raw : Scan.Text
  parsed : Except Errno (PidFormat × SpeedPidTuning F)

def cmdPidDump [FloatSource F] (w : ShellSystem Volume Provider Object) :
    ShellSystem Volume Provider Object × Except Errno (PidDump F) :=
  let (littlefs, text) := loadText fs w
  ({ w with littlefs := littlefs }, text.map fun text => ⟨text, parsePidFormat text⟩)

end RmTest.Debug

import RmTest.Channels.Messages
import RmTest.Library.Scan
import RmTest.Library.SlidingBuffer
import RmTest.Protocols.RemoteInput

/-! The remote input module. Every received byte goes both to the binary frame
decoder and to the text line assembler; whatever either accepts becomes the
latest input and is published, and every tick composes one command for each
subsystem from the latest input. Functions that publish return what they
publish, in order. -/
namespace RmTest.Modules

open Channels Protocols FloatModel

variable {F : Type}

/-- Which part of the module published a remote input message. -/
inductive PublishSite where
  | binaryFrame
  | textLine
  deriving DecidableEq

structure InputPublication (F : Type) where
  site : PublishSite
  input : RemoteInputMessage F

structure RemoteInputModule (F : Type) where
  publishSequence : UInt32
  latestInput : RemoteInputMessage F
  latestInputValid : Bool
  lineBuf : Vector UInt8 96
  linePos : Nat
  binaryBuf : SlidingBuffer UInt8 256

namespace RemoteInputModule

def kLineBufSize : Nat := 96

def initialized [FloatModel F] (m : RemoteInputModule F) : RemoteInputModule F :=
  { m with
    publishSequence := 0
    latestInput := 0
    latestInputValid := false
    linePos := 0
    lineBuf := m.lineBuf.set 0 0
    binaryBuf := m.binaryBuf.clear }

/-- The object in static storage, before `Initialize`. -/
def zeroed (F : Type) [FloatModel F] : RemoteInputModule F where
  publishSequence := 0
  latestInput := 0
  latestInputValid := false
  lineBuf := Vector.replicate _ 0
  linePos := 0
  binaryBuf := { data := Vector.replicate _ 0, len := 0, len_le := Nat.zero_le _ }

/-- The characters of `type` in `ParseLine`. -/
def dr16Word : List UInt8 := [0x64, 0x72, 0x31, 0x36]
def vt03Word : List UInt8 := [0x76, 0x74, 0x30, 0x33]

/-- The five conversions of `sscanf(line, "%7s %f %f %f %d", ..)`. -/
def scanLine [FloatSource F] (line : List UInt8) : Option (List UInt8 × F × F × F × Int) := do
  let (type, rest) ← Scan.word 7 line
  let (a, rest) ← Scan.float rest
  let (b, rest) ← Scan.float rest
  let (c, rest) ← Scan.float rest
  let (en, _) ← Scan.int rest
  return (type, FloatSource.ofText a, FloatSource.ofText b, FloatSource.ofText c, en)

/-- `ParseLine`: the module with its sequence advanced and the message, or
`none` for `-EINVAL`. -/
def parseLine [FloatSource F] (m : RemoteInputModule F) (line : List UInt8) :
    Option (RemoteInputModule F × RemoteInputMessage F) := do
  let (type, a, b, c, en) ← scanLine line
  let out : RemoteInputMessage F ←
    if type = dr16Word then
      some { source := .kRemoteInputDr16, axisLx := a, axisLy := b, axisWheel := c, axisJx := 0,
             axisJy := 0, axisJz := 0, chassisEnable := 0, sequence := 0 }
    else if type = vt03Word then
      some { source := .kRemoteInputVt03, axisJx := a, axisJy := b, axisJz := c, axisLx := 0,
             axisLy := 0, axisWheel := 0, chassisEnable := 0, sequence := 0 }
    else none
  let sequence := m.publishSequence + 1
  return ({ m with publishSequence := sequence },
    { out with chassisEnable := if en ≠ 0 then 1 else 0, sequence := sequence })

/-- `isprint` in the C locale. -/
def isPrint (byte : UInt8) : Bool := 0x20 ≤ byte && byte ≤ 0x7e

def resetLine (m : RemoteInputModule F) : RemoteInputModule F :=
  { m with linePos := 0, lineBuf := m.lineBuf.set 0 0 }

/-- The string that starts at `line_buf_`. -/
def lineString (m : RemoteInputModule F) : List UInt8 := m.lineBuf.toList.takeWhile (· ≠ 0)

/-- A line feed: the line so far is terminated and, unless empty, parsed. -/
def endLine [FloatSource F] (m : RemoteInputModule F) :
    RemoteInputModule F × List (RemoteInputMessage F) :=
  let m := { m with lineBuf := m.lineBuf.setIfInBounds m.linePos 0 }
  if 0 < m.linePos then
    match m.parseLine m.lineString with
    | some (m, input) =>
        (resetLine { m with latestInput := input, latestInputValid := true }, [input])
    | none => (m.resetLine, [])
  else (m.resetLine, [])

/-- What the loop of `DecodeUartFramesInQueue` does with a byte for the text
path. An overlong line is thrown away where it overflows. -/
def receiveText [FloatSource F] (m : RemoteInputModule F) (byte : UInt8) :
    RemoteInputModule F × List (RemoteInputMessage F) :=
  if byte = 0x0d then (m, [])
  else if byte = 0x0a then m.endLine
  else if isPrint byte = false then (m, [])
  else if m.linePos < kLineBufSize - 1 then
    ({ m with lineBuf := m.lineBuf.setIfInBounds m.linePos byte, linePos := m.linePos + 1 }, [])
  else (m.resetLine, [])

def consumeBinary (m : RemoteInputModule F) (bytes : Nat) : RemoteInputModule F :=
  if bytes = 0 ∨ m.binaryBuf.len = 0 then m
  else { m with binaryBuf := m.binaryBuf.consume bytes }

/-- The message each decoder's frame is turned into, before it is numbered. -/
def vt03Input [FloatModel F] (frame : Vt03.Vt03Frame F) : RemoteInputMessage F :=
  { (0 : RemoteInputMessage F) with
    source := .kRemoteInputVt03
    axisJx := frame.leftY
    axisJy := frame.leftX
    axisJz := frame.wheel
    chassisEnable := if frame.chassisEnable then 1 else 0 }

def customInput [FloatModel F] (custom : Vt03.Vt03CustomFrame F) : RemoteInputMessage F :=
  { (0 : RemoteInputMessage F) with
    source := .kRemoteInputVt03
    axisJx := custom.joystickX
    axisJy := custom.joystickY
    axisJz := custom.joystickZ
    chassisEnable := if custom.chassisEnable then 1 else 0 }

def dr16Input [FloatModel F] (frame : Dr16.Dr16Frame F) : RemoteInputMessage F :=
  { (0 : RemoteInputMessage F) with
    source := .kRemoteInputDr16
    axisLx := frame.leftStickX
    axisLy := frame.leftStickY
    axisWheel := frame.wheel
    chassisEnable := if frame.chassisEnable then 1 else 0 }

/-- The common end of the accepting branches: number the message, make it the
latest input, publish it and remove the frame. -/
def acceptBinary (m : RemoteInputModule F) (input : RemoteInputMessage F) (length : Nat) :
    RemoteInputModule F × List (RemoteInputMessage F) :=
  let sequence := m.publishSequence + 1
  let input := { input with sequence := sequence }
  (consumeBinary
    { m with publishSequence := sequence, latestInput := input, latestInputValid := true } length,
    [input])

/-- One pass of the loop of `TryDecodeBinaryFrames`; `none` where it ends. -/
def tryDecodePass [FloatSource F] (m : RemoteInputModule F) :
    Option (RemoteInputModule F × List (RemoteInputMessage F)) :=
  let data := m.binaryBuf.toList
  let len := m.binaryBuf.len
  if len = 0 then none
  else if Vt03.kRemoteFrameLength ≤ len ∧ data.getD 0 0 = 0xa9 ∧ data.getD 1 0 = 0x53 then
    match Vt03.decodeRemoteFrame data with
    | some frame => some (m.acceptBinary (vt03Input frame) Vt03.kRemoteFrameLength)
    | none => some (m.consumeBinary 1, [])
  else
    let custom :=
      if Vt03.kCustomFrameLength ≤ len ∧ data.getD 0 0 = 0xa5 then Vt03.decodeCustomFrame data
      else none
    match custom with
    | some frame => some (m.acceptBinary (customInput frame) Vt03.kCustomFrameLength)
    | none =>
        let dr16 := if Dr16.kFrameLength ≤ len then Dr16.decodeFrame data else none
        match dr16 with
        | some frame => some (m.acceptBinary (dr16Input frame) Dr16.kFrameLength)
        | none => if len < Dr16.kFrameLength then none else some (m.consumeBinary 1, [])

/-- Every pass that does not end the loop shortens the buffer, so its length
bounds the number of passes. -/
def tryDecodeBinaryFrames [FloatSource F] (m : RemoteInputModule F) :
    RemoteInputModule F × List (RemoteInputMessage F) :=
  Run.whileLoop tryDecodePass m.binaryBuf.len m

def appendBinary (m : RemoteInputModule F) (byte : UInt8) : RemoteInputModule F :=
  { m with binaryBuf := m.binaryBuf.push byte }

/-- One byte of a chunk: first the binary decoder, then the text path. -/
def receiveByte [FloatSource F] (m : RemoteInputModule F) (byte : UInt8) :
    RemoteInputModule F × List (InputPublication F) :=
  let (m, binary) := tryDecodeBinaryFrames (m.appendBinary byte)
  let (m, text) := m.receiveText byte
  (m, binary.map (⟨.binaryFrame, ·⟩) ++ text.map (⟨.textLine, ·⟩))

def receiveBytes [FloatSource F] (m : RemoteInputModule F) (bytes : List UInt8) :
    RemoteInputModule F × List (InputPublication F) :=
  Run.transduce receiveByte m bytes

/-- `DecodeUartFramesInQueue`, given the chunks it finds in its queue before it
finds the queue empty. -/
def decodeUartFramesInQueue [FloatSource F] (m : RemoteInputModule F)
    (frames : List UartRawFrameMessage) : RemoteInputModule F × List (InputPublication F) :=
  Run.transduce (fun m frame => m.receiveBytes frame.bytes) m frames

section Compose

variable [FloatModel F]

def kChassisSpeedScale : F := lit 20
def kVt03SpinScale : F := lit (1 / 2)

def composeChassisCommand (input : RemoteInputMessage F) : ChassisCommandMessage F :=
  if input.chassisEnable = 0 then
    { (0 : ChassisCommandMessage F) with source := .kInputSourceUnknown }
  else
    match input.source with
    | .kRemoteInputDr16 =>
        { (0 : ChassisCommandMessage F) with
          targetVx := input.axisLx * kChassisSpeedScale
          targetVy := -input.axisLy * kChassisSpeedScale
          targetWz := input.axisWheel * kChassisSpeedScale
          source := .kInputSourceDr16 }
    | .kRemoteInputVt03 =>
        { (0 : ChassisCommandMessage F) with
          targetVx := -input.axisJx * kChassisSpeedScale
          targetVy := input.axisJy * kChassisSpeedScale
          targetWz := input.axisJz * kChassisSpeedScale * kVt03SpinScale
          source := .kInputSourceVt03 }
    | .kRemoteInputUnknown =>
        { (0 : ChassisCommandMessage F) with source := .kInputSourceUnknown }

def composeArmCommand (input : RemoteInputMessage F) : ArmCommandMessage F :=
  if input.chassisEnable = 0 then { (0 : ArmCommandMessage F) with source := .kInputSourceUnknown }
  else
    match input.source with
    | .kRemoteInputDr16 =>
        { (0 : ArmCommandMessage F) with
          clawDelta := input.axisWheel * lit (3 / 1000)
          elbowYawDelta := input.axisLx * lit (3 / 1000)
          elbowPitchDelta := input.axisLy * lit (3 / 1000)
          wristTwistDelta := 0
          wristFlipDelta := 0
          source := .kInputSourceDr16
          enable := 1 }
    | .kRemoteInputVt03 =>
        { (0 : ArmCommandMessage F) with
          clawDelta := 0
          elbowYawDelta := input.axisJx * lit (3 / 1000)
          elbowPitchDelta := 0
          wristTwistDelta := input.axisJz * lit (3 / 1000)
          wristFlipDelta := input.axisJy * lit (3 / 1000)
          source := .kInputSourceVt03
          enable := 1 }
    | .kRemoteInputUnknown => { (0 : ArmCommandMessage F) with source := .kInputSourceUnknown }

def composeGimbalCommand (input : RemoteInputMessage F) : GimbalCommandMessage F :=
  if input.chassisEnable = 0 ∨ input.source ≠ .kRemoteInputVt03 then
    { (0 : GimbalCommandMessage F) with source := .kInputSourceUnknown }
  else
    { (0 : GimbalCommandMessage F) with
      yawDeltaDeg := input.axisJx * lit (12 / 10)
      pitchDeltaDeg := input.axisJy * lit (8 / 10)
      source := .kInputSourceVt03
      enable := 1 }

def composeGantryCommand (input : RemoteInputMessage F) : GantryCommandMessage F :=
  if input.chassisEnable = 0 then
    { (0 : GantryCommandMessage F) with source := .kInputSourceUnknown }
  else
    match input.source with
    | .kRemoteInputDr16 =>
        { (0 : GantryCommandMessage F) with
          xDelta := input.axisLx * lit (2 / 100)
          yDelta := input.axisLy * lit (2 / 100)
          zDelta := input.axisWheel * lit (1 / 100)
          source := .kInputSourceDr16
          enable := 1 }
    | .kRemoteInputVt03 =>
        { (0 : GantryCommandMessage F) with
          xDelta := input.axisJx * lit (2 / 100)
          yDelta := input.axisJy * lit (2 / 100)
          zDelta := input.axisJz * lit (1 / 100)
          source := .kInputSourceVt03
          enable := 1 }
    | .kRemoteInputUnknown => { (0 : GantryCommandMessage F) with source := .kInputSourceUnknown }

end Compose

/-- The four commands that one tick publishes. -/
structure Commands (F : Type) where
  chassis : ChassisCommandMessage F
  arm : ArmCommandMessage F
  gimbal : GimbalCommandMessage F
  gantry : GantryCommandMessage F

/-- The commands composed from `latest_input_`, or the default ones. -/
def composeCommands [FloatModel F] (m : RemoteInputModule F) : Commands F :=
  if m.latestInputValid then
    { chassis := composeChassisCommand m.latestInput
      arm := composeArmCommand m.latestInput
      gimbal := composeGimbalCommand m.latestInput
      gantry := composeGantryCommand m.latestInput }
  else
    { chassis := { (0 : ChassisCommandMessage F) with source := .kInputSourceUnknown }
      arm := { (0 : ArmCommandMessage F) with source := .kInputSourceUnknown }
      gimbal := { (0 : GimbalCommandMessage F) with source := .kInputSourceUnknown }
      gantry := { (0 : GantryCommandMessage F) with source := .kInputSourceUnknown } }

def Commands.withSequence (commands : Commands F) (sequence : UInt32) : Commands F where
  chassis := { commands.chassis with sequence := sequence }
  arm := { commands.arm with sequence := sequence }
  gimbal := { commands.gimbal with sequence := sequence }
  gantry := { commands.gantry with sequence := sequence }

/-- One iteration of `RunLoop`, given the chunks it dequeues: the inputs it
publishes and the four commands. -/
def runLoopTick [FloatSource F] (m : RemoteInputModule F) (frames : List UartRawFrameMessage) :
    RemoteInputModule F × List (InputPublication F) × Commands F :=
  let (m, published) := m.decodeUartFramesInQueue frames
  let sequence := m.publishSequence + 1
  ({ m with publishSequence := sequence }, published, m.composeCommands.withSequence sequence)

end RemoteInputModule

end RmTest.Modules

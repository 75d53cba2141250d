import RmTest.Library.CheckedArray
import RmTest.Modules.RemoteInput

/-! The remote input module on its two plain arrays. Every access is checked: outside of
the array, and for a read of `binary_buf_` outside of what is in use of it, there is no
result. -/
namespace RmTest.Modules

open Channels Protocols FloatModel CheckedArray

variable {F : Type}

structure RemoteInputMemory (F : Type) where
  publishSequence : UInt32
  latestInput : RemoteInputMessage F
  latestInputValid : Bool
  lineBuf : Vector UInt8 96
  linePos : Nat
  binaryBuf : Vector UInt8 256
  binaryLen : Nat

namespace RemoteInputMemory

open RemoteInputModule

def kBinaryBufSize : Nat := 256

def initialized [FloatModel F] (m : RemoteInputMemory F) : Option (RemoteInputMemory F) := do
  let buf ← store m.lineBuf 0 0
  return { m with
    publishSequence := 0
    latestInput := 0
    latestInputValid := false
    linePos := 0
    lineBuf := buf
    binaryLen := 0 }

def zeroed (F : Type) [FloatModel F] : RemoteInputMemory F where
  publishSequence := 0
  latestInput := 0
  latestInputValid := false
  lineBuf := Vector.replicate _ 0
  linePos := 0
  binaryBuf := Vector.replicate _ 0
  binaryLen := 0

/-- The bytes from `binary_buf_` on that a decoder may read. -/
def used (m : RemoteInputMemory F) : List UInt8 := m.binaryBuf.toList.take m.binaryLen

def decodeRemoteFrame [FloatModel F] (data : List UInt8) (len : Nat) :
    Option (Option (Vt03.Vt03Frame F)) :=
  if len < Vt03.kRemoteFrameLength then some none
  else do
    let first ← load data 0
    let second ← load data 1
    if first ≠ 0xa9 ∨ second ≠ 0x53 then return none
    else
      let data2 ← load data 2
      let data3 ← load data 3
      let data4 ← load data 4
      let data5 ← load data 5
      let data6 ← load data 6
      let data7 ← load data 7
      let data8 ← load data 8
      let data9 ← load data 9
      let ch0 := (data2.toNat ||| data3.toNat <<< 8) &&& 0x7ff
      let ch1 := (data3.toNat >>> 3 ||| data4.toNat <<< 5) &&& 0x7ff
      let ch2 := (data4.toNat >>> 6 ||| data5.toNat <<< 2 ||| data6.toNat <<< 10) &&& 0x7ff
      let ch3 := (data6.toNat >>> 1 ||| data7.toNat <<< 7) &&& 0x7ff
      let modeSwitch := (data7 >>> 4) &&& 0x03
      let wheelRaw := (data8.toNat >>> 1 ||| data9.toNat <<< 7) &&& 0x7ff
      return some
        { rightX := Vt03.decodeAxis ch0
          rightY := Vt03.decodeAxis ch1
          leftX := Vt03.decodeAxis ch2
          leftY := Vt03.decodeAxis ch3
          wheel := Vt03.decodeAxis wheelRaw
          modeSwitch := modeSwitch
          chassisEnable := modeSwitch != 1 }

def decodeCustomFrame [FloatSource F] (data : List UInt8) (len : Nat) :
    Option (Option (Vt03.Vt03CustomFrame F)) :=
  if len < Vt03.kCustomFrameLength then some none
  else do
    let first ← load data 0
    if first ≠ 0xa5 then return none
    else
      let data5 ← load data 5
      let data6 ← load data 6
      if data5.toNat ||| data6.toNat <<< 8 ≠ Vt03.kCustomControllerDataId then return none
      else
        let joystickX ← readFloat data 24
        let joystickY ← readFloat data 28
        let joystickZ ← readFloat data 32
        return some { joystickX, joystickY, joystickZ, chassisEnable := true }

def decodeDr16Frame [FloatModel F] (data : List UInt8) (len : Nat) :
    Option (Option (Dr16.Dr16Frame F)) :=
  if len < Dr16.kFrameLength then some none
  else do
    let data0 ← load data 0
    let data1 ← load data 1
    let data2 ← load data 2
    let data3 ← load data 3
    let data4 ← load data 4
    let data5 ← load data 5
    let data16 ← load data 16
    let data17 ← load data 17
    let ch0 : Int := ((data0.toNat ||| data1.toNat <<< 8) &&& 0x7ff : Nat) - 1024
    let ch1 : Int := ((data1.toNat >>> 3 ||| data2.toNat <<< 5) &&& 0x7ff : Nat) - 1024
    let ch2 : Int :=
      ((data2.toNat >>> 6 ||| data3.toNat <<< 2 ||| data4.toNat <<< 10) &&& 0x7ff : Nat) - 1024
    let ch3 : Int := ((data4.toNat >>> 1 ||| data5.toNat <<< 7) &&& 0x7ff : Nat) - 1024
    let sw1 := ((data5 >>> 4) &&& 0x0c) >>> 2
    let sw2 := (data5 >>> 4) &&& 0x03
    let wheelRaw : UInt32 := UInt32.ofNat ((data16.toNat ||| data17.toNat <<< 8) &&& 0x7ff) - 1024
    let wheel : Int := -wheelRaw.toUInt16.toInt16.toInt
    if Dr16.absI16 ch0 > 660 ∨ Dr16.absI16 ch1 > 660 ∨ Dr16.absI16 ch2 > 660 ∨
        Dr16.absI16 ch3 > 660 ∨ Dr16.absI16 wheel > 660 then return none
    else if ¬(sw1 = 1 ∨ sw1 = 2 ∨ sw1 = 3) then return none
    else if ¬(sw2 = 1 ∨ sw2 = 2 ∨ sw2 = 3) then return none
    else
      return some
        { rightStickX := Dr16.normalize ch0
          rightStickY := Dr16.normalize ch1
          leftStickX := Dr16.normalize ch2
          leftStickY := Dr16.normalize ch3
          wheel := Dr16.normalize wheel
          leftSwitch := sw1
          rightSwitch := sw2
          chassisEnable := sw2 == 1 }

def consumeBinary (m : RemoteInputMemory F) (bytes : Nat) : Option (RemoteInputMemory F) :=
  if bytes = 0 ∨ m.binaryLen = 0 then some m
  else if bytes ≥ m.binaryLen then some { m with binaryLen := 0 }
  else do
    let buf ← memmove m.binaryBuf bytes (m.binaryLen - bytes)
    return { m with binaryBuf := buf, binaryLen := m.binaryLen - bytes }

/-- The common end of the accepting branches. -/
def acceptBinary (m : RemoteInputMemory F) (input : RemoteInputMessage F) (length : Nat) :
    Option (RemoteInputMemory F × List (RemoteInputMessage F)) := do
  let sequence := m.publishSequence + 1
  let input := { input with sequence := sequence }
  let next ← consumeBinary
    { m with publishSequence := sequence, latestInput := input, latestInputValid := true } length
  return (next, [input])

/-- The condition of the first branch. Both reads are checked, though the second one may
be skipped. -/
def beginsRemoteFrame (data : List UInt8) (len : Nat) : Option Bool :=
  if Vt03.kRemoteFrameLength ≤ len then do
    let first ← load data 0
    let second ← load data 1
    return first == 0xa9 && second == 0x53
  else some false

def beginsCustomFrame (data : List UInt8) (len : Nat) : Option Bool :=
  if Vt03.kCustomFrameLength ≤ len then do
    let first ← load data 0
    return first == 0xa5
  else some false

/-- The frame of the second branch, with `some none` where it is not taken or rejects. -/
def tryCustomFrame [FloatSource F] (data : List UInt8) (len : Nat) :
    Option (Option (Vt03.Vt03CustomFrame F)) := do
  let begins ← beginsCustomFrame data len
  if begins then decodeCustomFrame data len else return none

def tryDr16Frame [FloatModel F] (data : List UInt8) (len : Nat) :
    Option (Option (Dr16.Dr16Frame F)) :=
  if Dr16.kFrameLength ≤ len then decodeDr16Frame data len else some none

/-- One pass of the loop of `TryDecodeBinaryFrames`, with `some none` where the loop ends. -/
def tryDecodePass [FloatSource F] (m : RemoteInputMemory F) :
    Option (Option (RemoteInputMemory F × List (RemoteInputMessage F))) :=
  let data := m.used
  let len := m.binaryLen
  if len = 0 then some none
  else do
    let begins ← beginsRemoteFrame data len
    if begins then
      match ← decodeRemoteFrame data len with
      | some frame => (m.acceptBinary (vt03Input frame) Vt03.kRemoteFrameLength).map some
      | none => (m.consumeBinary 1).map fun next => some (next, [])
    else
      match ← tryCustomFrame data len with
      | some frame => (m.acceptBinary (customInput frame) Vt03.kCustomFrameLength).map some
      | none =>
          match ← tryDr16Frame data len with
          | some frame => (m.acceptBinary (dr16Input frame) Dr16.kFrameLength).map some
          | none =>
              if len < Dr16.kFrameLength then some none
              else (m.consumeBinary 1).map fun next => some (next, [])

/-- The length bounds the number of passes, if each of them shortens what is in use. -/
def tryDecodeBinaryFrames [FloatSource F] (m : RemoteInputMemory F) :
    Option (RemoteInputMemory F × List (RemoteInputMessage F)) :=
  Run.tryLoop tryDecodePass m.binaryLen m

/-- `ParseLine`, which reads the string it is given and no array. -/
def parseLine [FloatSource F] (m : RemoteInputMemory F) (line : List UInt8) :
    Option (RemoteInputMemory F × RemoteInputMessage F) :=
  let caller := { RemoteInputModule.zeroed F with publishSequence := m.publishSequence }
  (caller.parseLine line).map fun parsed =>
    ({ m with publishSequence := parsed.1.publishSequence }, parsed.2)

def resetLine (m : RemoteInputMemory F) : Option (RemoteInputMemory F) := do
  let buf ← store m.lineBuf 0 0
  return { m with linePos := 0, lineBuf := buf }

def endLine [FloatSource F] (m : RemoteInputMemory F) :
    Option (RemoteInputMemory F × List (RemoteInputMessage F)) := do
  let buf ← store m.lineBuf m.linePos 0
  let m := { m with lineBuf := buf }
  if 0 < m.linePos then
    let line ← string m.lineBuf.toList
    match m.parseLine line with
    | some (m, input) =>
        (resetLine { m with latestInput := input, latestInputValid := true }).map (·, [input])
    | none => m.resetLine.map (·, [])
  else m.resetLine.map (·, [])

def receiveText [FloatSource F] (m : RemoteInputMemory F) (byte : UInt8) :
    Option (RemoteInputMemory F × List (RemoteInputMessage F)) :=
  if byte = 0x0d then some (m, [])
  else if byte = 0x0a then m.endLine
  else if isPrint byte = false then some (m, [])
  else if m.linePos < kLineBufSize - 1 then
    (store m.lineBuf m.linePos byte).map fun buf =>
      ({ m with lineBuf := buf, linePos := m.linePos + 1 }, [])
  else m.resetLine.map (·, [])

def appendBinary (m : RemoteInputMemory F) (byte : UInt8) : Option (RemoteInputMemory F) :=
  if m.binaryLen < kBinaryBufSize then do
    let buf ← store m.binaryBuf m.binaryLen byte
    return { m with binaryBuf := buf, binaryLen := m.binaryLen + 1 }
  else do
    let moved ← memmove m.binaryBuf 1 (kBinaryBufSize - 1)
    let buf ← store moved (kBinaryBufSize - 1) byte
    return { m with binaryBuf := buf }

def receiveByte [FloatSource F] (m : RemoteInputMemory F) (byte : UInt8) :
    Option (RemoteInputMemory F × List (InputPublication F)) := do
  let appended ← m.appendBinary byte
  let (m, binary) ← appended.tryDecodeBinaryFrames
  let (m, text) ← m.receiveText byte
  return (m, binary.map (⟨.binaryFrame, ·⟩) ++ text.map (⟨.textLine, ·⟩))

def receiveBytes [FloatSource F] (m : RemoteInputMemory F) (bytes : List UInt8) :
    Option (RemoteInputMemory F × List (InputPublication F)) :=
  Run.tryTransduce receiveByte m bytes

def decodeUartFramesInQueue [FloatSource F] (m : RemoteInputMemory F)
    (frames : List UartRawFrameMessage) :
    Option (RemoteInputMemory F × List (InputPublication F)) :=
  Run.tryTransduce (fun m frame => m.receiveBytes frame.bytes) m frames

/-- One iteration of `RunLoop`. The commands that it composes come from the latest input,
not from the arrays. -/
def runLoopTick [FloatSource F] (m : RemoteInputMemory F) (frames : List UartRawFrameMessage) :
    Option (RemoteInputMemory F × List (InputPublication F)) := do
  let (m, published) ← m.decodeUartFramesInQueue frames
  return ({ m with publishSequence := m.publishSequence + 1 }, published)

end RemoteInputMemory

end RmTest.Modules

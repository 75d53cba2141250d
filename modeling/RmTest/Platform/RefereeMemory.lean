import RmTest.Library.CheckedArray
import RmTest.Platform.RefereeClient

/-! The referee client on its plain array. Every access is checked: outside of the array,
and outside of what a frame or its payload takes up of it, there is no result. -/
namespace RmTest.Platform

open Channels Protocols RefereeClient CheckedArray

structure RefereeMemory (F : Type) where
  streamBuf : Vector UInt8 160
  streamLen : Nat
  state : RefereeStateMessage F
  isInitialized : Bool

namespace RefereeMemory

variable {F : Type}

def readLe16 (cells : List UInt8) (i : Nat) : Option UInt16 := do
  let low ← load cells i
  let high ← load cells (i + 1)
  return low.toUInt16 ||| high.toUInt16 <<< 8

def consumeBytes (m : RefereeMemory F) (n : Nat) : Option (RefereeMemory F) :=
  if n ≥ m.streamLen then some { m with streamLen := 0 }
  else do
    let buf ← memmove m.streamBuf n (m.streamLen - n)
    return { m with streamBuf := buf, streamLen := m.streamLen - n }

def parseRobotStatus (state : RefereeStateMessage F) (data : List UInt8) (len : Nat) :
    Option (RefereeStateMessage F) :=
  if len < 13 then some state
  else do
    let currentHp ← readLe16 data 2
    let maxHp ← readLe16 data 4
    let chassisPowerLimit ← readLe16 data 10
    let power ← load data 12
    return { state with
      currentHp := currentHp
      maxHp := maxHp
      chassisPowerLimit := chassisPowerLimit
      gimbalPowerOn := if power &&& 0x01 ≠ 0 then 1 else 0 }

def parseShootData [FloatSource F] (state : RefereeStateMessage F) (data : List UInt8) (len : Nat) :
    Option (RefereeStateMessage F) :=
  if len < 7 then some state
  else do
    let speed ← readFloat data 3
    let bulletType ← load data 0
    let launchingFrequency ← load data 2
    return { state with
      bulletType := bulletType
      launchingFrequency := launchingFrequency
      initialSpeed := speed }

def parseGameStatus (state : RefereeStateMessage F) (data : List UInt8) (len : Nat) :
    Option (RefereeStateMessage F) :=
  if len < 3 then some state
  else do
    let game ← load data 0
    let stageRemainTime ← readLe16 data 1
    return { state with
      gameType := game &&& 0x0f
      gameProgress := (game >>> 4) &&& 0x0f
      stageRemainTime := stageRemainTime }

/-- The frame is what `frameLen` takes up of the array, and the payload what the frame
announces, behind its header. -/
def parseOneFrame [FloatSource F] (state : RefereeStateMessage F) (cells : List UInt8)
    (frameLen : Nat) : Option (RefereeStateMessage F) :=
  if frameLen < kFrameOverhead then some state
  else do
    let frame := cells.take frameLen
    let dataLen ← readLe16 frame 1
    let cmd ← readLe16 frame 5
    let payload := (frame.drop 7).take dataLen.toNat
    if cmd = kCmdRobotStatus then parseRobotStatus state payload dataLen.toNat
    else if cmd = kCmdShootData then parseShootData state payload dataLen.toNat
    else if cmd = kCmdGameStatus then parseGameStatus state payload dataLen.toNat
    else return state

/-- One pass of the loop of `TryParseStream`, with the frame it hands to `ParseOneFrame`, if
any; `some none` where the loop ends. -/
def tryParsePass [FloatSource F] (m : RefereeMemory F) :
    Option (Option (RefereeMemory F × List (List UInt8))) :=
  if kFrameOverhead ≤ m.streamLen then do
    let cells := m.streamBuf.toList
    let first ← load cells 0
    if first ≠ kSof then
      let next ← m.consumeBytes 1
      return some (next, [])
    else
      let dataLen ← readLe16 cells 1
      let fullLen := kFrameOverhead + dataLen.toNat
      if fullLen > kMaxFrameSize then
        let next ← m.consumeBytes 1
        return some (next, [])
      else if m.streamLen < fullLen then return none
      else
        let state ← parseOneFrame m.state cells fullLen
        let next ← consumeBytes { m with state := state } fullLen
        return some (next, [cells.take fullLen])
  else some none

def tryParseStream [FloatSource F] (m : RefereeMemory F) : Option (RefereeMemory F) :=
  (Run.tryLoop tryParsePass m.streamLen m).map Prod.fst

/-- The loop body of `FeedBytes`. -/
def append (m : RefereeMemory F) (value : UInt8) : Option (RefereeMemory F) :=
  if m.streamLen < kMaxFrameSize then do
    let buf ← store m.streamBuf m.streamLen value
    return { m with streamBuf := buf, streamLen := m.streamLen + 1 }
  else do
    let moved ← memmove m.streamBuf 1 (kMaxFrameSize - 1)
    let buf ← store moved (kMaxFrameSize - 1) value
    return { m with streamBuf := buf }

def initialized [FloatSource F] (m : RefereeMemory F) : RefereeMemory F :=
  if m.isInitialized then m else { m with state := 0, streamLen := 0, isInitialized := true }

def feedBytes [FloatSource F] (m : RefereeMemory F) (data : List UInt8) :
    Option (RefereeMemory F × Except Errno Unit) :=
  if data.length = 0 then some (m, .error .einval)
  else do
    let filled ← data.foldlM append m.initialized
    let parsed ← filled.tryParseStream
    return (parsed, .ok ())

/-- The variables before any call. -/
def zeroed (F : Type) [FloatSource F] : RefereeMemory F where
  streamBuf := Vector.replicate _ 0
  streamLen := 0
  state := 0
  isInitialized := false

end RefereeMemory

end RmTest.Platform

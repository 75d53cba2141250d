import RmTest.Channels.Messages
import RmTest.Library.Bytes
import RmTest.Library.FloatModel
import RmTest.Library.Run
import RmTest.Library.SlidingBuffer
import RmTest.Protocols.RemoteInput

/-! The referee client: a 160-byte stream buffer, the parser that takes frames
from it, and the referee state that the frames update. The mutex around the
state is left out, since one thread feeds bytes and reads the state. -/
namespace RmTest.Platform

open Channels Protocols

variable {F : Type}

structure RefereeClient (F : Type) where
  streamBuf : SlidingBuffer UInt8 160
  state : RefereeStateMessage F
  isInitialized : Bool

namespace RefereeClient

def kSof : UInt8 := 0xa5
def kMaxFrameSize : Nat := 160
def kCmdGameStatus : UInt16 := 0x0001
def kCmdRobotStatus : UInt16 := 0x0201
def kCmdShootData : UInt16 := 0x0207

/-- The header and trailer of a frame, without its data. -/
def kFrameOverhead : Nat := 9

def readLe16 (p : List UInt8) : UInt16 :=
  (p.getD 0 0).toUInt16 ||| (p.getD 1 0).toUInt16 <<< 8

theorem readLe16_bytes (x : UInt16) (rest : List UInt8) :
    readLe16 (x.toUInt8 :: (x >>> 8).toUInt8 :: rest) = x := by
  simp only [readLe16, List.getD_cons_zero, List.getD_cons_succ]
  exact Bytes.low_or_high x

def parseRobotStatus (state : RefereeStateMessage F) (data : List UInt8) (len : Nat) :
    RefereeStateMessage F :=
  if len < 13 then state
  else
    { state with
      currentHp := readLe16 (data.drop 2)
      maxHp := readLe16 (data.drop 4)
      chassisPowerLimit := readLe16 (data.drop 10)
      gimbalPowerOn := if data.getD 12 0 &&& 0x01 ≠ 0 then 1 else 0 }

def parseShootData [FloatSource F] (state : RefereeStateMessage F) (data : List UInt8) (len : Nat) :
    RefereeStateMessage F :=
  if len < 7 then state
  else
    { state with
      bulletType := data.getD 0 0
      launchingFrequency := data.getD 2 0
      initialSpeed := copyFloat (data.drop 3) }

def parseGameStatus (state : RefereeStateMessage F) (data : List UInt8) (len : Nat) :
    RefereeStateMessage F :=
  if len < 3 then state
  else
    { state with
      gameType := data.getD 0 0 &&& 0x0f
      gameProgress := (data.getD 0 0 >>> 4) &&& 0x0f
      stageRemainTime := readLe16 (data.drop 1) }

def parseOneFrame [FloatSource F] (state : RefereeStateMessage F) (frame : List UInt8) :
    RefereeStateMessage F :=
  if frame.length < kFrameOverhead then state
  else
    let dataLen := (readLe16 (frame.drop 1)).toNat
    let cmd := readLe16 (frame.drop 5)
    let payload := frame.drop 7
    if cmd = kCmdRobotStatus then parseRobotStatus state payload dataLen
    else if cmd = kCmdShootData then parseShootData state payload dataLen
    else if cmd = kCmdGameStatus then parseGameStatus state payload dataLen
    else state

def consumeBytes (c : RefereeClient F) (n : Nat) : RefereeClient F :=
  { c with streamBuf := c.streamBuf.consume n }

/-- One pass of the loop of `TryParseStream`, with the frame it hands to
`ParseOneFrame`, if any; `none` where the loop ends. -/
def tryParsePass [FloatSource F] (c : RefereeClient F) :
    Option (RefereeClient F × List (List UInt8)) :=
  let buf := c.streamBuf.toList
  if kFrameOverhead ≤ c.streamBuf.len then
    if buf.getD 0 0 ≠ kSof then some (c.consumeBytes 1, [])
    else
      let fullLen := kFrameOverhead + (readLe16 (buf.drop 1)).toNat
      if fullLen > kMaxFrameSize then some (c.consumeBytes 1, [])
      else if c.streamBuf.len < fullLen then none
      else
        let frame := buf.take fullLen
        some (consumeBytes { c with state := parseOneFrame c.state frame } fullLen, [frame])
  else none

def tryParseStream [FloatSource F] (c : RefereeClient F) : RefereeClient F :=
  (Run.whileLoop tryParsePass c.streamBuf.len c).1

def initialized [FloatSource F] (c : RefereeClient F) : RefereeClient F :=
  if c.isInitialized then c
  else { streamBuf := c.streamBuf.clear, state := 0, isInitialized := true }

/-- The client's variables before any call. -/
def zeroed (F : Type) [FloatSource F] : RefereeClient F where
  streamBuf := { data := Vector.replicate _ 0, len := 0, len_le := Nat.zero_le _ }
  state := 0
  isInitialized := false

/-- The client after the first call of `Initialize`. -/
def booted (F : Type) [FloatSource F] : RefereeClient F := (zeroed F).initialized

/-- `FeedBytes`: the whole chunk is appended before anything is parsed. -/
def feedBytes [FloatSource F] (c : RefereeClient F) (data : List UInt8) :
    RefereeClient F × Except Errno Unit :=
  if data.length = 0 then (c, .error .einval)
  else
    let c := c.initialized
    (tryParseStream { c with streamBuf := data.foldl SlidingBuffer.push c.streamBuf }, .ok ())

def getLatestState [FloatSource F] (c : RefereeClient F) :
    RefereeClient F × RefereeStateMessage F :=
  (c.initialized, c.initialized.state)

/-- `RefereeModule::DecodeUartFramesInQueue`, given the chunks it dequeues. -/
def decodeUartFramesInQueue [FloatSource F] (c : RefereeClient F)
    (frames : List UartRawFrameMessage) : RefereeClient F :=
  frames.foldl (fun c frame => (c.feedBytes frame.bytes).1) c

end RefereeClient

end RmTest.Platform

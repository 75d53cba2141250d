import RmTest.Channels.Messages
import RmTest.Library.FloatModel

/-! The serial servo driver: what it puts on the line, and how it waits for a packet on
it. Memory behind a pointer without a length is a function of the offset. -/
namespace RmTest.Platform

open Channels

def kFrameHead : UInt8 := 0x55

/-- A turn of a waiting loop: the uptime it reads, and what `uart_poll_in` has if it is
asked. -/
structure Poll where
  uptimeMs : Int
  rx : Option UInt8

/-- What the output pointers of `ReceivePacket` point to. -/
structure ServoReply where
  id : UInt8
  cmd : UInt8
  payload : Nat → UInt8
  payloadLen : UInt8

/-- `uartDev` is whether `g_uart_dev` is not null. -/
structure SerialServo where
  uartDev : Bool
  initialized : Bool

namespace SerialServo

def initial : SerialServo where
  uartDev := false
  initialized := false

/-- `Initialize`, with what the device tree chooses and whether that is ready. -/
def initializeDriver (hasChosen deviceReady : Bool) (s : SerialServo) :
    SerialServo × Except Errno Unit :=
  if s.initialized then (s, .ok ())
  else if !hasChosen then (s, .error .enodev)
  else if !deviceReady then ({ s with uartDev := true }, .error .enodev)
  else ({ uartDev := true, initialized := true }, .ok ())

/-- The loop over the parameters in `SendPacket`. -/
def putParams : List UInt8 → Nat → List UInt8 → UInt16 → List UInt8 × UInt16
  | [], _, frame, sum => (frame, sum)
  | param :: params, i, frame, sum =>
      putParams params (i + 1) (frame.set (5 + i) param) (sum + param.toUInt16)

def checksumByte (sum : UInt16) : UInt8 := (~~~(sum &&& 0xff)).toUInt8

/-- `SendPacket`, with the bytes it puts on the line. -/
def sendPacket (s : SerialServo) (id cmd : UInt8) (params : List UInt8) :
    List UInt8 × Except Errno Unit :=
  if !s.initialized || !s.uartDev then ([], .error .enodev)
  else
    let length := UInt8.ofNat (params.length + 3)
    let frame := List.replicate 16 0
    let frame := frame.set 0 kFrameHead
    let frame := frame.set 1 kFrameHead
    let frame := frame.set 2 id
    let frame := frame.set 3 length
    let frame := frame.set 4 cmd
    let (frame, sum) :=
      putParams params 0 frame (id.toUInt16 + length.toUInt16 + cmd.toUInt16)
    let frame := frame.set (5 + params.length) (checksumByte sum)
    (frame.take (6 + params.length), .ok ())

/-- The loop of `PollOneByte`, which leaves when there is a byte or the time is over. -/
def waitByte (deadlineMs : Int) : List Poll → Except Errno (UInt8 × List Poll)
  | [] => .error .etimedout
  | poll :: polls =>
      if poll.uptimeMs < deadlineMs then
        match poll.rx with
        | some b => .ok (b, polls)
        | none => waitByte deadlineMs polls
      else .error .etimedout

def pollOneByte (s : SerialServo) (deadlineMs : Int) (polls : List Poll) :
    Except Errno (UInt8 × List Poll) :=
  if !s.uartDev then .error .einval else waitByte deadlineMs polls

/-- The loop of `ReceivePacket` that ends behind two header bytes. Each pass has a poll or
more, so that their number is budget enough. -/
def findHead (s : SerialServo) (deadlineMs : Int) : Nat → List Poll → Except Errno (List Poll)
  | 0, _ => .error .etimedout
  | budget + 1, polls => do
      let (b, polls) ← s.pollOneByte deadlineMs polls
      if b ≠ kFrameHead then s.findHead deadlineMs budget polls
      else
        let (b, polls) ← s.pollOneByte deadlineMs polls
        if b ≠ kFrameHead then s.findHead deadlineMs budget polls else return polls

/-- The loop over the parameters in `ReceivePacket`, from parameter `i` on. -/
def takeParams (s : SerialServo) (deadlineMs : Int) : Nat → Nat → (Nat → UInt8) → UInt16 →
    List Poll → (Nat → UInt8) × Except Errno (UInt16 × List Poll)
  | 0, _, payload, sum, polls => (payload, .ok (sum, polls))
  | remaining + 1, i, payload, sum, polls =>
      match s.pollOneByte deadlineMs polls with
      | .error _ => (payload, .error .etimedout)
      | .ok (b, polls) =>
          s.takeParams deadlineMs remaining (i + 1) (fun j => if j = i then b else payload j)
            (sum + b.toUInt16) polls

/-- The three bytes behind the header: id, length and command. -/
def takeFields (s : SerialServo) (deadlineMs : Int) (polls : List Poll) :
    Except Errno (UInt8 × UInt8 × UInt8 × List Poll) := do
  let (id, polls) ← s.pollOneByte deadlineMs polls
  let (length, polls) ← s.pollOneByte deadlineMs polls
  let (cmd, polls) ← s.pollOneByte deadlineMs polls
  return (id, length, cmd, polls)

/-- What follows the header in `ReceivePacket`. -/
def receiveBody (s : SerialServo) (deadlineMs : Int) (polls : List Poll) (reply : ServoReply) :
    ServoReply × Except Errno Unit :=
  match s.takeFields deadlineMs polls with
  | .error _ => (reply, .error .etimedout)
  | .ok (id, length, cmd, polls) =>
      if length < 3 then (reply, .error .eio)
      else
        let paramsLen := length - 3
        if paramsLen > 16 then (reply, .error .eoverflow)
        else
          match s.takeParams deadlineMs paramsLen.toNat 0 reply.payload
            (id.toUInt16 + length.toUInt16 + cmd.toUInt16) polls with
          | (payload, .error _) => ({ reply with payload := payload }, .error .etimedout)
          | (payload, .ok (sum, polls)) =>
              match s.pollOneByte deadlineMs polls with
              | .error _ => ({ reply with payload := payload }, .error .etimedout)
              | .ok (checksum, _) =>
                  if checksum ≠ checksumByte sum then
                    ({ reply with payload := payload }, .error .eio)
                  else
                    ({ id := id, cmd := cmd, payload := payload, payloadLen := paramsLen }, .ok ())

/-- `ReceivePacket`, called at `nowMs`; `none` is where one of its pointers is null. -/
def receivePacket (s : SerialServo) (nowMs : Int) (timeoutMs : UInt32) (polls : List Poll) :
    Option ServoReply → Option ServoReply × Except Errno Unit
  | none => (none, .error .einval)
  | some reply =>
      let deadlineMs := nowMs + timeoutMs.toNat
      match s.findHead deadlineMs (polls.length + 1) polls with
      | .error _ => (some reply, .error .etimedout)
      | .ok polls =>
          let (reply, rc) := s.receiveBody deadlineMs polls reply
          (some reply, rc)

/-- `ReadId`, with the bytes it puts on the line. -/
def readId (s : SerialServo) (queryId : UInt8) (outId : Option UInt8) (nowMs : Int)
    (timeoutMs : UInt32) (polls : List Poll) : List UInt8 × Option UInt8 × Except Errno Unit :=
  match outId with
  | none => ([], outId, .error .einval)
  | some _ =>
      match s.sendPacket queryId 14 [] with
      | (sent, .error rc) => (sent, outId, .error rc)
      | (sent, .ok ()) =>
          match s.receivePacket nowMs timeoutMs polls (some ⟨0, 0, fun _ => 0, 0⟩) with
          | (_, .error rc) => (sent, outId, .error rc)
          | (none, .ok ()) => (sent, outId, .ok ())
          | (some reply, .ok ()) =>
              if reply.cmd ≠ 14 ∨ reply.payloadLen < 1 then (sent, outId, .error .eio)
              else (sent, some (reply.payload 0), .ok ())

def lowByte (word : UInt16) : UInt8 := (word &&& 0xff).toUInt8

def highByte (word : UInt16) : UInt8 := (word >>> 8 &&& 0xff).toUInt8

section Angles

open FloatModel

variable {F : Type} [FloatModel F]

/-- `AngleToRaw`: 1000 steps over 240 degrees. -/
def angleToRaw (degrees : F) : UInt16 :=
  let clamped := if lt degrees 0 then 0 else degrees
  let clamped := if lt (lit 240) clamped then lit 240 else clamped
  UInt16.ofInt (trunc (clamped * (lit 1000 / lit 240) + lit (1 / 2)))

/-- `MoveToAngle`, with the bytes it puts on the line. -/
def moveToAngle (s : SerialServo) (id : UInt8) (degrees : F) (timeMs : UInt16) :
    List UInt8 × Except Errno Unit :=
  let raw := angleToRaw degrees
  s.sendPacket id 1 [lowByte raw, highByte raw, lowByte timeMs, highByte timeMs]

end Angles

/-- `Stop`, with the bytes it puts on the line. -/
def stop (s : SerialServo) (id : UInt8) : List UInt8 × Except Errno Unit := s.sendPacket id 12 []

end SerialServo

end RmTest.Platform

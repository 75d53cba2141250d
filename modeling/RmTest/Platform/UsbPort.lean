import Mathlib.Logic.Function.Basic
import RmTest.Library.BoundedQueue
import RmTest.Platform.UsbSession

/-! The USB session as a whole: next to the sending half, the two buffers into which the
controller reads, and the queue of what it has read. -/
namespace RmTest.Platform

open Channels

def kRxQueueDepth : Nat := 16

/-- `len` and the bytes that it counts. -/
structure UsbRxChunk where
  data : List UInt8
  length_le : data.length ≤ kCdcBufferSize

/-- A packet on the OUT endpoint, which takes at most 64 or 512 bytes in one. -/
structure OutPacket where
  data : List UInt8
  length_le : data.length ≤ kCdcBufferSize

structure UsbPort where
  session : UsbSession
  readBuffer : Fin 2 → List UInt8
  readIndex : Fin 2
  /-- The buffer of the read that the controller has started and not completed. -/
  reading : Option (Fin 2)
  rxQueue : BoundedQueue UsbRxChunk kRxQueueDepth

/-- What `Receive` returns, and what it writes to its arguments. -/
structure UsbReceived where
  out : List UInt8
  outLen : Option Nat
  result : Except Errno Unit

namespace UsbPort

def initial : UsbPort where
  session := .initial
  readBuffer _ := List.replicate kCdcBufferSize 0
  readIndex := ⟨0, Nat.two_pos⟩
  reading := none
  rxQueue := .empty

/-- `usbd_ep_start_read` into the buffer at `g_read_index`, with what it returns. -/
def startRead (p : UsbPort) : Except Errno Unit → UsbPort
  | .error _ => p
  | .ok () => { p with reading := some p.readIndex }

/-- A configuration opens the endpoint anew, and like a reset or a disconnection ends a
read that was started before. -/
def usbEventHandler (p : UsbPort) (event : UsbdEvent) (readRc : Except Errno Unit) : UsbPort :=
  let p := { p with session := p.session.usbEventHandler event }
  match event with
  | .configured => { p with readIndex := ⟨0, Nat.two_pos⟩, reading := none }.startRead readRc
  | .reset => { p with reading := none }
  | .disconnected => { p with reading := none }
  | .other => p

/-- The chunk that `UsbBulkOutCallback` makes of a read of `nbytes`. -/
def readChunk (p : UsbPort) (nbytes : Nat) : UsbRxChunk where
  data := (p.readBuffer p.readIndex).take (min nbytes kCdcBufferSize)
  length_le := Nat.le_trans (List.length_take_le ..) (Nat.min_le_right ..)

/-- `readRc` is what `usbd_ep_start_read` returns. -/
def usbBulkOutCallback (p : UsbPort) (nbytes : Nat) (readRc : Except Errno Unit) : UsbPort :=
  let p :=
    if min nbytes kCdcBufferSize > 0 then { p with rxQueue := p.rxQueue.put (p.readChunk nbytes) }
    else p
  { p with
    readIndex := if p.readIndex.val = 0 then ⟨1, Nat.one_lt_two⟩ else ⟨0, Nat.two_pos⟩ }.startRead
      readRc

/-- The controller has read a packet into a buffer. -/
def fillReadBuffer (p : UsbPort) (buffer : Fin 2) (packet : OutPacket) : UsbPort :=
  { p with
    readBuffer := Function.update p.readBuffer buffer
      (packet.data ++ (p.readBuffer buffer).drop packet.data.length)
    reading := none }

/-- `Receive`, when it returns. `out` and `outLen` say which pointers are not null, and
`emptyRc` is what `k_msgq_get` returns if it finds no message in the time it has. -/
def receive (p : UsbPort) (out outLen : Bool) (capacity : Nat) (emptyRc : Errno) :
    UsbPort × UsbReceived :=
  if out = false ∨ outLen = false ∨ capacity = 0 then (p, ⟨[], none, .error .einval⟩)
  else
    match p.rxQueue.get? with
    | none => (p, ⟨[], some 0, .error emptyRc⟩)
    | some (chunk, rxQueue) =>
        let copyLen := min capacity chunk.data.length
        ({ p with rxQueue := rxQueue },
          ⟨chunk.data.take copyLen, some copyLen,
            if copyLen = chunk.data.length then .ok () else .error .emsgsize⟩)

end UsbPort

/-- A call or a completion on the sending side, an event of the bus, a packet from the
host, or a call of `Receive`. A read that is started in the course of it returns `readRc`. -/
inductive UsbPortEvent where
  | initializeSession (rc : Except Errno Unit)
  | send (data : Option (List UInt8)) (rc : Except Errno Unit)
  | writeCompleted (nbytes mps : Nat) (rc : Except Errno Unit)
  | bus (event : UsbdEvent) (readRc : Except Errno Unit)
  | readCompleted (packet : OutPacket) (readRc : Except Errno Unit)
  | receive (out outLen : Bool) (capacity : Nat) (emptyRc : Errno)

namespace UsbPort

/-- A packet is read only while the controller has a read to do. -/
def step (hasUsbNode : Bool) (p : UsbPort) : UsbPortEvent → UsbPort
  | .initializeSession rc =>
      { p with session := p.session.step hasUsbNode (.initializeSession rc) }
  | .send data rc => { p with session := p.session.step hasUsbNode (.send data rc) }
  | .writeCompleted nbytes mps rc =>
      { p with session := p.session.step hasUsbNode (.completed nbytes mps rc) }
  | .bus event readRc => p.usbEventHandler event readRc
  | .readCompleted packet readRc =>
      match p.reading with
      | none => p
      | some buffer =>
          (p.fillReadBuffer buffer packet).usbBulkOutCallback packet.data.length readRc
  | .receive out outLen capacity emptyRc => (p.receive out outLen capacity emptyRc).1

end UsbPort

end RmTest.Platform

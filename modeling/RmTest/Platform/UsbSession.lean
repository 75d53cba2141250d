import RmTest.Channels.Messages

/-! The USB session: the sending half of the serial port, with what the controller has
on its IN endpoint. What is received is left out. -/
namespace RmTest.Platform

open Channels

def kCdcBufferSize : Nat := 512

/-- What is sent on the IN endpoint: a buffer, or the packet of length zero after it. -/
inductive InTransfer where
  | data
  | zeroLength
  deriving DecidableEq

structure UsbSession where
  started : Bool
  configured : Bool
  txBusy : Bool
  txBuffer : List UInt8
  /-- The transfer that the controller has started and neither completed nor cancelled. -/
  inFlight : Option InTransfer

/-- The events that `UsbEventHandler` tells apart. -/
inductive UsbdEvent where
  | configured
  | reset
  | disconnected
  | other
  deriving DecidableEq

namespace UsbSession

def initial : UsbSession where
  started := false
  configured := false
  txBusy := false
  txBuffer := List.replicate kCdcBufferSize 0
  inFlight := none

/-- `Initialize`. `rc` is what `usbd_initialize` returns, and `hasUsbNode` whether the
device tree has the controller. -/
def initializeSession (hasUsbNode : Bool) (rc : Except Errno Unit) (u : UsbSession) :
    UsbSession × Except Errno Unit :=
  if u.started then (u, .ok ())
  else if !hasUsbNode then (u, .error .enodev)
  else
    match rc with
    | .error rc => (u, .error rc)
    | .ok () => ({ u with started := true }, .ok ())

def isConfigured (u : UsbSession) : Bool := u.started && u.configured

/-- `usbd_ep_start_write` on the IN endpoint, with what it returns. -/
def startWrite (u : UsbSession) (transfer : InTransfer) : Except Errno Unit → UsbSession
  | .error _ => u
  | .ok () => { u with inFlight := some transfer }

/-- A bus reset or a disconnection cancels the transfer in flight. -/
def usbEventHandler (u : UsbSession) : UsbdEvent → UsbSession
  | .configured => { u with configured := true }
  | .reset => { u with configured := false, txBusy := false, inFlight := none }
  | .disconnected => { u with configured := false, txBusy := false, inFlight := none }
  | .other => u

/-- `rc` is what `usbd_ep_start_write` returns, if it is called. -/
def usbBulkInCallback (u : UsbSession) (nbytes mps : Nat) (rc : Except Errno Unit) : UsbSession :=
  if nbytes > 0 ∧ nbytes % mps = 0 then u.startWrite .zeroLength rc
  else { u with txBusy := false }

/-- `memcpy` to `g_tx_buffer`. -/
def fillTxBuffer (u : UsbSession) (data : List UInt8) : UsbSession :=
  { u with txBuffer := data ++ u.txBuffer.drop data.length }

/-- `Send`, with `none` for a null pointer. -/
def send (u : UsbSession) (data : Option (List UInt8)) (rc : Except Errno Unit) :
    UsbSession × Except Errno Nat :=
  match data with
  | none => (u, .error .einval)
  | some data =>
      if data.length = 0 then (u, .error .einval)
      else if !u.isConfigured then (u, .error .eagain)
      else if data.length > u.txBuffer.length then (u, .error .emsgsize)
      else if u.txBusy then (u, .error .ebusy)
      else
        let u := { u.fillTxBuffer data with txBusy := true }
        match rc with
        | .error rc => ({ u.startWrite .data (.error rc) with txBusy := false }, .error rc)
        | .ok () => (u.startWrite .data (.ok ()), .ok data.length)

end UsbSession

/-- A call of the session, an event of the bus, or the end of the transfer in flight,
with what the controller returns to the calls made in it. -/
inductive UsbEvent where
  | initializeSession (rc : Except Errno Unit)
  | send (data : Option (List UInt8)) (rc : Except Errno Unit)
  | completed (nbytes mps : Nat) (rc : Except Errno Unit)
  | bus (event : UsbdEvent)

namespace UsbSession

/-- A transfer completes only while it is in flight, and then the callback runs. -/
def step (hasUsbNode : Bool) (u : UsbSession) : UsbEvent → UsbSession
  | .initializeSession rc => (u.initializeSession hasUsbNode rc).1
  | .send data rc => (u.send data rc).1
  | .completed nbytes mps rc =>
      if u.inFlight.isSome then { u with inFlight := none }.usbBulkInCallback nbytes mps rc else u
  | .bus event => u.usbEventHandler event

end UsbSession

end RmTest.Platform

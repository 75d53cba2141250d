import RmTest.Channels.Messages

/-! The frames of the PC link. A pointer into a buffer is the offset in it. -/
namespace RmTest.Protocols.PcLink

open Channels

def kFrameSof : UInt8 := 0xa5

/-- A pointer with a length: a null pointer with any length, or cells of which there are
at least as many. -/
structure Buffer where
  cells : Option (List UInt8)
  size : Nat
  reach : ∀ list ∈ cells, size ≤ list.length

structure PcFrame where
  cmdId : UInt16
  payload : Nat
  payloadLen : UInt16
  deriving DecidableEq

/-- `memcpy` of `count` cells to the cells from `offset` on. -/
def memcpy (cells : List UInt8) (offset : Nat) (source : List UInt8) (count : Nat) : List UInt8 :=
  cells.take offset ++ source.take count ++ cells.drop (offset + count)

/-- What `EncodeFrame` leaves in the cells of `out` and in `*out_len`, and what it returns. -/
def encodeFrame (cmdId : UInt16) (payload out : Buffer) (outLen : Option Nat) :
    (Option (List UInt8) × Option Nat) × Except Errno Unit :=
  match out.cells, outLen with
  | some cells, some _ =>
      if payload.size > 0 ∧ payload.cells = none then ((out.cells, outLen), .error .einval)
      else if payload.size > 0xffff then ((out.cells, outLen), .error .e2big)
      else
        let totalLen := 7 + payload.size
        if out.size < totalLen then ((out.cells, outLen), .error .enospc)
        else
          let cells := cells.set 0 kFrameSof
          let cells := cells.set 1 (UInt8.ofNat (payload.size &&& 0xff))
          let cells := cells.set 2 (UInt8.ofNat ((payload.size >>> 8) &&& 0xff))
          let cells := cells.set 3 0
          let cells := cells.set 4 0
          let cells := cells.set 5 (cmdId &&& 0xff).toUInt8
          let cells := cells.set 6 ((cmdId >>> 8) &&& 0xff).toUInt8
          let cells :=
            if payload.size > 0 then memcpy cells 7 (payload.cells.getD []) payload.size else cells
          ((some cells, some totalLen), .ok ())
  | _, _ => ((out.cells, outLen), .error .einval)

/-- What `DecodeFrame` leaves in `*out`, and what it returns. -/
def decodeFrame (frame : Buffer) (out : Option PcFrame) : Option PcFrame × Except Errno Unit :=
  match frame.cells, out with
  | some cells, some _ =>
      if frame.size < 7 then (out, .error .einval)
      else if cells.getD 0 0 ≠ kFrameSof then (out, .error .ebadmsg)
      else
        let payloadLen := (cells.getD 1 0).toUInt16 ||| (cells.getD 2 0).toUInt16 <<< 8
        let expectLen := 7 + payloadLen.toNat
        if frame.size < expectLen then (out, .error .emsgsize)
        else
          (some
            { cmdId := (cells.getD 5 0).toUInt16 ||| (cells.getD 6 0).toUInt16 <<< 8
              payload := 7
              payloadLen := payloadLen }, .ok ())
  | _, _ => (out, .error .einval)

end RmTest.Protocols.PcLink

import RmTest.Library.FloatModel

/-! Numbers of a range as unsigned integers with so many bits, and back. What is out of the
range is sent as its end. -/
namespace RmTest.Algorithms.Quantize

open FloatModel

variable {F : Type} [FloatModel F]

/-- The largest integer of so many bits. A shift by 32 is not made. -/
def maxInt (bits : UInt8) : UInt32 :=
  if 32 ≤ bits then 0xffffffff else (1 <<< bits.toUInt32) - 1

def floatToUint (x xMin xMax : F) (bits : UInt8) : UInt32 :=
  if bits = 0 then 0
  else
    let span := xMax - xMin
    if eq span 0 then 0
    else
      let offset := x - xMin
      let scaled := offset * lit (maxInt bits).toNat / span
      if le scaled 0 then 0
      else if le (lit (maxInt bits).toNat) scaled then maxInt bits
      else UInt32.ofInt (trunc scaled)

def uintToFloat (xInt : UInt32) (xMin xMax : F) (bits : UInt8) : F :=
  if bits = 0 then xMin
  else if maxInt bits = 0 then xMin
  else
    let span := xMax - xMin
    lit xInt.toNat * span / lit (maxInt bits).toNat + xMin

end RmTest.Algorithms.Quantize

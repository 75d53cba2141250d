import RmTest.Library.CheckedArray
import RmTest.Library.Repeat

/-! Sums over the first elements of an array. The three functions differ in the width of
the elements and of the sum; their loops count in a byte. -/
namespace RmTest.Algorithms.Checksum

open Repeat

variable {W : Type} [Add W]

/-- The variables of a loop. -/
structure Loop (W : Type) where
  i : UInt8
  sum : W

/-- One pass. A read outside of the array fails. -/
def sumPass (address : List W) (length : UInt32) (loop : Loop W) : Pass (Loop W) W :=
  if loop.i.toUInt32 < length then
    (CheckedArray.load address loop.i.toNat).elim .failed fun element =>
      .next { i := loop.i + 1, sum := loop.sum + element }
  else .done loop.sum

def mathSum8 (budget : Nat) (address : List UInt8) (length : UInt32) : Option UInt8 :=
  run (sumPass address length) budget { i := 0, sum := 0 }

def mathSum16 (budget : Nat) (address : List UInt16) (length : UInt32) : Option UInt16 :=
  run (sumPass address length) budget { i := 0, sum := 0 }

def mathSum32 (budget : Nat) (address : List UInt32) (length : UInt32) : Option UInt32 :=
  run (sumPass address length) budget { i := 0, sum := 0 }

end RmTest.Algorithms.Checksum

import Mathlib.Logic.Basic

/-! Sixteen-bit values and the two bytes they are sent as. -/
namespace Bytes

/-- The two halves of a value make it up again. -/
theorem low_or_high (x : UInt16) :
    x.toUInt8.toUInt16 ||| (x >>> 8).toUInt8.toUInt16 <<< 8 = x := by
  have hLt := x.toNat_lt
  have hLow : x.toNat % 2 ^ 8 < 2 ^ 8 := Nat.mod_lt _ (by decide)
  have hEight : UInt16.toNat 8 % 16 = 8 := rfl
  apply UInt16.toNat_inj.mp
  simp only [UInt16.toNat_or, UInt16.toNat_shiftLeft, UInt8.toNat_toUInt16, UInt16.toNat_toUInt8,
    UInt16.toNat_shiftRight, hEight]
  rw [Nat.shiftRight_eq_div_pow, Nat.mod_eq_of_lt (a := (_ <<< _)), Nat.or_comm,
    ← Nat.shiftLeft_add_eq_or_of_lt hLow, Nat.shiftLeft_eq]
  · omega
  · rw [Nat.shiftLeft_eq]
    omega

/-- Two bytes as the value that they are the halves of. -/
theorem toNat_low_or_high (low high : UInt8) :
    (low.toUInt16 ||| high.toUInt16 <<< 8).toNat = low.toNat + 256 * high.toNat := by
  have hLow := low.toNat_lt
  have hHigh := high.toNat_lt
  have hEight : UInt16.toNat 8 % 16 = 8 := rfl
  rw [UInt16.toNat_or, UInt16.toNat_shiftLeft, UInt8.toNat_toUInt16, UInt8.toNat_toUInt16, hEight,
    Nat.mod_eq_of_lt (by rw [Nat.shiftLeft_eq]; omega), Nat.or_comm,
    ← Nat.shiftLeft_add_eq_or_of_lt hLow, Nat.shiftLeft_eq]
  omega

theorem toNat_high (x : UInt16) : (x >>> 8).toUInt8.toNat = x.toNat / 256 := by
  have hLt := x.toNat_lt
  have hEight : UInt16.toNat 8 % 16 = 8 := rfl
  rw [UInt16.toNat_toUInt8, UInt16.toNat_shiftRight, hEight, Nat.shiftRight_eq_div_pow]
  omega

/-- The low half of two bytes. -/
theorem low_of_low_or_high (low high : UInt8) :
    (low.toUInt16 ||| high.toUInt16 <<< 8).toUInt8 = low := by
  have hLow := low.toNat_lt
  apply UInt8.toNat_inj.mp
  rw [UInt16.toNat_toUInt8, toNat_low_or_high]
  omega

/-- The high half of two bytes. -/
theorem high_of_low_or_high (low high : UInt8) :
    ((low.toUInt16 ||| high.toUInt16 <<< 8) >>> 8).toUInt8 = high := by
  have hLow := low.toNat_lt
  apply UInt8.toNat_inj.mp
  rw [toNat_high, toNat_low_or_high]
  omega

/-- A mask of a byte changes nothing about the byte. -/
theorem toUInt8_and_mask (x : UInt16) : (x &&& 0xff).toUInt8 = x.toUInt8 := by
  have hMask : UInt16.toNat 0xff = 2 ^ 8 - 1 := rfl
  apply UInt8.toNat_inj.mp
  rw [UInt16.toNat_toUInt8, UInt16.toNat_toUInt8, UInt16.toNat_and, hMask,
    Nat.and_two_pow_sub_one_eq_mod, Nat.mod_mod]

theorem ofNat_and_mask (n : Nat) : UInt8.ofNat (n &&& 0xff) = UInt8.ofNat n := by
  apply UInt8.toNat_inj.mp
  rw [UInt8.toNat_ofNat', UInt8.toNat_ofNat',
    show (0xff : Nat) = 2 ^ 8 - 1 from rfl, Nat.and_two_pow_sub_one_eq_mod, Nat.mod_mod]

/-- A signed value, sent most significant byte first, is read back. -/
theorem high_or_low (value : Int16) :
    ((value.toUInt16 >>> 8).toUInt8.toUInt16 <<< 8 ||| value.toUInt16.toUInt8.toUInt16).toInt16 =
      value := by
  rw [UInt16.or_comm, low_or_high, Int16.toInt16_toUInt16]

end Bytes

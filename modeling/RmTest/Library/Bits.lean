import Mathlib.Data.Nat.Digits.Defs

/-! Bytes read as one number, in either byte order, and the bit fields of a number.
A field is a quotient and a remainder; the shifts and masks of a program that cuts a
field out of the bytes it straddles come to the same. -/
namespace Bits

/-- The number that bytes make, least significant byte first. -/
def leNat (bytes : List UInt8) : Nat := Nat.ofDigits 256 (bytes.map UInt8.toNat)

/-- The number that bytes make, most significant byte first. -/
def beNat (bytes : List UInt8) : Nat := leNat bytes.reverse

/-- `width` bits from the bit `start` on. -/
def field (n start width : Nat) : Nat := n / 2 ^ start % 2 ^ width

theorem field_lt (n start width : Nat) : field n start width < 2 ^ width :=
  Nat.mod_lt _ (Nat.two_pow_pos width)

theorem testBit_field (n start width i : Nat) :
    (field n start width).testBit i = (decide (i < width) && n.testBit (start + i)) := by
  rw [field, Nat.testBit_mod_two_pow, Nat.testBit_div_two_pow, Nat.add_comm]

@[simp] theorem leNat_nil : leNat [] = 0 := rfl

@[simp] theorem leNat_cons (byte : UInt8) (bytes : List UInt8) :
    leNat (byte :: bytes) = byte.toNat + 256 * leNat bytes := by
  simp [leNat, Nat.ofDigits_cons]

/-- Each byte supplies eight bits, and beyond the last byte all bits are zero. -/
theorem testBit_leNat (bytes : List UInt8) (i : Nat) :
    (leNat bytes).testBit i = (bytes.getD (i / 8) 0).toNat.testBit (i % 8) := by
  induction bytes generalizing i with
  | nil => simp
  | cons byte bytes ih =>
      have hByte : byte.toNat < 2 ^ 8 := byte.toNat_lt
      have hSplit : leNat (byte :: bytes) = 2 ^ 8 * leNat bytes + byte.toNat := by
        rw [leNat_cons]
        omega
      rw [hSplit, Nat.testBit_two_pow_mul_add _ hByte]
      by_cases hFirst : i < 8
      · rw [if_pos hFirst, Nat.div_eq_of_lt hFirst, Nat.mod_eq_of_lt hFirst, List.getD_cons_zero]
      · have hQuotient : i / 8 = (i - 8) / 8 + 1 := by omega
        have hRemainder : i % 8 = (i - 8) % 8 := by omega
        rw [if_neg hFirst, ih, hQuotient, List.getD_cons_succ, hRemainder]

theorem testBit_byte (byte : UInt8) {i : Nat} (high : 8 ≤ i) : byte.toNat.testBit i = false :=
  Nat.testBit_lt_two_pow (Nat.lt_of_lt_of_le byte.toNat_lt (Nat.pow_le_pow_right (by decide) high))

section Fields

variable (bytes : List UInt8) (index shift width : Nat)

/-- A bit at an offset that is counted from the start of a byte. -/
theorem testBit_leNat_offset {offset : Nat} (more : Nat) (low : 8 * more ≤ offset)
    (high : offset < 8 * more + 8) :
    (leNat bytes).testBit (8 * index + offset) =
      (bytes.getD (index + more) 0).toNat.testBit (offset - 8 * more) := by
  have hQuotient : (8 * index + offset) / 8 = index + more := by omega
  have hRemainder : (8 * index + offset) % 8 = offset - 8 * more := by omega
  rw [testBit_leNat, hQuotient, hRemainder]

/-- A field inside one byte. -/
theorem field_leNat_one (inside : shift + width ≤ 8) :
    field (leNat bytes) (8 * index + shift) width =
      ((bytes.getD index 0).toNat >>> shift) &&& (2 ^ width - 1) := by
  apply Nat.eq_of_testBit_eq
  intro i
  rw [testBit_field, Nat.testBit_and, Nat.testBit_two_pow_sub_one, Nat.testBit_shiftRight,
    Nat.add_assoc, Bool.and_comm]
  by_cases hWidth : i < width
  · rw [testBit_leNat_offset bytes index 0 (by omega) (by omega)]
    rfl
  · simp [hWidth]

/-- A field that may reach into the third byte. -/
theorem field_leNat_three (first : shift ≤ 8) (inside : shift + width ≤ 24) :
    field (leNat bytes) (8 * index + shift) width =
      ((bytes.getD index 0).toNat >>> shift ||| (bytes.getD (index + 1) 0).toNat <<< (8 - shift) |||
          (bytes.getD (index + 2) 0).toNat <<< (16 - shift)) &&& (2 ^ width - 1) := by
  apply Nat.eq_of_testBit_eq
  intro i
  rw [testBit_field, Nat.testBit_and, Nat.testBit_two_pow_sub_one, Nat.testBit_or, Nat.testBit_or,
    Nat.testBit_shiftRight, Nat.testBit_shiftLeft, Nat.testBit_shiftLeft, Nat.add_assoc,
    Bool.and_comm]
  by_cases hWidth : i < width
  · simp only [hWidth, decide_true, Bool.and_true]
    by_cases hFirst : shift + i < 8
    · have hSecond : ¬i ≥ 8 - shift := by omega
      have hThird : ¬i ≥ 16 - shift := by omega
      rw [testBit_leNat_offset bytes index 0 (by omega) (by omega)]
      simp [hSecond, hThird]
    · rw [testBit_byte (bytes.getD index 0) (by omega)]
      by_cases hSecond : shift + i < 16
      · have hThird : ¬i ≥ 16 - shift := by omega
        have hStart : i ≥ 8 - shift := by omega
        have hOffset : shift + i - 8 * 1 = i - (8 - shift) := by omega
        rw [testBit_leNat_offset bytes index 1 (by omega) (by omega), hOffset]
        simp [hThird, hStart]
      · have hStart : i ≥ 16 - shift := by omega
        have hOffset : shift + i - 8 * 2 = i - (16 - shift) := by omega
        rw [testBit_leNat_offset bytes index 2 (by omega) (by omega), hOffset,
          testBit_byte (bytes.getD (index + 1) 0) (by omega)]
        simp [hStart]
  · simp [hWidth]

/-- A field that ends in the second byte. -/
theorem field_leNat_two (first : shift ≤ 8) (inside : shift + width ≤ 16) :
    field (leNat bytes) (8 * index + shift) width =
      ((bytes.getD index 0).toNat >>> shift |||
        (bytes.getD (index + 1) 0).toNat <<< (8 - shift)) &&&
        (2 ^ width - 1) := by
  rw [field_leNat_three bytes index shift width first (by omega), Nat.and_or_distrib_right,
    Nat.and_two_pow_sub_one_eq_mod (_ <<< (16 - shift))]
  have hMultiple : (bytes.getD (index + 2) 0).toNat <<< (16 - shift) % 2 ^ width = 0 := by
    apply Nat.mod_eq_zero_of_dvd
    rw [Nat.shiftLeft_eq]
    exact Dvd.dvd.mul_left (Nat.pow_dvd_pow 2 (by omega)) _
  rw [hMultiple, Nat.or_zero]

end Fields

end Bits

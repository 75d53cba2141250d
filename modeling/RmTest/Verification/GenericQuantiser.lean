import RmTest.Algorithms.Quantize
import RmTest.Library.Quantise

/-! The generic quantiser in exact arithmetic: it rounds down to one of the values of the
range, and saturates at its ends. -/
namespace RmTest.Algorithms.Quantize

open FloatModel

variable {bits : UInt8} {xMin xMax : ℚ}

/-- The widths that an integer of 32 bits has room for. -/
def Width (bits : UInt8) : Prop := 1 ≤ bits.toNat ∧ bits.toNat ≤ 32

theorem Width.ne_zero (width : Width bits) : bits ≠ 0 := by
  rintro rfl
  exact absurd width.1 (by decide)

theorem toNat_maxInt (width : Width bits) : (maxInt bits).toNat = 2 ^ bits.toNat - 1 := by
  obtain ⟨hPositive, hBits⟩ := width
  by_cases hFull : 32 ≤ bits
  · have hFull' : bits.toNat = 32 := Nat.le_antisymm hBits (UInt8.le_iff_toNat_le.mp hFull)
    rw [maxInt, if_pos hFull, hFull']
    rfl
  · have hBelow : bits.toNat < 32 := UInt8.lt_iff_toNat_lt.mp (UInt8.not_le.mp hFull)
    have hPow : 2 ^ bits.toNat < 2 ^ 32 := Nat.pow_lt_pow_right (by decide) hBelow
    have hShift : ((1 : UInt32) <<< bits.toUInt32).toNat = 2 ^ bits.toNat := by
      rw [UInt32.toNat_shiftLeft, UInt8.toNat_toUInt32, Nat.mod_eq_of_lt hBelow, UInt32.toNat_one,
        Nat.one_shiftLeft, Nat.mod_eq_of_lt hPow]
    have hOne : (1 : UInt32) ≤ 1 <<< bits.toUInt32 := by
      rw [UInt32.le_iff_toNat_le, hShift, UInt32.toNat_one]
      exact Nat.one_le_two_pow
    rw [maxInt, if_neg hFull, UInt32.toNat_sub_of_le _ _ hOne, hShift, UInt32.toNat_one]

theorem maxInt_pos (width : Width bits) : 0 < (maxInt bits).toNat := by
  rw [toNat_maxInt width]
  exact Nat.sub_pos_of_lt (Nat.one_lt_two_pow (Nat.one_le_iff_ne_zero.mp width.1))

/-- The code that a number has in the range, whatever the number. -/
abbrev code (xMin xMax : ℚ) (bits : UInt8) (x : ℚ) : ℤ :=
  Quantise.floorCode xMin xMax (maxInt bits).toNat x

/-- The quantiser sends the code, or the end of the range that is nearer. -/
theorem toNat_floatToUint (width : Width bits) (order : xMin < xMax) (x : ℚ) :
    ((floatToUint x xMin xMax bits).toNat : ℤ) =
      max 0 (min ((maxInt bits).toNat : ℤ) (code xMin xMax bits x)) := by
  have hSpan : ¬ xMax - xMin = 0 := (sub_pos.mpr order).ne'
  have hSteps : (0 : ℤ) < (maxInt bits).toNat := Int.natCast_pos.mpr (maxInt_pos width)
  have hSize := (maxInt bits).toNat_lt
  simp only [floatToUint, if_neg width.ne_zero, eq_rat, decide_eq_true_eq, if_neg hSpan, le_rat,
    lit_rat, code, Quantise.floorCode]
  generalize (x - xMin) * ((maxInt bits).toNat : ℚ) / (xMax - xMin) = scaled
  split_ifs with hLow hHigh
  · have hCode : ⌊scaled⌋ ≤ 0 := by
      rw [← Int.floor_zero (R := ℚ)]
      exact Int.floor_mono hLow
    rw [min_eq_right (hCode.trans hSteps.le), max_eq_left hCode]
    rfl
  · have hCode : ((maxInt bits).toNat : ℤ) ≤ ⌊scaled⌋ := Int.le_floor.mpr (by exact_mod_cast hHigh)
    rw [min_eq_left hCode, max_eq_right hSteps.le]
  · have hCode : 0 ≤ ⌊scaled⌋ := Int.floor_nonneg.mpr (not_le.mp hLow).le
    have hCode' : ⌊scaled⌋ < (maxInt bits).toNat :=
      Int.floor_lt.mpr (by exact_mod_cast not_le.mp hHigh)
    rw [trunc_eq_floor (not_le.mp hLow).le, min_eq_right hCode'.le, max_eq_right hCode,
      UInt32.ofInt, UInt32.toNat_ofNat']
    omega

/-- Inside the range the quantiser sends the code. -/
theorem toNat_floatToUint_of_mem (width : Width bits) (order : xMin < xMax) {x : ℚ}
    (above : xMin ≤ x) (below : x ≤ xMax) :
    ((floatToUint x xMin xMax bits).toNat : ℤ) = code xMin xMax bits x := by
  obtain ⟨hNonneg, hLe⟩ : 0 ≤ code xMin xMax bits x ∧ code xMin xMax bits x ≤ (maxInt bits).toNat :=
    Quantise.floorCode_mem order above below
  rw [toNat_floatToUint width order, min_eq_right hLe, max_eq_right hNonneg]

theorem uintToFloat_eq (width : Width bits) (n : UInt32) :
    uintToFloat n xMin xMax bits = Quantise.value xMin xMax (maxInt bits).toNat n.toNat := by
  have hMaxInt : ¬ maxInt bits = 0 := by
    intro hZero
    have hPositive := maxInt_pos width
    rw [hZero] at hPositive
    cases hPositive
  simp only [uintToFloat, if_neg width.ne_zero, if_neg hMaxInt, lit_rat, Quantise.value,
    Int.cast_natCast]

theorem floatToUint_uintToFloat (width : Width bits) (order : xMin < xMax) {n : UInt32}
    (range : n.toNat ≤ (maxInt bits).toNat) :
    floatToUint (uintToFloat n xMin xMax bits) xMin xMax bits = n := by
  have hPositive := maxInt_pos width
  obtain ⟨hAbove, hBelow⟩ := Quantise.value_mem order hPositive range
  rw [← uintToFloat_eq width] at hAbove hBelow
  have hValue : code xMin xMax bits (uintToFloat n xMin xMax bits) = n.toNat := by
    rw [uintToFloat_eq width]
    exact Quantise.floorCode_value order hPositive n.toNat
  have hCode := (toNat_floatToUint_of_mem width order hAbove hBelow).trans hValue
  exact UInt32.toNat_inj.mp (by exact_mod_cast hCode)

theorem floatToUint_mono (width : Width bits) (order : xMin < xMax) {x y : ℚ} (le : x ≤ y) :
    floatToUint x xMin xMax bits ≤ floatToUint y xMin xMax bits := by
  have hCode : code xMin xMax bits x ≤ code xMin xMax bits y := Quantise.floorCode_mono order le
  rw [UInt32.le_iff_toNat_le, ← Int.ofNat_le, toNat_floatToUint width order,
    toNat_floatToUint width order]
  exact max_le_max le_rfl (min_le_min le_rfl hCode)

theorem floatToUint_le (width : Width bits) (order : xMin < xMax) (x : ℚ) :
    (floatToUint x xMin xMax bits).toNat ≤ (maxInt bits).toNat := by
  rw [← Int.ofNat_le, toNat_floatToUint width order]
  exact max_le (Int.natCast_nonneg _) (min_le_left _ _)

/-- Decoding gives back the codes, and numbers of the range up to less than a step. -/
theorem floatToUint_quantises (width : 1 ≤ bits.toNat ∧ bits.toNat ≤ 32) (order : xMin < xMax) :
    (∀ n : UInt32, n.toNat ≤ 2 ^ bits.toNat - 1 →
      floatToUint (uintToFloat n xMin xMax bits) xMin xMax bits = n) ∧
    (∀ x y, x ≤ y → floatToUint x xMin xMax bits ≤ floatToUint y xMin xMax bits) ∧
    (∀ x, (floatToUint x xMin xMax bits).toNat ≤ 2 ^ bits.toNat - 1) ∧
    ∀ x, xMin ≤ x → x ≤ xMax →
      uintToFloat (floatToUint x xMin xMax bits) xMin xMax bits ≤ x ∧
      x - uintToFloat (floatToUint x xMin xMax bits) xMin xMax bits <
        (xMax - xMin) / (2 ^ bits.toNat - 1) := by
  have hMax := toNat_maxInt width
  have hPositive := maxInt_pos width
  rw [← hMax]
  refine ⟨fun n hRange => floatToUint_uintToFloat width order hRange,
    fun x y hLe => floatToUint_mono width order hLe, floatToUint_le width order,
    fun x hAbove hBelow => ?_⟩
  have hSteps : ((maxInt bits).toNat : ℚ) = 2 ^ bits.toNat - 1 := by
    rw [hMax, Nat.cast_sub Nat.one_le_two_pow]
    push_cast
    rfl
  rw [uintToFloat_eq width, toNat_floatToUint_of_mem width order hAbove hBelow, ← hSteps]
  exact ⟨Quantise.value_floorCode_le order hPositive x,
    Quantise.sub_value_floorCode_lt order hPositive x⟩

theorem floatToUint_quantises_twelve :
    (∀ n : UInt32, n.toNat ≤ 2 ^ (12 : UInt8).toNat - 1 →
      floatToUint (uintToFloat n (-1 : ℚ) 1 12) (-1) 1 12 = n) ∧
    (∀ x y : ℚ, x ≤ y → floatToUint x (-1) 1 12 ≤ floatToUint y (-1) 1 12) ∧
    (∀ x : ℚ, (floatToUint x (-1) 1 12).toNat ≤ 2 ^ (12 : UInt8).toNat - 1) ∧
    ∀ x : ℚ, -1 ≤ x → x ≤ 1 →
      uintToFloat (floatToUint x (-1) 1 12) (-1) 1 12 ≤ x ∧
      x - uintToFloat (floatToUint x (-1) 1 12) (-1) 1 12 <
        (1 - -1) / (2 ^ (12 : UInt8).toNat - 1) :=
  floatToUint_quantises (by decide) (by norm_num)

end RmTest.Algorithms.Quantize

import Mathlib.Tactic.NormNum
import RmTest.Algorithms.MahonyAhrs
import RmTest.Library.Newton
import RmTest.Library.SingleArithmetic

/-! The reciprocal square root: how good the first guess is that comes from the bits of the
argument, and how good the result is after two passes in exact arithmetic. -/
namespace RmTest.Algorithms.MahonyAhrs

open FloatModel

/-- The value of a normal positive float. -/
def normalValue (exponent fraction : Nat) : ℚ :=
  ((2 ^ 23 + fraction : Nat) : ℚ) * 2 ^ exponent / 2 ^ 150

theorem ofBits_normal {bits : UInt32} {exponent fraction : Nat} (low : 1 ≤ exponent)
    (high : exponent ≤ 254) (small : fraction < 2 ^ 23)
    (value : bits.toNat = exponent * 2 ^ 23 + fraction) :
    NanRat.ofBits bits = .num (normalValue exponent fraction) := by
  have hExponent : (bits.toNat >>> 23) % 256 = exponent := by
    rw [Nat.shiftRight_eq_div_pow]
    omega
  have hFraction : bits.toNat % 2 ^ 23 = fraction := by omega
  have hSign : bits.toNat < 2 ^ 31 := by omega
  simp only [NanRat.ofBits, hExponent, hFraction, if_neg (show exponent ≠ 255 by omega),
    if_neg (show exponent ≠ 0 by omega), if_pos hSign]
  rfl

theorem ofBits_subnormal {bits : UInt32} (small : bits.toNat < 2 ^ 23) :
    NanRat.ofBits bits = .num ((bits.toNat : ℚ) / 2 ^ 149) := by
  have hExponent : (bits.toNat >>> 23) % 256 = 0 := by
    rw [Nat.shiftRight_eq_div_pow]
    omega
  have hFraction : bits.toNat % 2 ^ 23 = bits.toNat := Nat.mod_eq_of_lt small
  have hSign : bits.toNat < 2 ^ 31 := by omega
  simp only [NanRat.ofBits, hExponent, hFraction, if_neg (show (0 : Nat) ≠ 255 by omega),
    if_pos hSign]
  rfl

theorem normalValue_pos (exponent fraction : Nat) : 0 < normalValue exponent fraction := by
  unfold normalValue
  positivity

/-- The product of a float with the square of another one, as one fraction. -/
theorem normalValue_mul_sq {e f j g k : Nat} (exponents : e + 2 * j + k = 450) :
    normalValue e f * normalValue j g ^ 2 =
      ((2 ^ 23 + f : Nat) : ℚ) * ((2 ^ 23 + g : Nat) : ℚ) ^ 2 / 2 ^ k := by
  have hUnit : (2 : ℚ) ^ e * (2 ^ j) ^ 2 * 2 ^ k = (2 ^ 150) ^ 3 := by
    rw [← pow_mul, ← pow_mul, ← pow_add, ← pow_add, Nat.mul_comm j, exponents]
  have hNonzero : (2 : ℚ) ^ 150 ≠ 0 := by positivity
  rw [eq_div_iff (by positivity), normalValue, normalValue]
  generalize (2 : ℚ) ^ 150 = unit at hUnit hNonzero ⊢
  generalize ((2 ^ 23 + f : Nat) : ℚ) = a
  generalize ((2 ^ 23 + g : Nat) : ℚ) = b
  calc a * 2 ^ e / unit * (b * 2 ^ j / unit) ^ 2 * 2 ^ k
    _ = a * b ^ 2 * (2 ^ e * (2 ^ j) ^ 2 * 2 ^ k) / unit ^ 3 := by ring
    _ = a * b ^ 2 := by rw [hUnit, mul_div_cancel_right₀ _ (pow_ne_zero 3 hNonzero)]

theorem toNat_invSqrtGuess {i : UInt32} (positive : i.toNat < 2 ^ 31) :
    (invSqrtGuess i).toNat = 1597463007 - i.toNat / 2 := by
  have hShift : (i >>> 1).toNat = i.toNat / 2 := by
    rw [UInt32.toNat_shiftRight, Nat.shiftRight_eq_div_pow]
    rfl
  have hMagic : (0x5f3759df : UInt32).toNat = 1597463007 := rfl
  rw [invSqrtGuess, UInt32.toNat_sub_of_le _ _ (UInt32.le_iff_toNat_le.mpr (by omega)), hShift,
    hMagic]

/-- The product of a growing factor with the square of a falling one is at least what it is at
one of the ends. -/
theorem le_cubic {start top first last low n : ℚ} (ends : first < last)
    (atFirst : low ≤ (start + 2 * first) * (top - first) ^ 2)
    (atLast : low ≤ (start + 2 * last) * (top - last) ^ 2) (lower : first ≤ n) (upper : n ≤ last)
    (bent : start + 2 * (first + last) + 2 * n ≤ 4 * top) :
    low ≤ (start + 2 * n) * (top - n) ^ 2 := by
  have hWidth : 0 < last - first := sub_pos.mpr ends
  -- the difference to the line through the two ends
  have hLine : (last - first) * ((start + 2 * n) * (top - n) ^ 2) =
      (last - n) * ((start + 2 * first) * (top - first) ^ 2) +
        (n - first) * ((start + 2 * last) * (top - last) ^ 2) +
        (last - first) * ((n - first) * (last - n)) *
          (4 * top - (start + 2 * (first + last) + 2 * n)) := by
    ring
  have hAbove : 0 ≤ (last - first) * ((n - first) * (last - n)) *
      (4 * top - (start + 2 * (first + last) + 2 * n)) :=
    mul_nonneg (mul_nonneg hWidth.le (mul_nonneg (sub_nonneg.mpr lower) (sub_nonneg.mpr upper)))
      (sub_nonneg.mpr bent)
  have hFirst := mul_le_mul_of_nonneg_left atFirst (sub_nonneg.mpr upper)
  have hLast := mul_le_mul_of_nonneg_left atLast (sub_nonneg.mpr lower)
  refine le_of_mul_le_mul_left ?_ hWidth
  rw [hLine]
  linarith

/-- The product is at most the cube of the mean. -/
theorem mul_sq_le {a b : ℚ} (ha : 0 ≤ a) (hb : 0 ≤ b) : a * b ^ 2 ≤ ((a + 2 * b) / 3) ^ 3 := by
  have hDifference : ((a + 2 * b) / 3) ^ 3 - a * b ^ 2 = (a - b) ^ 2 * (a + 8 * b) / 27 := by ring
  have hNonneg : 0 ≤ (a - b) ^ 2 * (a + 8 * b) / 27 := by positivity
  linarith

/-- The product of a float with the square of its guess, where `top` less half the fraction of
the float is the fraction of the guess. -/
theorem product_bounds {m n : Nat} {first last top scale : ℚ} (half : n = m / 2)
    (ends : first < last) (lower : first ≤ n) (upper : (n : ℚ) ≤ last) (below : last ≤ top)
    (positive : 0 < scale) (atFirst : 93 / 100 * scale ≤ (2 ^ 23 + 2 * first) * (top - first) ^ 2)
    (atLast : 93 / 100 * scale ≤ (2 ^ 23 + 2 * last) * (top - last) ^ 2)
    (bent : 2 ^ 23 + 2 * (first + last) + 2 * last ≤ 4 * top)
    (mean : ((2 ^ 23 + 1 + 2 * top) / 3) ^ 3 ≤ 107 / 100 * scale) :
    |(2 ^ 23 + (m : ℚ)) * (top - n) ^ 2 / scale - 1| ≤ 7 / 100 := by
  have hEven : 2 * (n : ℚ) ≤ m := by exact_mod_cast (show 2 * n ≤ m by omega)
  have hOdd : (m : ℚ) ≤ 2 * n + 1 := by exact_mod_cast (show m ≤ 2 * n + 1 by omega)
  have hTop : 0 ≤ top - n := by linarith
  have hLow : 93 / 100 * scale ≤ (2 ^ 23 + (m : ℚ)) * (top - n) ^ 2 :=
    calc 93 / 100 * scale ≤ (2 ^ 23 + 2 * (n : ℚ)) * (top - n) ^ 2 :=
          le_cubic ends atFirst atLast lower upper (by linarith)
      _ ≤ (2 ^ 23 + (m : ℚ)) * (top - n) ^ 2 :=
          mul_le_mul_of_nonneg_right (by linarith) (sq_nonneg _)
  have hHigh : (2 ^ 23 + (m : ℚ)) * (top - n) ^ 2 ≤ 107 / 100 * scale :=
    calc (2 ^ 23 + (m : ℚ)) * (top - n) ^ 2 ≤ (2 ^ 23 + 1 + 2 * (n : ℚ)) * (top - n) ^ 2 :=
          mul_le_mul_of_nonneg_right (by linarith) (sq_nonneg _)
      _ ≤ ((2 ^ 23 + 1 + 2 * (n : ℚ) + 2 * (top - n)) / 3) ^ 3 :=
          mul_sq_le (by positivity) hTop
      _ = ((2 ^ 23 + 1 + 2 * top) / 3) ^ 3 := by ring
      _ ≤ 107 / 100 * scale := mean
  have hLowDiv := (le_div_iff₀ positive).mpr hLow
  have hHighDiv := (div_le_iff₀ positive).mpr hHigh
  rw [abs_le]
  constructor <;> linarith

/-- The residual of a guess with these fields. -/
theorem residual_of_fields {guess : UInt32} {e m j f k n top : Nat} (low : 1 ≤ j) (high : j ≤ 254)
    (small : f < 2 ^ 23) (value : guess.toNat = j * 2 ^ 23 + f) (exponents : e + 2 * j + k = 450)
    (sum : 2 ^ 23 + f + n = top)
    (bound : |(2 ^ 23 + (m : ℚ)) * ((top : ℚ) - n) ^ 2 / 2 ^ k - 1| ≤ 7 / 100) :
    ∃ y : ℚ, 0 < y ∧ NanRat.ofBits guess = .num y ∧
      |ReciprocalRoot.residual (normalValue e m) y| ≤ 7 / 100 := by
  have hMantissa : ((2 ^ 23 + f : Nat) : ℚ) = (top : ℚ) - n := by
    rw [← sum]
    push_cast
    ring
  refine ⟨normalValue j f, normalValue_pos j f, ofBits_normal low high small value, ?_⟩
  rw [ReciprocalRoot.residual, normalValue_mul_sq exponents, hMantissa]
  push_cast
  exact bound

/-- The guess is within seven per cent, in terms of the square. -/
theorem residual_invSqrtGuess {i : UInt32} {e m : Nat} (low : 1 ≤ e) (high : e ≤ 254)
    (small : m < 2 ^ 23) (value : i.toNat = e * 2 ^ 23 + m) :
    ∃ y : ℚ, 0 < y ∧ NanRat.ofBits (invSqrtGuess i) = .num y ∧
      |ReciprocalRoot.residual (normalValue e m) y| ≤ 7 / 100 := by
  have hGuess : (invSqrtGuess i).toNat = 1597463007 - i.toNat / 2 :=
    toNat_invSqrtGuess (by omega)
  obtain ⟨k, rfl | rfl⟩ := Nat.even_or_odd' e
  · by_cases hBorrow : m / 2 ≤ 3627487
    · have hUpper : ((m / 2 : Nat) : ℚ) ≤ 3627487 := by exact_mod_cast hBorrow
      refine residual_of_fields (j := 190 - k) (f := 3627487 - m / 2) (k := 70) (n := m / 2)
        (by omega) (by omega) (by omega) (by omega) (by omega) (show _ = 12016095 by omega) ?_
      exact product_bounds rfl (by norm_num) (Nat.cast_nonneg _) hUpper (by norm_num)
        (by norm_num) (by norm_num) (by norm_num) (by norm_num) (by norm_num)
    · have hLower : (3627488 : ℚ) ≤ ((m / 2 : Nat) : ℚ) := by
        exact_mod_cast (show 3627488 ≤ m / 2 by omega)
      have hUpper : ((m / 2 : Nat) : ℚ) ≤ 4194303 := by
        exact_mod_cast (show m / 2 ≤ 4194303 by omega)
      -- the subtraction borrows from the exponent
      refine residual_of_fields (j := 189 - k) (f := 12016095 - m / 2) (k := 72) (n := m / 2)
        (by omega) (by omega) (by omega) (by omega) (by omega) (show _ = 20404703 by omega) ?_
      exact product_bounds rfl (by norm_num) hLower hUpper (by norm_num)
        (by norm_num) (by norm_num) (by norm_num) (by norm_num) (by norm_num)
  · have hUpper : ((m / 2 : Nat) : ℚ) ≤ 4194303 := by
      exact_mod_cast (show m / 2 ≤ 4194303 by omega)
    -- the last bit of the exponent moves into the fraction
    refine residual_of_fields (j := 189 - k) (f := 7821791 - m / 2) (k := 71) (n := m / 2)
      (by omega) (by omega) (by omega) (by omega) (by omega) (show _ = 16210399 by omega) ?_
    exact product_bounds rfl (by norm_num) (Nat.cast_nonneg _) hUpper (by norm_num)
      (by norm_num) (by norm_num) (by norm_num) (by norm_num) (by norm_num)

/-- The same for a float below the normal ones, whose guess is farther off. -/
theorem residual_of_subnormal {guess : UInt32} {m j f n top : Nat} {scale : ℚ} (low : 1 ≤ j)
    (high : j ≤ 254) (small : f < 2 ^ 23) (value : guess.toNat = j * 2 ^ 23 + f)
    (half : n = m / 2) (sum : 2 ^ 23 + f + n = top)
    (exponents : (2 : ℚ) ^ j * 2 ^ j * scale = 2 ^ 149 * (2 ^ 150) ^ 2) (positive : 0 < scale)
    (mean : ((2 + 2 * (top : ℚ)) / 3) ^ 3 ≤ 2 * scale) :
    ∃ y : ℚ, 0 < y ∧ NanRat.ofBits guess = .num y ∧
      ∀ x, 0 ≤ x → x ≤ ((m + 1 : Nat) : ℚ) / 2 ^ 149 → |ReciprocalRoot.residual x y| ≤ 1 := by
  refine ⟨normalValue j f, normalValue_pos j f, ofBits_normal low high small value, ?_⟩
  intro x nonneg hBelow
  have hMantissa : ((2 ^ 23 + f : Nat) : ℚ) = (top : ℚ) - n := by
    rw [← sum]
    push_cast
    ring
  have hOdd : ((m + 1 : Nat) : ℚ) ≤ 2 * n + 2 := by
    exact_mod_cast (show m + 1 ≤ 2 * n + 2 by omega)
  generalize ((m + 1 : Nat) : ℚ) = above at hOdd hBelow
  have hTop : 0 ≤ (top : ℚ) - n := hMantissa ▸ Nat.cast_nonneg _
  have hProduct : above / 2 ^ 149 * normalValue j f ^ 2 =
      above * ((top : ℚ) - n) ^ 2 / scale := by
    rw [eq_div_iff positive.ne', normalValue, hMantissa]
    have hFirst : (2 : ℚ) ^ 149 ≠ 0 := by positivity
    have hSecond : (2 : ℚ) ^ 150 ≠ 0 := by positivity
    generalize (2 : ℚ) ^ 149 = a at *
    generalize (2 : ℚ) ^ 150 = b at *
    generalize (2 : ℚ) ^ j = c at *
    calc above / a * (((top : ℚ) - n) * c / b) ^ 2 * scale
      _ = above * ((top : ℚ) - n) ^ 2 * (c * c * scale) / (a * b ^ 2) := by ring
      _ = above * ((top : ℚ) - n) ^ 2 := by
          rw [exponents, mul_div_cancel_right₀ _ (mul_ne_zero hFirst (pow_ne_zero 2 hSecond))]
  have hHigh : above * ((top : ℚ) - n) ^ 2 ≤ 2 * scale :=
    calc above * ((top : ℚ) - n) ^ 2 ≤ (2 * n + 2) * ((top : ℚ) - n) ^ 2 :=
          mul_le_mul_of_nonneg_right hOdd (sq_nonneg _)
      _ ≤ ((2 * n + 2 + 2 * ((top : ℚ) - n)) / 3) ^ 3 := mul_sq_le (by positivity) hTop
      _ = ((2 + 2 * (top : ℚ)) / 3) ^ 3 := by ring
      _ ≤ 2 * scale := mean
  have hTwo := (div_le_iff₀ positive).mpr hHigh
  have hLow : 0 ≤ x * normalValue j f ^ 2 := mul_nonneg nonneg (sq_nonneg _)
  have hLess := mul_le_mul_of_nonneg_right hBelow (sq_nonneg (normalValue j f))
  rw [ReciprocalRoot.residual, abs_le]
  constructor <;> linarith

theorem residual_invSqrtGuess_subnormal {i : UInt32} (small : i.toNat < 2 ^ 23) :
    ∃ y : ℚ, 0 < y ∧ NanRat.ofBits (invSqrtGuess i) = .num y ∧
      ∀ x, 0 ≤ x → x ≤ ((i.toNat + 1 : Nat) : ℚ) / 2 ^ 149 →
        |ReciprocalRoot.residual x y| ≤ 1 := by
  have hGuess : (invSqrtGuess i).toNat = 1597463007 - i.toNat / 2 :=
    toNat_invSqrtGuess (by omega)
  by_cases hBorrow : i.toNat / 2 ≤ 3627487
  · exact residual_of_subnormal (j := 190) (f := 3627487 - i.toNat / 2) (by omega)
      (by omega) (by omega) (by omega) rfl (show _ = 12016095 by omega)
      (show _ * 2 ^ 69 = _ by rw [← pow_add, ← pow_add, ← pow_mul, ← pow_add]) (by positivity)
      (by norm_num)
  · exact residual_of_subnormal (j := 189) (f := 12016095 - i.toNat / 2) (by omega)
      (by omega) (by omega) (by omega) rfl (show _ = 20404703 by omega)
      (show _ * 2 ^ 71 = _ by rw [← pow_add, ← pow_add, ← pow_mul, ← pow_add]) (by positivity)
      (by norm_num)

theorem invSqrtPass_num (x y : ℚ) :
    invSqrtPass (lit (1 / 2) * NanRat.num x) (NanRat.num y) = .num (ReciprocalRoot.step x y) := by
  have hHalf : 1 / 2 * x = x / 2 := by ring
  simp only [invSqrtPass, NanRat.lit_def, NanRat.num_mul, NanRat.num_sub, ReciprocalRoot.step,
    hHalf]

/-- A step from a guess that is off by no more than the value itself. -/
theorem step_bounds {x y : ℚ} (positive : 0 < y) (guess : |ReciprocalRoot.residual x y| ≤ 1) :
    0 < ReciprocalRoot.step x y ∧ |ReciprocalRoot.residual x (ReciprocalRoot.step x y)| ≤ 1 ∧
      x * ReciprocalRoot.step x y ^ 2 ≤ 1 := by
  obtain ⟨hLow, hHigh⟩ := ReciprocalRoot.residual_step_bounds guess le_rfl
  refine ⟨ReciprocalRoot.step_pos positive guess, abs_le.mpr ⟨by linarith, by linarith⟩, ?_⟩
  rw [ReciprocalRoot.residual] at hHigh
  linarith

/-- What two steps make of a guess within seven per cent, and a little more. -/
theorem le_step_step {x y : ℚ} (guess : |ReciprocalRoot.residual x y| ≤ 7001 / 100000) :
    1 - 11 / 1000000 ≤ x * ReciprocalRoot.step x (ReciprocalRoot.step x y) ^ 2 := by
  obtain ⟨hLow, hHigh⟩ := ReciprocalRoot.residual_step_bounds guess (by norm_num)
  have hSmall : |ReciprocalRoot.residual x (ReciprocalRoot.step x y)| ≤ 3762 / 1000000 :=
    abs_le.mpr ⟨by linarith, by linarith⟩
  have hSecond := (ReciprocalRoot.residual_step_bounds hSmall (by norm_num)).1
  rw [ReciprocalRoot.residual] at hSecond
  linarith

theorem invSqrtOfBits_num {i : UInt32} {x y : ℚ} (argument : NanRat.ofBits i = .num x)
    (guess : NanRat.ofBits (invSqrtGuess i) = .num y) :
    invSqrtOfBits i = NanRat.num (ReciprocalRoot.step x (ReciprocalRoot.step x y)) := by
  show invSqrtPass (lit (1 / 2) * NanRat.ofBits i)
    (invSqrtPass (lit (1 / 2) * NanRat.ofBits i) (NanRat.ofBits (invSqrtGuess i))) = _
  rw [argument, guess, invSqrtPass_num, invSqrtPass_num]

/-- For every float that is not negative, a zero included, the result is positive and its
square times the float at most one. For a normal float it falls short of one by no more than
eleven millionths. -/
theorem invSqrt_accurate {i : UInt32} (finite : i.toNat < 0x7f800000) :
    ∃ x y : ℚ, NanRat.ofBits i = .num x ∧ invSqrtOfBits i = NanRat.num y ∧ 0 ≤ x ∧ 0 < y ∧
      x * y ^ 2 ≤ 1 ∧ (0x00800000 ≤ i.toNat → 1 - 11 / 1000000 ≤ x * y ^ 2) := by
  by_cases hNormal : 0x00800000 ≤ i.toNat
  · have hValue : i.toNat = i.toNat / 2 ^ 23 * 2 ^ 23 + i.toNat % 2 ^ 23 := by omega
    have hExponent : 1 ≤ i.toNat / 2 ^ 23 ∧ i.toNat / 2 ^ 23 ≤ 254 := by omega
    have hSmall : i.toNat % 2 ^ 23 < 2 ^ 23 := Nat.mod_lt _ (by norm_num)
    obtain ⟨y, hPositive, hBits, hGuess⟩ :=
      residual_invSqrtGuess hExponent.1 hExponent.2 hSmall hValue
    have hArgument := ofBits_normal hExponent.1 hExponent.2 hSmall hValue
    obtain ⟨hStep, hNear, _⟩ := step_bounds hPositive (hGuess.trans (by norm_num))
    obtain ⟨hRoot, _, hHigh⟩ := step_bounds hStep hNear
    exact ⟨_, _, hArgument, invSqrtOfBits_num hArgument hBits, (normalValue_pos _ _).le, hRoot,
      hHigh,
      fun _ => le_step_step (hGuess.trans (by norm_num))⟩
  · have hSmall : i.toNat < 2 ^ 23 := by omega
    obtain ⟨y, hPositive, hBits, hGuess⟩ := residual_invSqrtGuess_subnormal hSmall
    have hArgument := ofBits_subnormal hSmall
    have hBelow : (i.toNat : ℚ) / 2 ^ 149 ≤ ((i.toNat + 1 : Nat) : ℚ) / 2 ^ 149 := by gcongr; simp
    obtain ⟨hStep, hNear, _⟩ := step_bounds hPositive (hGuess _ (by positivity) hBelow)
    obtain ⟨hRoot, _, hHigh⟩ := step_bounds hStep hNear
    exact ⟨_, _, hArgument, invSqrtOfBits_num hArgument hBits, by positivity, hRoot, hHigh,
      fun h => absurd h hNormal⟩

theorem invSqrt_accurate_one :
    ∃ x y : ℚ, NanRat.ofBits 0x3f800000 = .num x ∧ invSqrtOfBits 0x3f800000 = NanRat.num y ∧
      0 ≤ x ∧ 0 < y ∧ x * y ^ 2 ≤ 1 ∧
      (0x00800000 ≤ (0x3f800000 : UInt32).toNat → 1 - 11 / 1000000 ≤ x * y ^ 2) :=
  invSqrt_accurate (by decide)

/-- The bits of the float nearest to a number within the range. -/
theorem toNat_bits_round {x : ℚ} (nonneg : 0 ≤ x) (bound : x ≤ 2 ^ 127) :
    (Single.round x).bits.toNat = Single.nearestMagnitude x ∧
      Single.nearestMagnitude x < 0x7f800000 := by
  have hLargest : x ≤ Single.largest := by
    rw [Single.largest_eq]
    linarith
  have hFinite := Single.nearestMagnitude_lt nonneg hLargest
  refine ⟨?_, hFinite⟩
  rw [Single.round, Single.toNat_bits_pack, abs_of_nonneg nonneg, min_eq_left hFinite.le]
  simp [not_lt.mpr nonneg]

/-- Rounding the argument makes the guess hardly worse. -/
theorem residual_of_nearest {x y : ℚ} (nonneg : 0 ≤ x) (normal : 2 ^ (-126 : ℤ) ≤ Single.nearest x)
    (guess : |ReciprocalRoot.residual (Single.nearest x) y| ≤ 7 / 100) :
    |ReciprocalRoot.residual x y| ≤ 7001 / 100000 := by
  obtain ⟨hLow, hHigh⟩ := abs_le.mp guess
  obtain ⟨hLess, hMore⟩ := abs_le.mp (Single.abs_nearest_sub_le_mul nonneg normal)
  have hSquare := sq_nonneg y
  have hMoreSquare := mul_le_mul_of_nonneg_right hMore hSquare
  have hLessSquare := mul_le_mul_of_nonneg_right hLess hSquare
  rw [ReciprocalRoot.residual] at hLow hHigh ⊢
  rw [abs_le]
  constructor <;> linarith

/-- The least normal number. -/
theorem valueOf_least : Single.valueOf (2 ^ 23) = 2 ^ (-126 : ℤ) := by
  norm_num [Single.valueOf]

theorem normalValue_fields {n : Nat} (normal : 2 ^ 23 ≤ n) :
    normalValue (n / 2 ^ 23) (n % 2 ^ 23) = Single.valueOf n := by
  rw [Single.valueOf, if_neg (not_lt.mpr normal), normalValue]

/-- What is rounded to a number below the normal ones. -/
theorem le_next_subnormal {x : ℚ} (nonneg : 0 ≤ x) (small : Single.nearestMagnitude x < 2 ^ 23) :
    x < 1 / 2 ∧ x ≤ ((Single.nearestMagnitude x + 1 : Nat) : ℚ) / 2 ^ 149 := by
  have hBelow : x < 2 ^ (-126 : ℤ) := by
    by_contra hLarge
    have hMagnitude := Single.nearestMagnitude_mono (zpow_nonneg (by norm_num) _) (not_lt.mp hLarge)
    rw [← valueOf_least, Single.nearestMagnitude_valueOf] at hMagnitude
    omega
  have hNear := Single.abs_nearest_sub_le (q := x) (e := -126) le_rfl (by
    rw [abs_of_nonneg nonneg]
    norm_num at hBelow ⊢
    linarith)
  rw [Single.nearest_of_nonneg nonneg, Single.valueOf, if_pos small] at hNear
  have hMore := (abs_le.mp hNear).1
  push_cast
  norm_num at hMore hBelow ⊢
  constructor <;> linarith

/-- The first guess for a number within the range. -/
theorem residual_round {x : ℚ} (nonneg : 0 ≤ x) (bound : x ≤ 2 ^ 127) :
    ∃ y, 0 < y ∧ NanRat.ofBits (invSqrtGuess (Single.round x).bits) = .num y ∧
      |ReciprocalRoot.residual x y| ≤ 1 ∧
      (1 / 2 ≤ x → |ReciprocalRoot.residual x y| ≤ 7001 / 100000) := by
  obtain ⟨hBits, hFinite⟩ := toNat_bits_round nonneg bound
  have hNearest := Single.nearest_of_nonneg nonneg
  by_cases hNormal : 2 ^ 23 ≤ Single.nearestMagnitude x
  · have hValue : (Single.round x).bits.toNat =
        Single.nearestMagnitude x / 2 ^ 23 * 2 ^ 23 + Single.nearestMagnitude x % 2 ^ 23 := by
      omega
    obtain ⟨y, hPositive, hGuess, hResidual⟩ :=
      residual_invSqrtGuess (by omega) (by omega) (Nat.mod_lt _ (by norm_num)) hValue
    have hAbove : 2 ^ (-126 : ℤ) ≤ Single.nearest x := by
      rw [hNearest, ← valueOf_least]
      exact Single.valueOf_le_valueOf.mpr hNormal
    rw [normalValue_fields hNormal, ← hNearest] at hResidual
    have hClose := residual_of_nearest nonneg hAbove hResidual
    exact ⟨y, hPositive, hGuess, hClose.trans (by norm_num), fun _ => hClose⟩
  · obtain ⟨hSmall, hNext⟩ := le_next_subnormal nonneg (not_le.mp hNormal)
    rw [← hBits] at hNext hNormal
    obtain ⟨y, hPositive, hGuess, hResidual⟩ :=
      residual_invSqrtGuess_subnormal (not_le.mp hNormal)
    exact ⟨y, hPositive, hGuess, hResidual x nonneg hNext, fun hLarge => by linarith⟩

/-- In exact arithmetic the result times itself and the argument is at most one, and for an
argument that is not small falls short of one by no more than eleven millionths. -/
theorem exactInvSqrt_bounds {x : ℚ} (nonneg : 0 ≤ x) (bound : x ≤ 2 ^ 127) :
    x * exactInvSqrt x ^ 2 ≤ 1 ∧
      (1 / 2 ≤ x → 1 - 11 / 1000000 ≤ x * exactInvSqrt x ^ 2) := by
  obtain ⟨y, hPositive, hGuess, hResidual, hClose⟩ := residual_round nonneg bound
  have hHalf : 1 / 2 * x = x / 2 := by ring
  have hNumber : numberOf (invSqrtGuess (Single.round x).bits) = y := by rw [numberOf, hGuess]
  have hSteps : exactInvSqrt x = ReciprocalRoot.step x (ReciprocalRoot.step x y) := by
    rw [exactInvSqrt, invSqrt, hNumber]
    simp only [invSqrtPass, lit_rat, ReciprocalRoot.step, hHalf]
  obtain ⟨hStep, hNear, _⟩ := step_bounds hPositive hResidual
  rw [hSteps]
  exact ⟨(step_bounds hStep hNear).2.2, fun hLarge => le_step_step (hClose hLarge)⟩

end RmTest.Algorithms.MahonyAhrs

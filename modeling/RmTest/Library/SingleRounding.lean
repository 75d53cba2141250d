import Mathlib.Algebra.Order.Floor.Ring
import Mathlib.Tactic.FieldSimp
import Mathlib.Tactic.NormNum
import RmTest.Library.Single

/-! Rounding to a single as a function on the rationals: it grows with its argument, leaves
the singles as they are, and is off by half a unit of the last place at most. -/
namespace Single

theorem floor_bounds {q : ℚ} (nonneg : 0 ≤ q) :
    (q.floor.toNat : ℚ) ≤ q ∧ q < q.floor.toNat + 1 := by
  have hCast : ((q.floor.toNat : ℤ) : ℚ) = (⌊q⌋ : ℚ) :=
    congrArg Int.cast (Int.toNat_of_nonneg (Int.floor_nonneg.mpr nonneg))
  rw [Int.cast_natCast] at hCast
  rw [hCast]
  exact ⟨Int.floor_le q, Int.lt_floor_add_one q⟩

theorem abs_roundHalfEven_sub_le {q : ℚ} (nonneg : 0 ≤ q) :
    |(roundHalfEven q : ℚ) - q| ≤ 1 / 2 := by
  obtain ⟨hLow, hHigh⟩ := floor_bounds nonneg
  unfold roundHalfEven
  dsimp only
  rw [abs_le]
  split_ifs with hDown
  · have hRest : q - q.floor.toNat ≤ 1 / 2 := hDown.elim le_of_lt fun h => h.1.le
    constructor <;> linarith
  · have hRest : 1 / 2 ≤ q - q.floor.toNat := le_of_not_gt fun h => hDown (.inl h)
    push_cast
    constructor <;> linarith

theorem roundHalfEven_natCast (n : Nat) : roundHalfEven n = n := by
  have hFloor : (n : ℚ).floor = n := Rat.floor_intCast n
  simp [roundHalfEven, hFloor]

theorem roundHalfEven_mono {p q : ℚ} (nonneg : 0 ≤ p) (le : p ≤ q) :
    roundHalfEven p ≤ roundHalfEven q := by
  rcases le.eq_or_lt with rfl | hLess
  · exact le_rfl
  · by_contra hNot
    have hStep : (roundHalfEven q : ℚ) + 1 ≤ roundHalfEven p := by exact_mod_cast not_le.mp hNot
    have hLow := (abs_le.mp (abs_roundHalfEven_sub_le nonneg)).2
    have hHigh := (abs_le.mp (abs_roundHalfEven_sub_le (nonneg.trans le))).1
    linarith

theorem valueOf_nonneg (n : Nat) : 0 ≤ valueOf n := by
  unfold valueOf
  split_ifs <;> positivity

theorem valueOf_zero : valueOf 0 = 0 := by norm_num [valueOf]

/-- The number of an exponent and a fraction that has carried over or not. -/
theorem valueOf_fields {k fraction : Nat} (high : fraction ≤ 2 ^ 24)
    (normal : k ≠ 0 → 2 ^ 23 ≤ fraction) :
    valueOf (k * 2 ^ 23 + fraction) = fraction * 2 ^ k / 2 ^ 149 := by
  have hDouble : (2 : ℚ) ^ 150 = 2 * 2 ^ 149 := by norm_num
  rcases Nat.lt_or_ge fraction (2 ^ 23) with hSmall | hLarge
  · obtain rfl : k = 0 := by
      by_contra h
      have := normal h
      omega
    rw [valueOf, Nat.zero_mul, Nat.zero_add, if_pos hSmall, pow_zero, mul_one]
  · rw [valueOf, if_neg (by omega)]
    rcases high.eq_or_lt with rfl | hLess
    · have hExponent : (k * 2 ^ 23 + 2 ^ 24) / 2 ^ 23 = k + 2 := by omega
      have hFraction : 2 ^ 23 + (k * 2 ^ 23 + 2 ^ 24) % 2 ^ 23 = 2 ^ 23 := by omega
      rw [hExponent, hFraction, hDouble, pow_add, div_eq_div_iff (by positivity) (by positivity)]
      push_cast
      ring
    · have hExponent : (k * 2 ^ 23 + fraction) / 2 ^ 23 = k + 1 := by omega
      have hFraction : 2 ^ 23 + (k * 2 ^ 23 + fraction) % 2 ^ 23 = fraction := by omega
      rw [hExponent, hFraction, hDouble, pow_succ, div_eq_div_iff (by positivity) (by positivity)]
      ring

theorem exponentOf_mono {p q : ℚ} (positive : 0 < p) (le : p ≤ q) : exponentOf p ≤ exponentOf q :=
  max_le_max (Int.log_mono_right positive le) le_rfl

theorem scale_pos (q : ℚ) : (0 : ℚ) < 2 ^ exponentOf q := zpow_pos (by norm_num) _

theorem fraction_nonneg {q : ℚ} (nonneg : 0 ≤ q) : 0 ≤ q / 2 ^ exponentOf q * 2 ^ 23 :=
  mul_nonneg (div_nonneg nonneg (scale_pos q).le) (by norm_num)

/-- The fraction before it is rounded. -/
theorem fraction_bounds {q : ℚ} (positive : 0 < q) :
    q / 2 ^ exponentOf q * 2 ^ 23 ≤ 2 ^ 24 ∧
      (-126 < exponentOf q → 2 ^ 23 ≤ q / 2 ^ exponentOf q * 2 ^ 23) := by
  have hScale := scale_pos q
  have hBase : ((2 : Nat) : ℚ) = 2 := by norm_num
  constructor
  · have hBelow := Int.lt_zpow_succ_log_self (b := 2) (by norm_num) q
    rw [hBase] at hBelow
    have hExponent : (2 : ℚ) ^ (Int.log 2 q + 1) ≤ 2 ^ (exponentOf q + 1) :=
      zpow_le_zpow_right₀ (by norm_num) (Int.add_le_add_right (le_max_left _ _) 1)
    have hQuotient : q / 2 ^ exponentOf q ≤ 2 := by
      rw [div_le_iff₀ hScale]
      rw [zpow_add_one₀ (n := exponentOf q) (by norm_num)] at hExponent
      linarith
    linarith
  · intro hNormal
    have hLog : exponentOf q = Int.log 2 q :=
      max_eq_left (le_of_not_gt fun h => hNormal.ne' (max_eq_right h.le))
    have hAbove := Int.zpow_log_le_self (b := 2) (by norm_num) positive
    rw [hBase, ← hLog] at hAbove
    have hQuotient : 1 ≤ q / 2 ^ exponentOf q := (one_le_div hScale).mpr hAbove
    linarith

/-- The two fields that a number is rounded to. -/
theorem nearestMagnitude_fields {q : ℚ} (positive : 0 < q) :
    ∃ k fraction : Nat, nearestMagnitude q = k * 2 ^ 23 + fraction ∧
      (k : ℤ) = exponentOf q + 126 ∧
      fraction = roundHalfEven (q / 2 ^ exponentOf q * 2 ^ 23) ∧ fraction ≤ 2 ^ 24 ∧
      (k ≠ 0 → 2 ^ 23 ≤ fraction) := by
  obtain ⟨hHigh, hLow⟩ := fraction_bounds positive
  have hExponent : -126 ≤ exponentOf q := le_max_right _ _
  have hNonneg := fraction_nonneg positive.le
  refine ⟨(exponentOf q + 126).toNat, _, if_neg positive.ne', by omega, rfl, ?_, fun hNormal => ?_⟩
  · have hRounded :=
      roundHalfEven_mono hNonneg (q := ((2 ^ 24 : Nat) : ℚ)) (by exact_mod_cast hHigh)
    rwa [roundHalfEven_natCast] at hRounded
  · have hRounded := roundHalfEven_mono (p := ((2 ^ 23 : Nat) : ℚ)) (by positivity)
      (by exact_mod_cast hLow (by omega))
    rwa [roundHalfEven_natCast] at hRounded

theorem nearestMagnitude_zero : nearestMagnitude 0 = 0 := if_pos rfl

theorem nearestMagnitude_mono {p q : ℚ} (nonneg : 0 ≤ p) (le : p ≤ q) :
    nearestMagnitude p ≤ nearestMagnitude q := by
  rcases nonneg.eq_or_lt with rfl | hPositive
  · rw [nearestMagnitude_zero]
    exact Nat.zero_le _
  · obtain ⟨k, f, hP, hK, hF, hHigh, -⟩ := nearestMagnitude_fields hPositive
    obtain ⟨l, g, hQ, hL, hG, -, hNormal⟩ := nearestMagnitude_fields (hPositive.trans_le le)
    have hExponent := exponentOf_mono hPositive le
    rw [hP, hQ]
    rcases hExponent.eq_or_lt with hSame | hLess
    · have hFraction : f ≤ g := by
        rw [hF, hG, ← hSame]
        refine roundHalfEven_mono (fraction_nonneg nonneg) (mul_le_mul_of_nonneg_right ?_ ?_)
        · exact div_le_div_of_nonneg_right le (scale_pos p).le
        · norm_num
      omega
    · -- the next exponent begins where the fractions of this one end
      have := hNormal (by omega)
      omega

theorem exponentOf_eq {q : ℚ} {e : ℤ} (low : (2 : ℚ) ^ e ≤ q) (high : q < 2 ^ (e + 1))
    (normal : -126 ≤ e) : exponentOf q = e := by
  have hOne : (1 : Nat) < 2 := by norm_num
  have hBase : ((2 : Nat) : ℚ) = 2 := by norm_num
  have hPositive : 0 < q := (zpow_pos (by norm_num) e).trans_le low
  have hLow := (Int.zpow_le_iff_le_log hOne hPositive).mp (hBase.symm ▸ low)
  have hHigh := (Int.lt_zpow_iff_log_lt hOne hPositive).mp (hBase.symm ▸ high)
  rw [exponentOf]
  omega

theorem exponentOf_subnormal {q : ℚ} (positive : 0 < q) (small : q < 2 ^ (-126 : ℤ)) :
    exponentOf q = -126 := by
  have hBase : ((2 : Nat) : ℚ) = 2 := by norm_num
  have hLog := (Int.lt_zpow_iff_log_lt (by norm_num) positive).mp (hBase.symm ▸ small)
  rw [exponentOf]
  omega

/-- A magnitude is the one nearest to its number. -/
theorem nearestMagnitude_valueOf (n : Nat) : nearestMagnitude (valueOf n) = n := by
  have hRounded {q : ℚ} {fraction : Nat} (positive : 0 < q)
      (grid : q / 2 ^ exponentOf q * 2 ^ 23 = fraction) :
      nearestMagnitude q = (exponentOf q + 126).toNat * 2 ^ 23 + fraction := by
    rw [nearestMagnitude, if_neg positive.ne', grid, roundHalfEven_natCast]
  rcases Nat.eq_zero_or_pos n with rfl | hPositive
  · rw [valueOf_zero, nearestMagnitude_zero]
  rcases Nat.lt_or_ge n (2 ^ 23) with hSmall | hLarge
  · -- below the normal numbers, where the exponent is the least one
    have hValue : valueOf n = n / 2 ^ 149 := if_pos hSmall
    have hCast : (0 : ℚ) < n := by exact_mod_cast hPositive
    have hLess : (n : ℚ) < 2 ^ 23 := by exact_mod_cast hSmall
    have hExponent : exponentOf (valueOf n) = -126 := by
      rw [hValue]
      refine exponentOf_subnormal (by positivity) ?_
      rw [div_lt_iff₀ (by positivity)]
      norm_num at hLess ⊢
      exact hLess
    have hGrid : valueOf n / 2 ^ exponentOf (valueOf n) * 2 ^ 23 = n := by
      rw [hExponent, hValue]
      norm_num
      ring
    rw [hRounded (by rw [hValue]; positivity) hGrid, hExponent]
    norm_num
  · have hValue : valueOf n = ((2 ^ 23 + n % 2 ^ 23 : Nat) : ℚ) * 2 ^ (n / 2 ^ 23) / 2 ^ 150 :=
      if_neg (Nat.not_lt.mpr hLarge)
    have hHigh : ((2 ^ 23 + n % 2 ^ 23 : Nat) : ℚ) < 2 ^ 24 := by
      exact_mod_cast (show 2 ^ 23 + n % 2 ^ 23 < 2 ^ 24 by omega)
    have hLow : (2 ^ 23 : ℚ) ≤ ((2 ^ 23 + n % 2 ^ 23 : Nat) : ℚ) := by
      exact_mod_cast Nat.le_add_right _ _
    have hUnit : (2 : ℚ) ^ ((n / 2 ^ 23 : Nat) - 127 : ℤ) = 2 ^ (n / 2 ^ 23) / 2 ^ 127 := by
      rw [zpow_sub₀ (by norm_num), zpow_natCast]
      norm_num
    have hPower : (0 : ℚ) < 2 ^ (n / 2 ^ 23) := by positivity
    have hExponent : exponentOf (valueOf n) = (n / 2 ^ 23 : Nat) - 127 := by
      refine exponentOf_eq ?_ ?_ (by omega)
      · rw [hUnit, hValue, div_le_div_iff₀ (by positivity) (by positivity)]
        calc (2 : ℚ) ^ (n / 2 ^ 23) * 2 ^ 150 = 2 ^ 23 * (2 ^ (n / 2 ^ 23) * 2 ^ 127) := by ring
          _ ≤ ((2 ^ 23 + n % 2 ^ 23 : Nat) : ℚ) * (2 ^ (n / 2 ^ 23) * 2 ^ 127) :=
              mul_le_mul_of_nonneg_right hLow (by positivity)
          _ = _ := by ring
      · rw [zpow_add_one₀ (by norm_num), hUnit, hValue, div_mul_eq_mul_div,
          div_lt_div_iff₀ (by positivity) (by positivity)]
        calc ((2 ^ 23 + n % 2 ^ 23 : Nat) : ℚ) * 2 ^ (n / 2 ^ 23) * 2 ^ 127
          _ = ((2 ^ 23 + n % 2 ^ 23 : Nat) : ℚ) * (2 ^ (n / 2 ^ 23) * 2 ^ 127) := by ring
          _ < 2 ^ 24 * (2 ^ (n / 2 ^ 23) * 2 ^ 127) := mul_lt_mul_of_pos_right hHigh (by positivity)
          _ = _ := by ring
    have hGrid : valueOf n / 2 ^ exponentOf (valueOf n) * 2 ^ 23 =
        ((2 ^ 23 + n % 2 ^ 23 : Nat) : ℚ) := by
      rw [hExponent, hUnit, hValue]
      field_simp
    rw [hRounded (by rw [hValue]; positivity) hGrid, hExponent]
    omega

theorem valueOf_le_valueOf {m n : Nat} : valueOf m ≤ valueOf n ↔ m ≤ n := by
  have hMono {m n : Nat} (le : valueOf m ≤ valueOf n) : m ≤ n := by
    have hNearest := nearestMagnitude_mono (valueOf_nonneg m) le
    rwa [nearestMagnitude_valueOf, nearestMagnitude_valueOf] at hNearest
  refine ⟨hMono, fun le => ?_⟩
  rcases le_total (valueOf m) (valueOf n) with h | h
  · exact h
  · rw [le_antisymm le (hMono h)]

theorem valueOf_injective {m n : Nat} (same : valueOf m = valueOf n) : m = n :=
  le_antisymm (valueOf_le_valueOf.mp same.le) (valueOf_le_valueOf.mp same.ge)

/-- The unit of the last place, in terms of the exponent. -/
theorem valueOf_nearestMagnitude {q : ℚ} (positive : 0 < q) :
    valueOf (nearestMagnitude q) =
      roundHalfEven (q / 2 ^ exponentOf q * 2 ^ 23) * (2 ^ exponentOf q / 2 ^ 23) := by
  obtain ⟨k, fraction, hQ, hK, hF, hHigh, hNormal⟩ := nearestMagnitude_fields positive
  have hUnit : (2 : ℚ) ^ exponentOf q = 2 ^ k / 2 ^ 126 := by
    rw [show exponentOf q = (k : ℤ) - 126 by omega, zpow_sub₀ (by norm_num), zpow_natCast]
    norm_num
  rw [hQ, valueOf_fields hHigh hNormal, ← hF, hUnit]
  have hPower : (2 : ℚ) ^ k ≠ 0 := by positivity
  field_simp

/-- The number that a rational is rounded to. -/
def nearest (q : ℚ) : ℚ :=
  if q < 0 then -valueOf (nearestMagnitude |q|) else valueOf (nearestMagnitude |q|)

theorem nearest_of_nonneg {q : ℚ} (nonneg : 0 ≤ q) : nearest q = valueOf (nearestMagnitude q) := by
  rw [nearest, if_neg (not_lt.mpr nonneg), abs_of_nonneg nonneg]

@[simp] theorem nearest_zero : nearest 0 = 0 := by
  rw [nearest_of_nonneg le_rfl, nearestMagnitude_zero, valueOf_zero]

theorem nearest_neg (q : ℚ) : nearest (-q) = -nearest q := by
  rcases lt_trichotomy q 0 with hNegative | rfl | hPositive
  · rw [nearest, nearest, abs_neg, if_neg (by linarith), if_pos hNegative, neg_neg]
  · simp
  · rw [nearest, nearest, abs_neg, if_pos (by linarith), if_neg (by linarith)]

theorem nearest_nonneg {q : ℚ} (nonneg : 0 ≤ q) : 0 ≤ nearest q := by
  rw [nearest_of_nonneg nonneg]
  exact valueOf_nonneg _

theorem nearest_mono {p q : ℚ} (le : p ≤ q) : nearest p ≤ nearest q := by
  have hNonneg {p q : ℚ} (nonneg : 0 ≤ p) (le : p ≤ q) : nearest p ≤ nearest q := by
    rw [nearest_of_nonneg nonneg, nearest_of_nonneg (nonneg.trans le)]
    exact valueOf_le_valueOf.mpr (nearestMagnitude_mono nonneg le)
  rcases le_total 0 p with hP | hP
  · exact hNonneg hP le
  · rcases le_total 0 q with hQ | hQ
    · have hBelow : 0 ≤ nearest (-p) := nearest_nonneg (by linarith)
      rw [nearest_neg] at hBelow
      linarith [nearest_nonneg hQ]
    · have hMirrored := hNonneg (p := -q) (q := -p) (by linarith) (by linarith)
      rw [nearest_neg, nearest_neg] at hMirrored
      linarith

theorem nearest_valueOf (n : Nat) : nearest (valueOf n) = valueOf n := by
  rw [nearest_of_nonneg (valueOf_nonneg n), nearestMagnitude_valueOf]

/-- A bound is rounded with what it bounds. -/
theorem abs_nearest_le {q bound rounded : ℚ} (rounds : nearest bound = rounded)
    (le : |q| ≤ bound) : |nearest q| ≤ rounded := by
  obtain ⟨hLow, hHigh⟩ := abs_le.mp le
  rw [abs_le]
  refine ⟨?_, rounds ▸ nearest_mono hHigh⟩
  have hBelow := nearest_mono hLow
  rwa [nearest_neg, rounds] at hBelow

theorem abs_nearest (q : ℚ) : |nearest q| = nearest |q| := by
  rcases le_total 0 q with hNonneg | hNegative
  · rw [abs_of_nonneg hNonneg, abs_of_nonneg (nearest_nonneg hNonneg)]
  · have hMirrored := nearest_nonneg (q := -q) (by linarith)
    rw [abs_of_nonpos hNegative, nearest_neg, abs_of_nonpos]
    rw [nearest_neg] at hMirrored
    linarith

/-- Rounding leaves alone what is a multiple of the last place. -/
theorem nearest_of_grid {q : ℚ} {n : Nat} (positive : 0 < q)
    (grid : q / 2 ^ exponentOf q * 2 ^ 23 = n) : nearest q = q := by
  have hScale := (scale_pos q).ne'
  rw [nearest_of_nonneg positive.le, valueOf_nearestMagnitude positive, grid,
    roundHalfEven_natCast, ← grid]
  field_simp

/-- Integers of up to 24 bits are singles. -/
theorem nearest_natCast {n : Nat} (small : n ≤ 2 ^ 24) : nearest n = n := by
  rcases Nat.eq_zero_or_pos n with rfl | hPositive
  · simp
  have hCast : (0 : ℚ) < n := by exact_mod_cast hPositive
  rcases small.eq_or_lt with rfl | hLess
  · have hValue : valueOf 0x4b800000 = ((2 ^ 24 : Nat) : ℚ) := by norm_num [valueOf]
    rw [← hValue, nearest_valueOf]
  have hLog : exponentOf n = Nat.log 2 n := by
    rw [exponentOf, Int.log_natCast]
    exact max_eq_left (by omega)
  have hExponent : Nat.log 2 n ≤ 23 := Nat.le_of_lt_succ (Nat.log_lt_of_lt_pow hPositive.ne' hLess)
  refine nearest_of_grid (n := n * 2 ^ (23 - Nat.log 2 n)) hCast ?_
  have hSplit : (2 : ℚ) ^ 23 = 2 ^ Nat.log 2 n * 2 ^ (23 - Nat.log 2 n) := by
    rw [← pow_add, Nat.add_sub_cancel' hExponent]
  rw [hLog, zpow_natCast, hSplit]
  push_cast
  field_simp

theorem nearest_intCast {z : ℤ} (small : z.natAbs ≤ 2 ^ 24) : nearest z = z := by
  rcases Int.natAbs_eq z with hSign | hSign
  · rw [hSign, Int.cast_natCast]
    exact nearest_natCast small
  · rw [hSign, Int.cast_neg, Int.cast_natCast, nearest_neg, nearest_natCast small]

/-- Rounding is off by half a unit of the last place at most. -/
theorem abs_nearest_sub_le {q : ℚ} {e : ℤ} (normal : -126 ≤ e) (small : |q| < 2 ^ (e + 1)) :
    |nearest q - q| ≤ 2 ^ e / 2 ^ 24 := by
  have hPositive {q : ℚ} (positive : 0 < q) (small : q < 2 ^ (e + 1)) :
      |nearest q - q| ≤ 2 ^ e / 2 ^ 24 := by
    have hBase : ((2 : Nat) : ℚ) = 2 := by norm_num
    have hLog := (Int.lt_zpow_iff_log_lt (by norm_num) positive).mp (hBase.symm ▸ small)
    have hExponent : exponentOf q ≤ e := max_le (by omega) normal
    have hUnit : (2 : ℚ) ^ exponentOf q ≤ 2 ^ e := zpow_le_zpow_right₀ (by norm_num) hExponent
    have hScale := scale_pos q
    have hError := abs_roundHalfEven_sub_le (fraction_nonneg positive.le)
    have hValue : q = q / 2 ^ exponentOf q * 2 ^ 23 * (2 ^ exponentOf q / 2 ^ 23) := by
      field_simp
    rw [nearest_of_nonneg positive.le, valueOf_nearestMagnitude positive]
    generalize roundHalfEven (q / 2 ^ exponentOf q * 2 ^ 23) = rounded at hError ⊢
    generalize q / 2 ^ exponentOf q * 2 ^ 23 = fraction at hError hValue
    calc |(rounded : ℚ) * (2 ^ exponentOf q / 2 ^ 23) - q|
      _ = |(rounded - fraction) * (2 ^ exponentOf q / 2 ^ 23)| := by
          rw [sub_mul, ← hValue]
      _ = |(rounded : ℚ) - fraction| * (2 ^ exponentOf q / 2 ^ 23) := by
          rw [abs_mul, abs_of_nonneg (div_nonneg hScale.le (by norm_num))]
      _ ≤ 1 / 2 * (2 ^ e / 2 ^ 23) := by gcongr
      _ = 2 ^ e / 2 ^ 24 := by ring
  rcases lt_trichotomy q 0 with hNegative | rfl | hPositive'
  · have hMirrored := hPositive (q := -q) (by linarith) (by rwa [abs_of_neg hNegative] at small)
    rwa [nearest_neg, ← neg_add', abs_neg, ← sub_eq_add_neg] at hMirrored
  · rw [nearest_zero, sub_zero, abs_zero]
    exact div_nonneg (zpow_nonneg (by norm_num) e) (by norm_num)
  · exact hPositive hPositive' (by rwa [abs_of_pos hPositive'] at small)

/-- Rounding to a normal number is off by that part of it at most. -/
theorem abs_nearest_sub_le_mul {q : ℚ} (nonneg : 0 ≤ q) (normal : 2 ^ (-126 : ℤ) ≤ nearest q) :
    |nearest q - q| ≤ nearest q / 2 ^ 23 := by
  have hPositive : 0 < q := nonneg.lt_of_ne fun h => by
    rw [← h, nearest_zero] at normal
    exact absurd normal (not_le.mpr (zpow_pos (by norm_num) _))
  have hBase : ((2 : Nat) : ℚ) = 2 := by norm_num
  have hBelow : |q| < 2 ^ (exponentOf q + 1) := by
    have hLog := Int.lt_zpow_succ_log_self (b := 2) (by norm_num) q
    rw [hBase] at hLog
    rw [abs_of_pos hPositive]
    exact hLog.trans_le
      (zpow_le_zpow_right₀ (by norm_num) (Int.add_le_add_right (le_max_left _ _) 1))
  have hNear := abs_nearest_sub_le (show -126 ≤ exponentOf q from le_max_right _ _) hBelow
  have hUnit : 2 ^ exponentOf q ≤ 2 * nearest q := by
    rcases le_total (Int.log 2 q) (-126) with hLow | hHigh
    · rw [exponentOf, max_eq_right hLow]
      linarith [nearest_nonneg nonneg]
    · have hLog := Int.zpow_log_le_self (b := 2) (by norm_num) hPositive
      have hExponent : exponentOf q = Int.log 2 q := max_eq_left hHigh
      rw [hBase, ← hExponent] at hLog
      linarith [(abs_le.mp hNear).1]
  linarith

/-- Rounding stays below one exactly up to half of the last place below one. -/
theorem abs_nearest_lt_one_iff (q : ℚ) : |nearest q| < 1 ↔ |q| < 1 - 1 / 2 ^ 25 := by
  have hMidway : nearest (1 - 1 / 2 ^ 25) = 1 := by decide +kernel
  rw [abs_nearest]
  constructor
  · intro hBelow
    by_contra hAbove
    have hRounded := nearest_mono (not_lt.mp hAbove)
    rw [hMidway] at hRounded
    linarith
  · intro hBelow
    have hNear := abs_nearest_sub_le (q := |q|) (e := -1) (by norm_num)
      (by rw [abs_abs]; norm_num at hBelow ⊢; linarith)
    norm_num at hNear hBelow
    linarith [(abs_le.mp hNear).2]

end Single

import Mathlib.Data.Rat.Floor
import Mathlib.Tactic.Linarith

/-! What a program can do with a `float`. The class lists the operations and
nothing else: a result proved for every `FloatModel` holds for hardware floats,
whatever their rounding. The rationals interpret it exactly; `NanRat` adds the
one value that compares false with everything. -/

/-- The operations on `float`. `lt` and `eq` are the comparison operators of the
language, which are not order and equality once a NaN exists. -/
class FloatModel (F : Type) extends Zero F, Add F, Sub F, Mul F, Div F, Neg F where
  /-- A literal, or the conversion of an integer. -/
  lit : ℚ → F
  lt : F → F → Bool
  eq : F → F → Bool
  /-- Conversion to an integer, toward zero. Outside the target type's range the
  language leaves the result open; the narrowing is left to the caller. -/
  trunc : F → Int

namespace FloatModel

variable {F : Type} [FloatModel F]

def le (a b : F) : Bool := lt a b || eq a b

/-- `std::clamp`. -/
def clamp (value low high : F) : F :=
  if lt value low then low else if lt high value then high else value

/-- `fabsf`. -/
def fabs (value : F) : F := if lt value 0 then -value else value

/-- `static_cast<int16_t>`. -/
def castInt16 (value : F) : Int16 := Int16.ofInt (trunc value)

/-- Exact arithmetic. -/
instance : FloatModel ℚ where
  lit := id
  lt a b := decide (a < b)
  eq a b := decide (a = b)
  trunc q := q.num.tdiv q.den

@[simp] theorem lit_rat (q : ℚ) : (lit q : ℚ) = q := rfl
@[simp] theorem lt_rat (a b : ℚ) : lt a b = decide (a < b) := rfl
@[simp] theorem eq_rat (a b : ℚ) : eq a b = decide (a = b) := rfl
theorem le_rat (a b : ℚ) : le a b = decide (a ≤ b) := by
  simp [le, le_iff_lt_or_eq]

theorem fabs_rat (q : ℚ) : fabs q = |q| := by
  simp only [fabs, lt_rat, decide_eq_true_eq]
  split_ifs with hNegative
  · exact (abs_of_neg hNegative).symm
  · exact (abs_of_nonneg (not_lt.mp hNegative)).symm

theorem trunc_rat (q : ℚ) : trunc q = q.num.tdiv q.den := rfl

/-- Clamping to a symmetric range keeps exactly zero at zero. -/
theorem clamp_rat_eq_zero_iff (value limit : ℚ) (positive : 0 < limit) :
    clamp value (-limit) limit = 0 ↔ value = 0 := by
  simp only [clamp, lt_rat, decide_eq_true_eq]
  split_ifs with hLow hHigh <;> constructor <;> intro h <;> linarith

/-- Clamping to a symmetric range bounds the value. -/
theorem abs_clamp_rat_le (value : ℚ) {limit : ℚ} (nonneg : 0 ≤ limit) :
    |clamp value (-limit) limit| ≤ limit := by
  rw [abs_le]
  simp only [clamp, lt_rat, decide_eq_true_eq]
  split_ifs <;> constructor <;> linarith

/-- Clamping to a symmetric range leaves what is in it. -/
theorem clamp_rat_of_abs_le {value limit : ℚ} (bound : |value| ≤ limit) :
    clamp value (-limit) limit = value := by
  obtain ⟨hLow, hHigh⟩ := abs_le.mp bound
  simp only [clamp, lt_rat, decide_eq_true_eq, if_neg (not_lt.mpr hLow), if_neg (not_lt.mpr hHigh)]

theorem abs_rat_eq (q : ℚ) : |q| = (q.num.natAbs : ℚ) / q.den := by
  have hDen : (0 : ℚ) < q.den := by exact_mod_cast q.den_pos
  conv_lhs => rw [← Rat.num_div_den q, abs_div, abs_of_pos hDen, ← Int.cast_abs]
  rw [Int.abs_eq_natAbs, Int.cast_natCast]

theorem trunc_eq_floor {q : ℚ} (nonneg : 0 ≤ q) : trunc q = ⌊q⌋ := by
  rw [trunc_rat, Int.tdiv_eq_ediv_of_nonneg (Rat.num_nonneg.mpr nonneg), Rat.floor_def']

theorem trunc_rat_neg (q : ℚ) : trunc (-q) = -trunc q := by
  rw [trunc_rat, trunc_rat, Rat.num_neg_eq_neg_num, Rat.den_neg_eq_den, Int.neg_tdiv]

theorem natAbs_trunc_rat (q : ℚ) : (trunc q).natAbs = q.num.natAbs / q.den := by
  rw [trunc_rat, Int.natAbs_tdiv, Int.natAbs_natCast]
  rfl

/-- Truncation yields zero exactly on the open interval `(-1, 1)`. -/
theorem trunc_rat_eq_zero_iff (q : ℚ) : trunc q = 0 ↔ |q| < 1 := by
  have hDen : (0 : ℚ) < q.den := by exact_mod_cast q.den_pos
  rw [← Int.natAbs_eq_zero, natAbs_trunc_rat, abs_rat_eq, div_lt_one hDen, Nat.cast_lt]
  exact Nat.div_eq_zero_iff_lt q.den_pos

theorem natAbs_trunc_rat_le (q : ℚ) (n : Nat) (bound : |q| ≤ n) : (trunc q).natAbs ≤ n := by
  have hDen : (0 : ℚ) < q.den := by exact_mod_cast q.den_pos
  have hNum : (q.num.natAbs : ℚ) ≤ n * q.den := by
    rwa [abs_rat_eq, div_le_iff₀ hDen] at bound
  rw [natAbs_trunc_rat]
  exact Nat.div_le_of_le_mul (by rw [Nat.mul_comm]; exact_mod_cast hNum)

/-- Within the range of the type, the conversion to `int16_t` truncates. -/
theorem toInt_castInt16_rat (q : ℚ) (bound : |q| ≤ 32767) : (castInt16 q).toInt = trunc q := by
  have hRange := natAbs_trunc_rat_le q 32767 (by exact_mod_cast bound)
  have hSize : ((Int16.size : Nat) : Int) = 65536 := rfl
  rw [castInt16, Int16.toInt_ofInt, Int.bmod_eq_of_le (by omega) (by omega)]

/-- Within the range of the type, the conversion to `int16_t` yields zero exactly
on the open interval `(-1, 1)`. -/
theorem castInt16_rat_eq_zero_iff (q : ℚ) (bound : |q| ≤ 32767) : castInt16 q = 0 ↔ |q| < 1 := by
  rw [← trunc_rat_eq_zero_iff, ← toInt_castInt16_rat q bound, ← Int16.toInt_zero, Int16.toInt_inj]

end FloatModel

/-- What the text conversions of the standard library read: a number, or one of
the words for infinity and NaN. -/
inductive FloatText where
  | finite (value : ℚ)
  | infinity (negative : Bool)
  | nan

/-- A `float` that can also come from outside: copied from four bytes of a
message, or converted from text. -/
class FloatSource (F : Type) extends FloatModel F where
  ofBits : UInt32 → F
  ofText : FloatText → F

/-- A `float` of four bytes, which can be copied out and back. -/
class FloatBits (F : Type) extends FloatSource F where
  toBits : F → UInt32
  toBits_ofBits : ∀ bits, toBits (ofBits bits) = bits
  ofBits_toBits : ∀ value, ofBits (toBits value) = value

/-- The rationals with a NaN. Every operation on NaN yields NaN and every
comparison with it is false; division by zero yields NaN as well, so this model
has no infinities. -/
inductive NanRat where
  | num (value : ℚ)
  | nan
  deriving DecidableEq

namespace NanRat

def map₂ (f : ℚ → ℚ → NanRat) : NanRat → NanRat → NanRat
  | num a, num b => f a b
  | _, _ => nan

def compare (f : ℚ → ℚ → Bool) : NanRat → NanRat → Bool
  | num a, num b => f a b
  | _, _ => false

/-- The value of a finite IEEE 754 single; infinities and NaNs are read as NaN. -/
def ofBits (bits : UInt32) : NanRat :=
  let exponent : Nat := (bits.toNat >>> 23) % 256
  let fraction : Nat := bits.toNat % 2 ^ 23
  let magnitude : ℚ :=
    if exponent = 0 then (fraction : ℚ) / 2 ^ 149
    else ((2 ^ 23 + fraction : Nat) : ℚ) * 2 ^ exponent / 2 ^ 150
  if exponent = 255 then nan
  else num (if bits.toNat < 2 ^ 31 then magnitude else -magnitude)

instance : FloatSource NanRat where
  zero := num 0
  add := map₂ fun a b => num (a + b)
  sub := map₂ fun a b => num (a - b)
  mul := map₂ fun a b => num (a * b)
  div := map₂ fun a b => if b = 0 then nan else num (a / b)
  neg | num a => num (-a)
      | nan => nan
  lit := num
  lt := compare fun a b => decide (a < b)
  eq := compare fun a b => decide (a = b)
  trunc | num a => FloatModel.trunc a
        | nan => 0
  ofBits := ofBits
  ofText | .finite value => num value
         | _ => nan

theorem zero_def : (0 : NanRat) = num 0 := rfl
@[simp] theorem lit_def (q : ℚ) : (FloatModel.lit q : NanRat) = num q := rfl
@[simp] theorem num_add (a b : ℚ) : num a + num b = num (a + b) := rfl
@[simp] theorem num_sub (a b : ℚ) : num a - num b = num (a - b) := rfl
@[simp] theorem num_mul (a b : ℚ) : num a * num b = num (a * b) := rfl
@[simp] theorem num_div (a b : ℚ) : num a / num b = if b = 0 then nan else num (a / b) := rfl
@[simp] theorem neg_num (a : ℚ) : -num a = num (-a) := rfl
@[simp] theorem nan_add (x : NanRat) : nan + x = nan := rfl
@[simp] theorem add_nan (x : NanRat) : x + nan = nan := by cases x <;> rfl
@[simp] theorem nan_sub (x : NanRat) : nan - x = nan := rfl
@[simp] theorem sub_nan (x : NanRat) : x - nan = nan := by cases x <;> rfl
@[simp] theorem nan_mul (x : NanRat) : nan * x = nan := rfl
@[simp] theorem mul_nan (x : NanRat) : x * nan = nan := by cases x <;> rfl
@[simp] theorem nan_div (x : NanRat) : nan / x = nan := rfl
@[simp] theorem neg_nan : -nan = nan := rfl
@[simp] theorem eq_num (a b : ℚ) : FloatModel.eq (num a) (num b) = decide (a = b) := rfl
@[simp] theorem lt_num (a b : ℚ) : FloatModel.lt (num a) (num b) = decide (a < b) := rfl
@[simp] theorem lt_nan (x : NanRat) : FloatModel.lt x nan = false := by cases x <;> rfl
@[simp] theorem nan_lt (x : NanRat) : FloatModel.lt nan x = false := rfl

@[simp] theorem clamp_nan (low high : NanRat) : FloatModel.clamp nan low high = nan := by
  simp [FloatModel.clamp]

theorem clamp_num (value low high : ℚ) :
    FloatModel.clamp (num value) (num low) (num high) = num (FloatModel.clamp value low high) := by
  by_cases hLow : value < low <;> by_cases hHigh : high < value <;>
    simp [FloatModel.clamp, hLow, hHigh]

/-- The value is a number within the limits: both comparisons are true. -/
def Within (low high value : NanRat) : Prop :=
  FloatModel.le low value = true ∧ FloatModel.le value high = true

instance (low high value : NanRat) : Decidable (Within low high value) :=
  inferInstanceAs (Decidable (_ ∧ _))

theorem within_num (low high value : ℚ) :
    Within (num low) (num high) (num value) ↔ low ≤ value ∧ value ≤ high := by
  simp [Within, FloatModel.le, le_iff_lt_or_eq]

theorem not_within_nan (low high : NanRat) : ¬ Within low high nan := by
  cases low <;> exact fun h => Bool.noConfusion h.1

theorem Within.exists_num {low high value : NanRat} (h : Within low high value) :
    ∃ a, value = num a := by
  cases value with
  | num a => exact ⟨a, rfl⟩
  | nan => exact absurd h (not_within_nan low high)

/-- Clamping to limits in order brings every number within them, and lets a NaN
through. -/
theorem within_clamp_iff {low high : ℚ} (order : low ≤ high) (value : NanRat) :
    Within (num low) (num high) (FloatModel.clamp value (num low) (num high)) ↔ value ≠ nan := by
  cases value with
  | nan => exact iff_of_false (by rw [clamp_nan]; exact not_within_nan _ _) (fun h => h rfl)
  | num a =>
      refine iff_of_true ?_ (by simp)
      rw [clamp_num, within_num, FloatModel.clamp]
      simp only [FloatModel.lt_rat, decide_eq_true_eq]
      split_ifs <;> constructor <;> linarith

theorem num_add_ne_nan_iff (a : ℚ) (delta : NanRat) : num a + delta ≠ nan ↔ delta ≠ nan := by
  cases delta <;> simp

/-- Clamping keeps exactly zero at zero, a NaN included in what is not zero. -/
theorem clamp_eq_zero_iff (value : NanRat) (limit : ℚ) (positive : 0 < limit) :
    FloatModel.clamp value (num (-limit)) (num limit) = 0 ↔ value = 0 := by
  cases value with
  | nan => simp
  | num a =>
      rw [clamp_num, zero_def, num.injEq, num.injEq]
      exact FloatModel.clamp_rat_eq_zero_iff a limit positive

end NanRat

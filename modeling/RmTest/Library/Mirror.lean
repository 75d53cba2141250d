import RmTest.Library.FloatModel
import Mathlib.Tactic.Ring

/-! Arithmetic in which a change of sign goes through every operation, as exact
arithmetic has it and hardware floats, with their two zeros, do not. What is computed
from negated inputs by limits, magnitudes and comparisons with zero is then negated or
the same. -/

open FloatModel

/-- The laws of the change of sign. The order is only used through what a sign can do to
it; a value that is neither positive nor negative is its own negative. -/
class SignSymmetric (F : Type) [FloatModel F] : Prop where
  neg_neg (a : F) : -(-a) = a
  neg_zero : -(0 : F) = 0
  neg_add (a b : F) : -a + -b = -(a + b)
  neg_sub (a b : F) : -a - -b = -(a - b)
  neg_sub_left (a b : F) : -a - b = -(a + b)
  neg_add_right (a b : F) : -a + b = -(a - b)
  mul_neg (a b : F) : a * -b = -(a * b)
  neg_div (a b : F) : -a / b = -(a / b)
  trunc_neg (a : F) : trunc (-a) = -trunc a
  lt_neg (a b : F) : lt (-a) (-b) = lt b a
  lt_asymm (a b : F) : lt a b = true → lt b a = false
  negative_of_between (a limit : F) : lt limit a = true → lt a (-limit) = true → lt limit 0 = true
  neg_of_unordered (a : F) : lt a 0 = false → lt 0 a = false → -a = a

instance : SignSymmetric ℚ where
  neg_neg := neg_neg
  neg_zero := neg_zero
  neg_add a b := by ring
  neg_sub a b := by ring
  neg_sub_left a b := by ring
  neg_add_right a b := by ring
  mul_neg := mul_neg
  neg_div a b := neg_div b a
  trunc_neg a := by simp [trunc_rat]
  lt_neg a b := by simp
  lt_asymm a b h := by
    simp only [lt_rat, decide_eq_true_eq, decide_eq_false_iff_not] at h ⊢
    exact h.not_gt
  negative_of_between a limit hLow hHigh := by
    simp only [lt_rat, decide_eq_true_eq] at hLow hHigh ⊢
    linarith
  neg_of_unordered a hLow hHigh := by
    simp only [lt_rat, decide_eq_false_iff_not, not_lt] at hLow hHigh
    rw [le_antisymm hHigh hLow, neg_zero]

namespace NanRat

/-- A law of two operands that the rationals have and NaN does not break. -/
theorem law_of_num {f g : NanRat → NanRat → NanRat}
    (nums : ∀ a b, f (num a) (num b) = g (num a) (num b)) (left : ∀ b, f nan b = g nan b)
    (right : ∀ a, f (num a) nan = g (num a) nan) (a b : NanRat) : f a b = g a b := by
  cases a with
  | nan => exact left b
  | num a =>
      cases b with
      | nan => exact right a
      | num b => exact nums a b

theorem neg_div_num (a b : ℚ) : -num a / num b = -(num a / num b) := by
  rw [neg_num, num_div, num_div, neg_div]
  split_ifs <;> rfl

end NanRat

open NanRat in
instance : SignSymmetric NanRat where
  neg_neg a := by
    cases a with
    | nan => rfl
    | num a => exact congrArg num (neg_neg a)
  neg_zero := congrArg num neg_zero
  neg_add :=
    law_of_num (fun a b => congrArg num (SignSymmetric.neg_add a b)) (fun _ => rfl) (fun _ => rfl)
  neg_sub :=
    law_of_num (fun a b => congrArg num (SignSymmetric.neg_sub a b)) (fun _ => rfl) (fun _ => rfl)
  neg_sub_left :=
    law_of_num (fun a b => congrArg num (SignSymmetric.neg_sub_left a b)) (fun _ => rfl)
      (fun _ => rfl)
  neg_add_right :=
    law_of_num (fun a b => congrArg num (SignSymmetric.neg_add_right a b)) (fun _ => rfl)
      (fun _ => rfl)
  mul_neg := law_of_num (fun a b => congrArg num (mul_neg a b)) (fun _ => rfl) (fun _ => rfl)
  neg_div := law_of_num neg_div_num (fun _ => rfl) (fun _ => rfl)
  trunc_neg a := by
    cases a with
    | nan => rfl
    | num a => exact SignSymmetric.trunc_neg a
  lt_neg a b := by
    cases a with
    | nan => rw [neg_nan, nan_lt, lt_nan]
    | num a =>
        cases b with
        | nan => rw [neg_nan, nan_lt, lt_nan]
        | num b => exact SignSymmetric.lt_neg a b
  lt_asymm a b h := by
    cases a with
    | nan => exact lt_nan b
    | num a =>
        cases b with
        | nan => exact nan_lt (num a)
        | num b => exact SignSymmetric.lt_asymm a b h
  negative_of_between a limit hLow hHigh := by
    cases limit with
    | nan => exact hLow
    | num limit =>
        cases a with
        | nan => exact absurd hHigh (by rw [nan_lt]; exact Bool.false_ne_true)
        | num a => exact SignSymmetric.negative_of_between a limit hLow hHigh
  neg_of_unordered a hLow hHigh := by
    cases a with
    | nan => rfl
    | num a => exact congrArg num (SignSymmetric.neg_of_unordered a hLow hHigh)

namespace SignSymmetric

variable {F : Type} [FloatModel F] [SignSymmetric F]

theorem lt_neg_zero (a : F) : lt (-a) 0 = lt 0 a := by
  have h := lt_neg a 0
  rwa [neg_zero] at h

theorem lt_zero_neg (a : F) : lt 0 (-a) = lt a 0 := by
  have h := lt_neg 0 a
  rwa [neg_zero] at h

/-- A comparison with a limit on one side is one on the other. -/
theorem lt_neg_right (a b : F) : lt a (-b) = lt b (-a) := by
  rw [← lt_neg (-b) a, neg_neg]

theorem fabs_neg (a : F) : fabs (-a) = fabs a := by
  rw [fabs, fabs, lt_neg_zero, neg_neg]
  cases hPositive : lt 0 a with
  | true => rw [if_pos rfl, lt_asymm 0 a hPositive, if_neg Bool.false_ne_true]
  | false =>
      rw [if_neg Bool.false_ne_true]
      cases hNegative : lt a 0 with
      | true => rw [if_pos rfl]
      | false =>
          rw [if_neg Bool.false_ne_true]
          exact neg_of_unordered a hNegative hPositive

/-- Both sides of a limit that is not negative are not passed at once. -/
theorem lt_neg_of_lt {a limit : F} (nonneg : lt limit 0 = false) (above : lt limit a = true) :
    lt a (-limit) = false := by
  cases hBelow : lt a (-limit) with
  | false => rfl
  | true =>
      have hLimit := negative_of_between a limit above hBelow
      rw [nonneg] at hLimit
      cases hLimit

/-- A limit to both sides treats them alike. -/
theorem clamp_neg {limit : F} (nonneg : lt limit 0 = false) (a : F) :
    clamp (-a) (-limit) limit = -clamp a (-limit) limit := by
  rw [clamp, clamp, lt_neg, lt_neg_right limit a]
  cases hAbove : lt limit a with
  | true =>
      rw [lt_neg_of_lt nonneg hAbove]
      rfl
  | false =>
      cases lt a (-limit) with
      | true => exact (neg_neg limit).symm
      | false => rfl

end SignSymmetric

import RmTest.Debug.PidDisplay
import RmTest.Modules.Chassis
import Mathlib.Tactic.NormNum.Ineq

/-! What the shell shows of a tuning, against the tuning, in exact arithmetic. -/
namespace RmTest.Debug

open Channels Services FloatModel Modules

/-- The value that is shown. -/
def MilliParts.value (parts : MilliParts) : ℚ :=
  (if parts.sign = '-' then -1 else 1) * (parts.integer + parts.fraction / 1000)

/-- A value shown to the last digit. -/
structure Faithful (value : ℚ) (parts : MilliParts) : Prop where
  near : |parts.value - value| ≤ 5 / 10000
  fraction_lt : parts.fraction < 1000

/-- A value that stays in 32 bits when it is shown. -/
def Showable (value : ℚ) : Prop := |value * 1000| + 1 / 2 < 2 ^ 31

/-- The thousandths that a value is rounded to, without its sign. -/
def thousandths (value : ℚ) : Int := ⌊|value * 1000| + 1 / 2⌋

theorem thousandths_nonneg (value : ℚ) : 0 ≤ thousandths value :=
  Int.floor_nonneg.mpr (by positivity)

theorem thousandths_lt_iff (value : ℚ) : thousandths value < 2 ^ 31 ↔ Showable value := by
  rw [thousandths, Int.floor_lt, Showable]
  norm_num

/-- Rounding is off by half a thousandth at most. -/
theorem abs_thousandths_sub_le (value : ℚ) :
    |(thousandths value : ℚ) / 1000 - (|value|)| ≤ 5 / 10000 := by
  have hLow := Int.floor_le (|value * 1000| + 1 / 2)
  have hHigh := Int.lt_floor_add_one (|value * 1000| + 1 / 2)
  have hScaled : |value * 1000| = |value| * 1000 := by
    rw [abs_mul, abs_of_pos (by norm_num : (0 : ℚ) < 1000)]
  rw [hScaled] at hLow hHigh
  rw [thousandths, hScaled, abs_le]
  constructor <;> linarith

theorem toMilliFixed_eq (value : ℚ) :
    toMilliFixed value =
      int32 (if 0 ≤ value * 1000 then thousandths value else -thousandths value) := by
  have hHalf : (lit (5 / 10) : ℚ) = 1 / 2 := by norm_num [lit_rat]
  rw [toMilliFixed, hHalf]
  simp only [lit_rat, le_rat, decide_eq_true_eq]
  split_ifs with hSign
  · rw [trunc_eq_floor (by linarith), thousandths, abs_of_nonneg hSign]
  · have hNegative : value * 1000 < 0 := not_le.mp hSign
    have hFlip : value * 1000 - 1 / 2 = -(|value * 1000| + 1 / 2) := by
      rw [abs_of_neg hNegative]
      ring
    rw [hFlip, trunc_rat_neg, trunc_eq_floor (by positivity), thousandths]

theorem milliToParts_nonneg {milli : Int} (nonneg : 0 ≤ milli) :
    milliToParts milli = some ⟨'+', milli.toNat / 1000, milli.toNat % 1000⟩ := by
  have hNot : ¬milli < 0 := not_lt.mpr nonneg
  simp [milliToParts, hNot]

theorem milliToParts_neg {milli : Int} (negative : milli < 0) :
    milliToParts milli =
      (int32 (-milli)).map fun absMilli => ⟨'-', absMilli.toNat / 1000, absMilli.toNat % 1000⟩ := by
  simp only [milliToParts, if_pos negative]
  cases int32 (-milli) <;> rfl

theorem int32_of_lt {n : Int} (nonneg : 0 ≤ n) (small : n < 2 ^ 31) : int32 n = some n :=
  if_pos ⟨by omega, small⟩

theorem int32_of_ge {n : Int} (large : 2 ^ 31 ≤ n) : int32 n = none :=
  if_neg fun h => absurd h.2 (not_lt.mpr large)

/-- Integer part and fraction make the rounded value up again. -/
theorem div_add_mod_cast (n : Nat) :
    ((n / 1000 : Nat) : ℚ) + ((n % 1000 : Nat) : ℚ) / 1000 = (n : ℚ) / 1000 := by
  have hParts : (n : ℚ) = 1000 * ((n / 1000 : Nat) : ℚ) + ((n % 1000 : Nat) : ℚ) := by
    exact_mod_cast (Nat.div_add_mod n 1000).symm
  linarith

/-- The two conversions of a value. -/
def showValue (value : ℚ) : Option MilliParts := (toMilliFixed value).bind milliToParts

theorem faithful_of_nonneg {value : ℚ} (nonneg : 0 ≤ value) {n : Nat}
    (hRounded : thousandths value = n) : Faithful value ⟨'+', n / 1000, n % 1000⟩ := by
  have hNear := abs_thousandths_sub_le value
  rw [hRounded, abs_of_nonneg nonneg, Int.cast_natCast] at hNear
  constructor
  · rwa [MilliParts.value, if_neg (show '+' ≠ '-' by decide), one_mul, div_add_mod_cast]
  · exact Nat.mod_lt _ (by decide)

theorem faithful_of_neg {value : ℚ} (negative : value < 0) {n : Nat}
    (hRounded : thousandths value = n) : Faithful value ⟨'-', n / 1000, n % 1000⟩ := by
  have hNear := abs_thousandths_sub_le value
  rw [hRounded, abs_of_neg negative, Int.cast_natCast, ← abs_neg] at hNear
  constructor
  · rw [MilliParts.value, if_pos rfl, div_add_mod_cast]
    rwa [show -1 * ((n : ℚ) / 1000) - value = -((n : ℚ) / 1000 - -value) by ring]
  · exact Nat.mod_lt _ (by decide)

/-- Nothing is shown for a value that does not fit. -/
theorem showValue_of_not_showable {value : ℚ} (large : ¬Showable value) :
    showValue value = none := by
  have hLarge : 2 ^ 31 ≤ thousandths value :=
    not_lt.mp fun h => large ((thousandths_lt_iff value).mp h)
  rw [showValue, toMilliFixed_eq]
  split_ifs with hSign
  · rw [int32_of_ge hLarge]
    rfl
  · by_cases hMin : thousandths value = 2 ^ 31
    · -- The smallest number is converted, but it cannot be negated.
      rw [hMin]
      decide
    · have hOut : ¬(-2 ^ 31 ≤ -thousandths value ∧ -thousandths value < 2 ^ 31) := by omega
      rw [int32, if_neg hOut]
      rfl

/-- A value that fits is shown faithfully. -/
theorem showValue_of_showable {value : ℚ} (small : Showable value) :
    ∃ parts, showValue value = some parts ∧ Faithful value parts := by
  have hSmall := (thousandths_lt_iff value).mpr small
  have hNonneg := thousandths_nonneg value
  obtain ⟨n, hRounded⟩ := Int.eq_ofNat_of_zero_le hNonneg
  rw [showValue, toMilliFixed_eq]
  split_ifs with hSign
  · rw [int32_of_lt hNonneg hSmall, Option.bind_some, milliToParts_nonneg hNonneg, hRounded]
    exact ⟨_, rfl, faithful_of_nonneg (by linarith) hRounded⟩
  · have hNegative : value < 0 := by linarith
    have hFits : -2 ^ 31 ≤ -thousandths value ∧ -thousandths value < 2 ^ 31 := by omega
    rw [int32, if_pos hFits, Option.bind_some]
    by_cases hZero : thousandths value = 0
    · have hNear := abs_thousandths_sub_le value
      rw [hZero]
      refine ⟨_, milliToParts_nonneg (le_refl _), ?_, by decide⟩
      rw [hZero, Int.cast_zero, zero_div, zero_sub, abs_neg, abs_abs] at hNear
      simpa [MilliParts.value] using hNear
    · have hLess : -thousandths value < 0 := by omega
      rw [milliToParts_neg hLess, neg_neg, int32_of_lt hNonneg hSmall, hRounded]
      exact ⟨_, rfl, faithful_of_neg hNegative hRounded⟩

/-- A value is shown faithfully exactly when it stays in 32 bits. -/
theorem showValue_iff (value : ℚ) :
    (∃ parts, showValue value = some parts ∧ Faithful value parts) ↔ Showable value := by
  constructor
  · rintro ⟨parts, hShown, -⟩
    by_contra hLarge
    rw [showValue_of_not_showable hLarge] at hShown
    cases hShown
  · exact showValue_of_showable

/-- The values in the order in which they are shown. -/
def values {Value : Type} (tuning : SpeedPidTuning Value) : List Value :=
  [tuning.kp, tuning.ki, tuning.kd, tuning.iLimit, tuning.outLimit]

/-- The values are shown one by one, although all conversions to integers come first. -/
theorem showTuning_eq_some_iff (tuning : SpeedPidTuning ℚ) (shown : SpeedPidTuning MilliParts) :
    showTuning tuning = some shown ↔
      List.Forall₂ (fun value parts => showValue value = some parts) (values tuning)
        (values shown) := by
  obtain ⟨kp, ki, kd, iLimit, outLimit⟩ := shown
  simp only [values, List.forall₂_cons, List.Forall₂.nil, and_true, showTuning, showValue, bind,
    Option.bind_eq_some_iff, pure, Option.some.injEq, SpeedPidTuning.mk.injEq]
  constructor
  · rintro ⟨kpM, hKpM, kiM, hKiM, kdM, hKdM, iM, hIM, outM, hOutM, _, hKp, _, hKi, _, hKd, _, hI, _,
      hOut, rfl, rfl, rfl, rfl, rfl⟩
    exact ⟨⟨kpM, hKpM, hKp⟩, ⟨kiM, hKiM, hKi⟩, ⟨kdM, hKdM, hKd⟩, ⟨iM, hIM, hI⟩, ⟨outM, hOutM, hOut⟩⟩
  · rintro ⟨⟨kpM, hKpM, hKp⟩, ⟨kiM, hKiM, hKi⟩, ⟨kdM, hKdM, hKd⟩, ⟨iM, hIM, hI⟩, outM, hOutM, hOut⟩
    exact ⟨kpM, hKpM, kiM, hKiM, kdM, hKdM, iM, hIM, outM, hOutM, _, hKp, _, hKi, _, hKd, _, hI, _,
      hOut, rfl, rfl, rfl, rfl, rfl⟩

/-- A tuning is shown faithfully exactly when each of its values stays in 32 bits. -/
theorem showTuning_faithful_iff (tuning : SpeedPidTuning ℚ) :
    (∃ shown, showTuning tuning = some shown ∧
        List.Forall₂ Faithful (values tuning) (values shown)) ↔
      ∀ value ∈ values tuning, Showable value := by
  simp only [showTuning_eq_some_iff]
  simp only [values, List.forall₂_cons, List.Forall₂.nil, and_true, List.forall_mem_cons,
    List.not_mem_nil, IsEmpty.forall_iff, implies_true, ← showValue_iff]
  constructor
  · rintro ⟨shown, ⟨hKp, hKi, hKd, hI, hOut⟩, hKp', hKi', hKd', hI', hOut'⟩
    exact ⟨⟨_, hKp, hKp'⟩, ⟨_, hKi, hKi'⟩, ⟨_, hKd, hKd'⟩, ⟨_, hI, hI'⟩, ⟨_, hOut, hOut'⟩⟩
  · rintro ⟨⟨kp, hKp, hKp'⟩, ⟨ki, hKi, hKi'⟩, ⟨kd, hKd, hKd'⟩, ⟨i, hI, hI'⟩, out, hOut, hOut'⟩
    exact ⟨⟨kp, ki, kd, i, out⟩, ⟨hKp, hKi, hKd, hI, hOut⟩, hKp', hKi', hKd', hI', hOut'⟩

/-- After `SetSpeedPidTuning` has accepted a tuning, `CmdPidGet` shows it without overflow,
and faithfully, exactly when each of the five values stays in 32 bits as thousandths. -/
theorem cmdPidGet_faithful_iff (m : ChassisModule ℚ) (tuning : SpeedPidTuning ℚ)
    (accepted : (m.setSpeedPidTuning tuning.kp tuning.ki tuning.kd tuning.iLimit
      tuning.outLimit).2 = .ok ()) :
    let set := (m.setSpeedPidTuning tuning.kp tuning.ki tuning.kd tuning.iLimit tuning.outLimit).1
    (∃ shown, cmdPidGet (.ok set.getSpeedPidTuning) = some (.ok shown) ∧
        List.Forall₂ Faithful (values tuning) (values shown)) ↔
      ∀ value ∈ values tuning, Showable value := by
  have hAccepted : ChassisModule.Accepts tuning.iLimit tuning.outLimit := by
    by_contra hRejected
    rw [ChassisModule.setSpeedPidTuning_rejected m _ _ _ hRejected] at accepted
    cases accepted
  have hGet : (m.setSpeedPidTuning tuning.kp tuning.ki tuning.kd tuning.iLimit
      tuning.outLimit).1.getSpeedPidTuning = tuning := by
    rw [ChassisModule.setSpeedPidTuning_accepted m hAccepted]
    rfl
  rw [← showTuning_faithful_iff]
  simp only [hGet, cmdPidGet, Option.map_eq_some_iff, Except.ok.injEq, exists_eq_right]

/-- The tuning that the chassis starts with is shown. -/
theorem defaultTuning_shown :
    ∃ shown, cmdPidGet (.ok ((ChassisModule.zeroed ℚ).setSpeedPidTuning 3 (2 / 10) 0 500
        16384).1.getSpeedPidTuning) = some (.ok shown) ∧
      List.Forall₂ Faithful [3, 2 / 10, 0, 500, 16384] (values shown) := by
  refine (cmdPidGet_faithful_iff (ChassisModule.zeroed ℚ) ⟨3, 2 / 10, 0, 500, 16384⟩ rfl).mpr ?_
  simp only [values, List.forall_mem_cons, Showable]
  norm_num [abs_of_pos]

/-- A gain of three millions is accepted, and its thousandths do not fit. -/
theorem large_gain_not_shown :
    ((ChassisModule.zeroed ℚ).setSpeedPidTuning 3000000 0 0 1 1).2 = .ok () ∧
      cmdPidGet (.ok ((ChassisModule.zeroed ℚ).setSpeedPidTuning 3000000 0 0 1
        1).1.getSpeedPidTuning) = none := by
  decide +kernel

end RmTest.Debug

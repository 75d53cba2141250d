import RmTest.Algorithms.Constrain
import Mathlib.Algebra.Order.Archimedean.Basic
import Mathlib.Tactic.Ring

/-! The loops that bring a value into an interval, in exact arithmetic. They end when the
interval has a length. -/
namespace RmTest.Algorithms.Constrain

open FloatModel Repeat

variable {input minValue maxValue : ℚ}

/-- Whole lengths lie between two values. -/
def Apart (len input y : ℚ) : Prop := ∃ k : ℤ, input - y = k * len

theorem apart_refl (len input : ℚ) : Apart len input input := ⟨0, by simp⟩

theorem Apart.sub {len y : ℚ} (apart : Apart len input y) : Apart len input (y - len) := by
  obtain ⟨k, hApart⟩ := apart
  refine ⟨k + 1, ?_⟩
  push_cast
  linarith

theorem Apart.add {len y : ℚ} (apart : Apart len input y) : Apart len input (y + len) := by
  obtain ⟨k, hApart⟩ := apart
  refine ⟨k - 1, ?_⟩
  push_cast
  linarith

/-- What a call should return. -/
def Wrapped (input minValue maxValue y : ℚ) : Prop :=
  minValue ≤ y ∧ y ≤ maxValue ∧ Apart (maxValue - minValue) input y

section Loop

/-! The two loops are one, in how far a value is beyond the end that it comes from. -/

variable {pass : ℚ → Pass ℚ ℚ} {beyond move : ℚ → ℚ} {len : ℚ}

/-- At most so many lengths beyond one end, and not beyond the other. -/
def Approaching (beyond : ℚ → ℚ) (len input : ℚ) (left : Nat) (y : ℚ) : Prop :=
  -len ≤ beyond y ∧ beyond y ≤ left * len ∧ Apart len input y

/-- A move from beyond the end by one length leaves one less. -/
theorem pass_advances
    (passes : ∀ y, pass y = if 0 < beyond y then .next (move y) else .done y)
    (closer : ∀ y, beyond (move y) = beyond y - len)
    (moves : ∀ y, Apart len input y → Apart len input (move y)) (left : Nat) (y : ℚ)
    (approaching : Approaching beyond len input left y) :
    Advances pass (Approaching beyond len input)
      (fun y => -len ≤ beyond y ∧ beyond y ≤ 0 ∧ Apart len input y) left y := by
  obtain ⟨hInside, hLeft, hApart⟩ := approaching
  have hPass := passes y
  by_cases hBeyond : 0 < beyond y
  · rw [if_pos hBeyond] at hPass
    cases left with
    | zero =>
        rw [Nat.cast_zero, zero_mul] at hLeft
        exact absurd hBeyond (not_lt.mpr hLeft)
    | succ left =>
        push_cast at hLeft
        refine .next left _ hPass (Nat.lt_succ_self left) ⟨?_, ?_, moves y hApart⟩
        · rw [closer]
          linarith
        · rw [closer]
          linarith
  · rw [if_neg hBeyond] at hPass
    exact .done y hPass ⟨hInside, not_lt.mp hBeyond, hApart⟩

theorem run_pass_returns
    (passes : ∀ y, pass y = if 0 < beyond y then .next (move y) else .done y)
    (closer : ∀ y, beyond (move y) = beyond y - len)
    (moves : ∀ y, Apart len input y → Apart len input (move y)) (positive : 0 < len)
    (inside : -len ≤ beyond input) :
    ∃ y, Returns (fun budget => run pass budget input) y ∧
      -len ≤ beyond y ∧ beyond y ≤ 0 ∧ Apart len input y := by
  obtain ⟨left, hLeft⟩ := exists_nat_ge (beyond input / len)
  exact returns_of_advances (pass_advances passes closer moves)
    ⟨inside, (div_le_iff₀ positive).mp hLeft, apart_refl len input⟩

end Loop

theorem run_downPass_returns (order : minValue < maxValue) (above : maxValue < input) :
    ∃ y, Returns (fun budget => run (downPass maxValue (maxValue - minValue)) budget input) y ∧
      Wrapped input minValue maxValue y := by
  have hPasses (y : ℚ) : downPass maxValue (maxValue - minValue) y =
      if 0 < y - maxValue then .next (y - (maxValue - minValue)) else .done y := by
    simp [downPass]
  obtain ⟨y, hReturns, hMin, hMax, hApart⟩ := run_pass_returns hPasses (fun y => by ring)
    (fun y hApart => hApart.sub) (sub_pos.mpr order) (by linarith)
  exact ⟨y, hReturns, by linarith, by linarith, hApart⟩

theorem run_upPass_returns (order : minValue < maxValue) (below : input < minValue) :
    ∃ y, Returns (fun budget => run (upPass minValue (maxValue - minValue)) budget input) y ∧
      Wrapped input minValue maxValue y := by
  have hPasses (y : ℚ) : upPass minValue (maxValue - minValue) y =
      if 0 < minValue - y then .next (y + (maxValue - minValue)) else .done y := by
    simp [upPass]
  obtain ⟨y, hReturns, hMax, hMin, hApart⟩ := run_pass_returns hPasses (fun y => by ring)
    (fun y hApart => hApart.add) (sub_pos.mpr order) (by linarith)
  exact ⟨y, hReturns, by linarith, by linarith, hApart⟩

/-- The branches of a call, for limits in order. -/
theorem loopFloatConstrain_eq (order : minValue ≤ maxValue) (budget : Nat) :
    loopFloatConstrain budget input minValue maxValue =
      if maxValue < input then run (downPass maxValue (maxValue - minValue)) budget input
      else if input < minValue then run (upPass minValue (maxValue - minValue)) budget input
      else some input := by
  simp only [loopFloatConstrain, lt_rat, decide_eq_true_eq, if_neg (not_lt.mpr order)]

theorem loopFloatConstrain_wraps (order : minValue < maxValue) :
    ∃ y, Returns (fun budget => loopFloatConstrain budget input minValue maxValue) y ∧
      Wrapped input minValue maxValue y := by
  simp only [loopFloatConstrain_eq order.le]
  by_cases hAbove : maxValue < input
  · simp only [if_pos hAbove]
    exact run_downPass_returns order hAbove
  · by_cases hBelow : input < minValue
    · simp only [if_neg hAbove, if_pos hBelow]
      exact run_upPass_returns order hBelow
    · simp only [if_neg hAbove, if_neg hBelow]
      exact ⟨input, returns_const input, not_lt.mp hBelow, not_lt.mp hAbove, apart_refl _ input⟩

/-- Equal limits leave no length to go by: outside of them both loops go on for good. -/
theorem loopFloatConstrain_none {limit : ℚ} (outside : input ≠ limit) (budget : Nat) :
    loopFloatConstrain budget input limit limit = none := by
  rw [loopFloatConstrain_eq le_rfl, sub_self]
  rcases lt_or_gt_of_ne outside with hBelow | hAbove
  · rw [if_neg hBelow.not_gt, if_pos hBelow]
    refine run_none_of_invariant (fun y (hBelow : y < limit) => ⟨y, ?_, hBelow⟩) hBelow budget
    simp [upPass, hBelow]
  · rw [if_pos hAbove]
    refine run_none_of_invariant (fun y (hAbove : limit < y) => ⟨y, ?_, hAbove⟩) hAbove budget
    simp [downPass, hAbove]

theorem loopFloatConstrain_limit (limit : ℚ) :
    Returns (fun budget => loopFloatConstrain budget limit limit limit) limit := by
  have hOrder : limit ≤ limit := le_rfl
  simp only [loopFloatConstrain_eq hOrder, if_neg (lt_irrefl limit)]
  exact returns_const limit

/-- For limits in order, the loops come to a value of the interval that is whole lengths
away exactly if the limits differ or the input stands on both. -/
theorem loopFloatConstrain_wraps_iff (order : minValue ≤ maxValue) :
    (∃ y, Returns (fun budget => loopFloatConstrain budget input minValue maxValue) y ∧
        minValue ≤ y ∧ y ≤ maxValue ∧ ∃ k : ℤ, input - y = k * (maxValue - minValue)) ↔
      minValue < maxValue ∨ input = minValue := by
  rcases order.lt_or_eq with hOrder | rfl
  · exact iff_of_true (loopFloatConstrain_wraps hOrder) (.inl hOrder)
  · constructor
    · rintro ⟨y, hReturns, -⟩
      refine .inr (not_not.mp fun hOutside => ?_)
      exact not_returns (loopFloatConstrain_none hOutside) y hReturns
    · rintro (hOrder | rfl)
      · exact absurd hOrder (lt_irrefl minValue)
      · exact ⟨input, loopFloatConstrain_limit input, le_rfl, le_rfl, apart_refl _ input⟩

theorem loopFloatConstrain_wraps_iff_half_turn :
    (∃ y, Returns (fun budget => thetaFormat budget (270 : ℚ)) y ∧
        -180 ≤ y ∧ y ≤ 180 ∧ ∃ k : ℤ, (270 : ℚ) - y = k * (180 - -180)) ↔
      (-180 : ℚ) < 180 ∨ (270 : ℚ) = -180 :=
  loopFloatConstrain_wraps_iff (by norm_num)

/-- With both limits at zero, a call with one never returns. -/
theorem loopFloatConstrain_one_zero :
    ¬ ((0 : ℚ) ≤ 0 → ∃ y, Returns (fun budget => loopFloatConstrain budget (1 : ℚ) 0 0) y ∧
        0 ≤ y ∧ y ≤ 0 ∧ ∃ k : ℤ, (1 : ℚ) - y = k * (0 - 0)) := by
  intro hWraps
  obtain ⟨y, hReturns, -⟩ := hWraps le_rfl
  exact not_returns (loopFloatConstrain_none one_ne_zero) y hReturns

end RmTest.Algorithms.Constrain

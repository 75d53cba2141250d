import Mathlib.Algebra.Order.Field.Basic
import Mathlib.Tactic.Linarith
import Mathlib.Tactic.Ring

/-! Angles that are known up to whole turns. A count of the turns makes them one continuous
angle again, as long as it moves by less than half a turn at a time. -/
namespace Unwrap

variable {K : Type*} [Field K] [LinearOrder K]

/-- What the count of turns changes by from one angle to the next. `half` is half a turn. -/
def turn (half last now : K) : Int :=
  if half < now - last then -1 else if now - last < -half then 1 else 0

variable [IsStrictOrderedRing K]

/-- A multiple of a length that lies within less than the length of zero is zero. -/
theorem eq_zero_of_mul_lt {period : K} {k : Int} (positive : 0 < period)
    (above : -period < k * period) (below : k * period < period) : k = 0 := by
  have hLow : (-1 : K) < k := lt_of_mul_lt_mul_right (by rwa [neg_one_mul]) positive.le
  have hHigh : (k : K) < 1 := lt_of_mul_lt_mul_right (by rwa [one_mul]) positive.le
  have hLow' : -1 < k := by exact_mod_cast hLow
  have hHigh' : k < 1 := by exact_mod_cast hHigh
  omega

/-- The counted angle follows an angle that is the same up to turns and does not move too
fast. -/
theorem follows {period last now angle next : K} {count : Int} (positive : 0 < period)
    (held : angle = count * period + last) {turns : Int} (same : next = turns * period + now)
    (slow : |next - angle| < period / 2) (near : |now - last| < period * (3 / 2)) :
    next = (count + turn (period / 2) last now : Int) * period + now := by
  obtain ⟨hSlowLow, hSlowHigh⟩ := abs_lt.mp slow
  obtain ⟨hNearLow, hNearHigh⟩ := abs_lt.mp near
  have hMoved : next - angle = (turns - count : Int) * period + (now - last) := by
    rw [same, held]
    push_cast
    ring
  suffices hTurns : turns - count - turn (period / 2) last now = 0 by
    rw [same, show turns = count + turn (period / 2) last now by omega]
  apply eq_zero_of_mul_lt positive
  -- the angle moves by less than half a turn, and the count makes up for the rest
  · rw [turn]
    push_cast at hMoved ⊢
    split_ifs <;> linarith
  · rw [turn]
    push_cast at hMoved ⊢
    split_ifs <;> linarith

end Unwrap

import RmTest.Algorithms.AngleMath
import Mathlib.Algebra.Order.Archimedean.Basic
import Mathlib.Tactic.Ring

/-! The angle functions in exact arithmetic. All of them bring an angle back by whole turns,
and at the two ends of the range they keep the side that the angle comes from. -/
namespace RmTest.Algorithms.AngleMath

open FloatModel Repeat

/-- `y` is the angle `x` brought back to the range of one turn, whose half is `p`. -/
structure Wraps (p x y : ℚ) : Prop where
  turns : ∃ k : ℤ, x - y = k * (2 * p)
  low : -p ≤ y
  high : y ≤ p
  at_high : y = p → 0 < x
  at_low : y = -p → x < 0

variable {p : ℚ}

/-- There is one way to bring an angle back. -/
theorem Wraps.unique (positive : 0 < p) {x y z : ℚ} (first : Wraps p x y) (second : Wraps p x z) :
    y = z := by
  obtain ⟨k, hFirst⟩ := first.turns
  obtain ⟨l, hSecond⟩ := second.turns
  have hDifference : z - y = ((k - l : ℤ) : ℚ) * (2 * p) := by
    rw [Int.cast_sub, sub_mul, ← hFirst, ← hSecond]
    ring
  have hLow := first.low
  have hHigh := first.high
  have hLow' := second.low
  have hHigh' := second.high
  rcases lt_trichotomy (k - l) 0 with hLess | hSame | hMore
  · have hTurn : ((k - l : ℤ) : ℚ) ≤ -1 := by exact_mod_cast Int.le_sub_one_of_lt hLess
    have hBack : z - y ≤ -(2 * p) := by nlinarith
    have hPositive := first.at_high (by linarith)
    have hNegative := second.at_low (by linarith)
    linarith
  · rw [hSame, Int.cast_zero, zero_mul] at hDifference
    linarith
  · have hTurn : (1 : ℚ) ≤ ((k - l : ℤ) : ℚ) := by exact_mod_cast hMore
    have hOn : 2 * p ≤ z - y := by nlinarith
    have hPositive := second.at_high (by linarith)
    have hNegative := first.at_low (by linarith)
    linarith

theorem Wraps.neg {x y : ℚ} (wraps : Wraps p x y) : Wraps p (-x) (-y) where
  turns := by
    obtain ⟨k, hTurns⟩ := wraps.turns
    refine ⟨-k, ?_⟩
    rw [Int.cast_neg, neg_mul, ← hTurns]
    ring
  low := neg_le_neg wraps.high
  high := by linarith [wraps.low]
  at_high h := neg_pos.mpr (wraps.at_low (by linarith))
  at_low h := neg_neg_iff_pos.mpr (wraps.at_high (neg_injective h))

/-- An angle in the range is left as it is. -/
theorem Wraps.of_within (positive : 0 < p) {x : ℚ} (low : -p ≤ x) (high : x ≤ p) : Wraps p x x where
  turns := ⟨0, by ring⟩
  low := low
  high := high
  at_high h := h ▸ positive
  at_low h := by linarith

/-- An angle that is brought down to the inside of the range, or to its upper end. -/
theorem Wraps.of_down {x y : ℚ} (k : ℤ) (hTurns : x - y = k * (2 * p)) (low : -p < y) (high : y ≤ p)
    (side : 0 < x) : Wraps p x y where
  turns := ⟨k, hTurns⟩
  low := low.le
  high := high
  at_high _ := side
  at_low h := absurd h low.ne'

theorem turnDown_done {x : ℚ} (high : x ≤ p) : turnDown p x = .done x := by
  have hNot : ¬lt p x = true := by simpa using high
  rw [turnDown, if_neg hNot]

theorem turnDown_next {x : ℚ} (above : p < x) : turnDown p x = .next (x - 2 * p) := by
  have hAbove : lt p x = true := by simpa using above
  rw [turnDown, if_pos hAbove]
  rfl

/-- On the way down from `x`, at most so many turns above the range. -/
def Descending (p x : ℚ) (left : Nat) (y : ℚ) : Prop :=
  (∃ k : ℤ, x - y = k * (2 * p)) ∧ -p < y ∧ y ≤ p + left * (2 * p)

theorem turnDown_advances {x : ℚ} (side : 0 < x) (left : Nat) (y : ℚ)
    (descending : Descending p x left y) :
    Advances (turnDown p) (Descending p x) (fun y => Wraps p x y ∧ -p < y) left y := by
  obtain ⟨⟨k, hTurns⟩, hLow, hLeft⟩ := descending
  rcases le_or_gt y p with hEnd | hAbove
  · exact .done y (turnDown_done hEnd) ⟨.of_down k hTurns hLow hEnd side, hLow⟩
  · cases left with
    | zero =>
        rw [Nat.cast_zero, zero_mul, add_zero] at hLeft
        exact absurd hLeft (not_le.mpr hAbove)
    | succ left =>
        rw [Nat.cast_succ] at hLeft
        refine .next left _ (turnDown_next hAbove) (Nat.lt_succ_self left)
          ⟨⟨k + 1, ?_⟩, by linarith, by linarith⟩
        push_cast
        linarith

/-- The first loop ends for every angle above the range, and brings it down. -/
theorem turnDown_wraps (positive : 0 < p) {x : ℚ} (above : p < x) :
    ∃ y, Returns (fun budget => run (turnDown p) budget x) y ∧ Wraps p x y ∧ -p < y := by
  obtain ⟨left, hLeft⟩ := exists_nat_ge (x / (2 * p))
  have hNear : x ≤ left * (2 * p) := (div_le_iff₀ (by linarith)).mp hLeft
  exact returns_of_advances (turnDown_advances (positive.trans above))
    ⟨⟨0, by simp⟩, by linarith, show x ≤ p + left * (2 * p) by linarith⟩

/-- The second loop is the first, seen from the other side. -/
theorem run_turnUp (budget : Nat) (x : ℚ) :
    run (turnUp p) budget x = (run (turnDown p) budget (-x)).map Neg.neg := by
  have hMirrors (y : ℚ) : turnUp p (-y) = (turnDown p y).map Neg.neg Neg.neg := by
    rcases le_or_gt y p with hIn | hAbove
    · have hNot : ¬lt (-y) (-p) = true := by simpa using hIn
      rw [turnUp, if_neg hNot, turnDown_done hIn]
      rfl
    · have hBelow : lt (-y) (-p) = true := by simpa using hAbove
      rw [turnUp, if_pos hBelow, turnDown_next hAbove, Pass.map, neg_sub', sub_neg_eq_add]
      rfl
  have hMirrored := run_map Neg.neg Neg.neg hMirrors budget (-x)
  rwa [neg_neg] at hMirrored

/-- Both loops end, and bring the difference back. -/
theorem calcYawError_wraps (positive : 0 < p) (target now : ℚ) :
    ∃ y, Wraps p (target - now) y ∧ Returns (fun budget => calcYawError p budget target now) y := by
  have hDown {x : ℚ} (high : x ≤ p) : Returns (fun budget => run (turnDown p) budget x) x :=
    returns_done (turnDown_done high)
  have hUp {x y : ℚ} (returns : Returns (fun budget => run (turnDown p) budget (-x)) y) :
      Returns (fun budget => run (turnUp p) budget x) (-y) := by
    simpa only [run_turnUp] using returns.map Neg.neg
  rcases lt_or_ge p (target - now) with hAbove | hHigh
  · obtain ⟨y, hReturns, hWraps, hLow⟩ := turnDown_wraps positive hAbove
    have hNothing := hUp (hDown (show -y ≤ p by linarith))
    rw [neg_neg] at hNothing
    exact ⟨y, hWraps, hReturns.bind hNothing⟩
  rcases lt_or_ge (target - now) (-p) with hBelow | hLow
  · obtain ⟨y, hReturns, hWraps, -⟩ :=
      turnDown_wraps positive (show p < -(target - now) by linarith)
    exact ⟨-y, neg_neg (target - now) ▸ hWraps.neg, (hDown hHigh).bind (hUp hReturns)⟩
  · have hNothing := hUp (hDown (show -(target - now) ≤ p by linarith))
    rw [neg_neg] at hNothing
    exact ⟨_, .of_within positive hLow hHigh, (hDown hHigh).bind hNothing⟩

theorem fmodRat_neg (x y : ℚ) : fmodRat (-x) y = -fmodRat x y := by
  rw [fmodRat, fmodRat, neg_div, trunc_rat_neg, Int.cast_neg]
  ring

/-- The remainder of an angle that is not negative. -/
theorem fmodRat_nonneg {x y : ℚ} (nonneg : 0 ≤ x) (positive : 0 < y) :
    0 ≤ fmodRat x y ∧ fmodRat x y < y ∧ fmodRat x y ≤ x := by
  have hQuotient : 0 ≤ x / y := div_nonneg nonneg positive.le
  have hFloor : (0 : ℚ) ≤ ⌊x / y⌋ := by exact_mod_cast Int.floor_nonneg.mpr hQuotient
  have hLow := (le_div_iff₀ positive).mp (Int.floor_le (x / y))
  have hHigh := (div_lt_iff₀ positive).mp (Int.lt_floor_add_one (x / y))
  rw [fmodRat, trunc_eq_floor hQuotient]
  refine ⟨by linarith, by linarith, ?_⟩
  have hProduct := mul_nonneg positive.le hFloor
  linarith

/-- The one correction after a remainder. -/
def correct (p m : ℚ) : ℚ := if p < m then m - 2 * p else if m < -p then m + 2 * p else m

theorem correct_neg (positive : 0 < p) (m : ℚ) : correct p (-m) = -correct p m := by
  rw [correct, correct]
  split_ifs <;> linarith

theorem correct_fmodRat_wraps (positive : 0 < p) (x : ℚ) :
    Wraps p x (correct p (fmodRat x (2 * p))) := by
  have hPositive : 0 < 2 * p := by linarith
  have hUp {x : ℚ} (nonneg : 0 ≤ x) : Wraps p x (correct p (fmodRat x (2 * p))) := by
    obtain ⟨hLow, hHigh, hBelow⟩ := fmodRat_nonneg nonneg hPositive
    have hTurns : x - fmodRat x (2 * p) = trunc (x / (2 * p)) * (2 * p) := by
      rw [fmodRat]
      ring
    rw [correct]
    split_ifs with hAbove hUnder
    · exact .of_down (trunc (x / (2 * p)) + 1) (by push_cast; linarith) (by linarith) (by linarith)
        (by linarith)
    · linarith
    · exact
        { turns := ⟨_, hTurns⟩
          low := by linarith
          high := not_lt.mp hAbove
          at_high := fun h => by linarith
          at_low := fun h => by linarith }
  rcases le_total 0 x with hNonneg | hNonpos
  · exact hUp hNonneg
  · have hMirror := (hUp (neg_nonneg.mpr hNonpos)).neg
    rwa [neg_neg, fmodRat_neg, correct_neg positive, neg_neg] at hMirror

theorem getRelativeAnglePmPi_eq (target now : ℚ) :
    getRelativeAnglePmPi fmodRat p target now = correct p (fmodRat (target - now) (2 * p)) := by
  simp only [getRelativeAnglePmPi, correct, lt_rat, lit_rat, decide_eq_true_eq]

theorem normalizeAnglePmPi_eq (angle : ℚ) :
    normalizeAnglePmPi fmodRat p angle = correct p (fmodRat angle (2 * p)) := by
  simp only [normalizeAnglePmPi, correct, lt_rat, lit_rat, decide_eq_true_eq]

theorem normalizeAngleDiff_eq (target now : ℚ) :
    normalizeAngleDiff p target now = correct p (target - now) := by
  simp only [normalizeAngleDiff, correct, lt_rat, lit_rat, decide_eq_true_eq]

/-- One correction is enough within three half turns. -/
theorem correct_wraps (positive : 0 < p) {x : ℚ} (near : |x| ≤ 3 * p) :
    Wraps p x (correct p x) := by
  obtain ⟨hLow, hHigh⟩ := abs_le.mp near
  have hUp {x : ℚ} (nonneg : 0 ≤ x) (high : x ≤ 3 * p) : Wraps p x (correct p x) := by
    rw [correct]
    split_ifs with hAbove hUnder
    · exact .of_down 1 (by push_cast; ring) (by linarith) (by linarith) (by linarith)
    · linarith
    · exact .of_within positive (by linarith) (not_lt.mp hAbove)
  rcases le_total 0 x with hNonneg | hNonpos
  · exact hUp hNonneg hHigh
  · have hMirror := (hUp (neg_nonneg.mpr hNonpos) (by linarith)).neg
    rwa [neg_neg, correct_neg positive, neg_neg] at hMirror

/-- The loops of `CalcYawError` end, and the functions agree: each of them brings the
difference of the angles back by whole turns. -/
theorem angle_functions_agree {pi : ℚ} (positive : 0 < pi) (target now : ℚ) :
    let wrapped := normalizeAnglePmPi fmodRat pi (target - now)
    (∃ enough, ∀ budget, enough ≤ budget → calcYawError pi budget target now = some wrapped) ∧
      getRelativeAnglePmPi fmodRat pi target now = wrapped ∧
      -pi ≤ wrapped ∧ wrapped ≤ pi ∧
      (∃ turns : ℤ, target - now - wrapped = turns * (2 * pi)) ∧
      (|target - now| ≤ 3 * pi → normalizeAngleDiff pi target now = wrapped) := by
  have hWraps := correct_fmodRat_wraps positive (target - now)
  obtain ⟨y, hYaw, hLoops⟩ := calcYawError_wraps positive target now
  rw [hYaw.unique positive hWraps] at hLoops
  simp only [normalizeAnglePmPi_eq, getRelativeAnglePmPi_eq, normalizeAngleDiff_eq]
  exact ⟨hLoops, trivial, hWraps.low, hWraps.high, hWraps.turns,
    fun near => (correct_wraps positive near).unique positive hWraps⟩

/-- Half a turn of 22/7: a difference of ten is brought back by two turns. -/
theorem angle_functions_agree_ten :
    (∃ enough, ∀ budget, enough ≤ budget →
        calcYawError (22 / 7) budget 6 (-4) =
          some (normalizeAnglePmPi fmodRat (22 / 7 : ℚ) (6 - -4))) :=
  (angle_functions_agree (show (0 : ℚ) < 22 / 7 by norm_num) 6 (-4)).1

end RmTest.Algorithms.AngleMath

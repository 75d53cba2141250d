import Mathlib.Algebra.Order.BigOperators.Group.List
import Mathlib.Algebra.Order.Field.Basic
import Mathlib.Tactic.FieldSimp
import Mathlib.Tactic.Linarith
import Mathlib.Tactic.LinearCombination
import Mathlib.Tactic.Ring

/-! Lines fitted to finitely many points by least squares: the normal equations, the
closed form of the fit where not all points stand above one another, and how the fit
changes when the points are moved or points at the origin are added. -/
namespace LeastSquares

variable {𝕜 : Type} [Field 𝕜]

/-- The sums that a fit is computed from: of the squares of the abscissas, of the
abscissas, of the products and of the ordinates. -/
structure Moments (𝕜 : Type) where
  xx : 𝕜
  x : 𝕜
  xy : 𝕜
  y : 𝕜

def moments (points : List (𝕜 × 𝕜)) : Moments 𝕜 where
  xx := (points.map fun p => p.1 * p.1).sum
  x := (points.map fun p => p.1).sum
  xy := (points.map fun p => p.1 * p.2).sum
  y := (points.map fun p => p.2).sum

/-- What vanishes when all abscissas are the same. -/
def spread (points : List (𝕜 × 𝕜)) : 𝕜 :=
  (moments points).xx * points.length - (moments points).x * (moments points).x

/-- The slope of the fit. -/
def fitSlope (points : List (𝕜 × 𝕜)) : 𝕜 :=
  ((moments points).xy * points.length - (moments points).x * (moments points).y) / spread points

/-- The intercept of the fit. -/
def fitIntercept (points : List (𝕜 × 𝕜)) : 𝕜 :=
  ((moments points).xx * (moments points).y - (moments points).x * (moments points).xy) /
    spread points

/-- The sum of the squared distances from a line, along the ordinate. -/
def squares (points : List (𝕜 × 𝕜)) (k b : 𝕜) : 𝕜 :=
  (points.map fun p => (k * p.1 + b - p.2) * (k * p.1 + b - p.2)).sum

/-- Both derivatives of the sum of squares vanish. -/
structure Normal (points : List (𝕜 × 𝕜)) (k b : 𝕜) : Prop where
  along : k * (moments points).xx + b * (moments points).x = (moments points).xy
  across : k * (moments points).x + b * points.length = (moments points).y

@[simp] theorem moments_cons (p : 𝕜 × 𝕜) (points : List (𝕜 × 𝕜)) :
    moments (p :: points) =
      ⟨p.1 * p.1 + (moments points).xx, p.1 + (moments points).x,
        p.1 * p.2 + (moments points).xy, p.2 + (moments points).y⟩ := by
  simp [moments]

/-- A change of the line changes the sum of squares by a square and a term that is
linear in the change. -/
theorem squares_add (points : List (𝕜 × 𝕜)) (k b dk db : 𝕜) :
    squares points (k + dk) (b + db) =
      squares points k b + (points.map fun p => (dk * p.1 + db) * (dk * p.1 + db)).sum +
        2 * dk * (k * (moments points).xx + b * (moments points).x - (moments points).xy) +
        2 * db * (k * (moments points).x + b * points.length - (moments points).y) := by
  induction points with
  | nil => simp [squares, moments]
  | cons p rest ih =>
      simp only [squares, List.map_cons, List.sum_cons, moments_cons, List.length_cons,
        Nat.cast_add, Nat.cast_one] at ih ⊢
      rw [ih]
      ring

/-- The linear system has one solution where not all abscissas are the same. -/
theorem normal_iff {points : List (𝕜 × 𝕜)} (wide : spread points ≠ 0) (k b : 𝕜) :
    Normal points k b ↔ k = fitSlope points ∧ b = fitIntercept points := by
  rw [fitSlope, fitIntercept, eq_div_iff wide, eq_div_iff wide, spread] at *
  constructor
  · rintro ⟨hAlong, hAcross⟩
    constructor
    · linear_combination (points.length : 𝕜) * hAlong - (moments points).x * hAcross
    · linear_combination (moments points).xx * hAcross - (moments points).x * hAlong
  · rintro ⟨hSlope, hIntercept⟩
    constructor
    · apply mul_right_cancel₀ wide
      linear_combination (moments points).xx * hSlope + (moments points).x * hIntercept
    · apply mul_right_cancel₀ wide
      linear_combination (moments points).x * hSlope + (points.length : 𝕜) * hIntercept

/-- The squares of a change, in terms of the sums. -/
theorem sum_change (points : List (𝕜 × 𝕜)) (dk db : 𝕜) :
    (points.map fun p => (dk * p.1 + db) * (dk * p.1 + db)).sum =
      dk * dk * (moments points).xx + 2 * dk * db * (moments points).x +
        points.length * (db * db) := by
  induction points with
  | nil => simp [moments]
  | cons p rest ih =>
      simp only [List.map_cons, List.sum_cons, ih, moments_cons, List.length_cons, Nat.cast_add,
        Nat.cast_one]
      ring

theorem spread_cons (p : 𝕜 × 𝕜) (points : List (𝕜 × 𝕜)) :
    spread (p :: points) =
      spread points + (points.map fun q => (q.1 - p.1) * (q.1 - p.1)).sum := by
  have hSum := sum_change points 1 (-p.1)
  simp only [one_mul, ← sub_eq_add_neg] at hSum
  simp only [spread, hSum, moments_cons, List.length_cons, Nat.cast_add, Nat.cast_one]
  ring

/-- A line through all points solves the equations. -/
theorem normal_of_exact {points : List (𝕜 × 𝕜)} {k b : 𝕜}
    (exact : ∀ p ∈ points, k * p.1 + b = p.2) : Normal points k b := by
  induction points with
  | nil => constructor <;> simp [moments]
  | cons p rest ih =>
      rw [List.forall_mem_cons] at exact
      obtain ⟨hHere, hRest⟩ := exact
      obtain ⟨hAlong, hAcross⟩ := ih hRest
      constructor
      · rw [moments_cons]
        linear_combination hAlong + p.1 * hHere
      · rw [moments_cons, List.length_cons, Nat.cast_add, Nat.cast_one]
        linear_combination hAcross + hHere

section Order

variable [LinearOrder 𝕜] [IsStrictOrderedRing 𝕜]

/-- No line has a smaller sum of squares. -/
def IsFit (points : List (𝕜 × 𝕜)) (k b : 𝕜) : Prop :=
  ∀ k' b', squares points k b ≤ squares points k' b'

theorem sum_squares_nonneg (points : List (𝕜 × 𝕜)) (f : 𝕜 × 𝕜 → 𝕜) :
    0 ≤ (points.map fun p => f p * f p).sum := by
  apply List.sum_nonneg
  intro term hTerm
  obtain ⟨p, -, rfl⟩ := List.mem_map.mp hTerm
  exact mul_self_nonneg (f p)

/-- Sums of squares are zero only if all terms are. -/
theorem eq_zero_of_sum_squares {points : List (𝕜 × 𝕜)} {f : 𝕜 × 𝕜 → 𝕜}
    (h : (points.map fun p => f p * f p).sum = 0) : ∀ p ∈ points, f p = 0 := by
  induction points with
  | nil => exact List.forall_mem_nil _
  | cons p rest ih =>
      rw [List.map_cons, List.sum_cons] at h
      have hRest := sum_squares_nonneg rest f
      have hHere := mul_self_nonneg (f p)
      have hZero : f p * f p = 0 := by linarith
      rw [List.forall_mem_cons]
      exact ⟨mul_self_eq_zero.mp hZero, ih (by linarith)⟩

theorem spread_nonneg (points : List (𝕜 × 𝕜)) : 0 ≤ spread points := by
  induction points with
  | nil => simp [spread, moments]
  | cons p rest ih =>
      rw [spread_cons]
      exact add_nonneg ih (sum_squares_nonneg rest fun q => q.1 - p.1)

/-- Two different abscissas spread the points. -/
theorem spread_pos {points : List (𝕜 × 𝕜)} {p q : 𝕜 × 𝕜} (hp : p ∈ points) (hq : q ∈ points)
    (different : p.1 ≠ q.1) : 0 < spread points := by
  induction points with
  | nil => cases hp
  | cons first rest ih =>
      have hNonneg := sum_squares_nonneg rest fun q => q.1 - first.1
      have hPos {r : 𝕜 × 𝕜} (hr : r ∈ rest) (hOther : r.1 ≠ first.1) :
          0 < spread (first :: rest) := by
        rw [spread_cons]
        apply add_pos_of_nonneg_of_pos (spread_nonneg rest)
        apply lt_of_le_of_ne hNonneg
        intro hZero
        exact hOther (sub_eq_zero.mp (eq_zero_of_sum_squares hZero.symm r hr))
      rcases List.mem_cons.mp hp with rfl | hpRest
      · rcases List.mem_cons.mp hq with rfl | hqRest
        · exact absurd rfl different
        · exact hPos hqRest different.symm
      · rcases List.mem_cons.mp hq with rfl | hqRest
        · exact hPos hpRest different
        · rw [spread_cons]
          exact add_pos_of_pos_of_nonneg (ih hpRest hqRest) hNonneg

/-- A change of the line that changes no residual is none. -/
theorem change_eq_zero {points : List (𝕜 × 𝕜)} (wide : 0 < spread points) {dk db : 𝕜}
    (h : (points.map fun p => (dk * p.1 + db) * (dk * p.1 + db)).sum = 0) : dk = 0 ∧ db = 0 := by
  rw [sum_change] at h
  have hSlope : dk * dk * spread points +
      (dk * (moments points).x + points.length * db) *
        (dk * (moments points).x + points.length * db) = 0 := by
    rw [spread]
    linear_combination (points.length : 𝕜) * h
  have hIntercept : db * db * spread points +
      (dk * (moments points).xx + db * (moments points).x) *
        (dk * (moments points).xx + db * (moments points).x) = 0 := by
    rw [spread]
    linear_combination (moments points).xx * h
  have hZero {change rest : 𝕜} (hSum : change * change * spread points + rest * rest = 0) :
      change = 0 := by
    have hRest := mul_self_nonneg rest
    have hProduct := mul_nonneg (mul_self_nonneg change) wide.le
    have hSquare : change * change * spread points = 0 := by linarith
    exact mul_self_eq_zero.mp ((mul_eq_zero.mp hSquare).resolve_right wide.ne')
  exact ⟨hZero hSlope, hZero hIntercept⟩

/-- A line is fitted exactly if it solves the normal equations. -/
theorem isFit_iff_normal {points : List (𝕜 × 𝕜)} (wide : 0 < spread points) (k b : 𝕜) :
    IsFit points k b ↔ Normal points k b := by
  have hBest {k b : 𝕜} (hNormal : Normal points k b) (k' b' : 𝕜) :
      squares points k' b' = squares points k b +
        (points.map fun p => ((k' - k) * p.1 + (b' - b)) * ((k' - k) * p.1 + (b' - b))).sum := by
    have hChange := squares_add points k b (k' - k) (b' - b)
    rw [hNormal.along, hNormal.across, add_sub_cancel, add_sub_cancel] at hChange
    linear_combination hChange
  constructor
  · intro hFit
    have hNormal := (normal_iff wide.ne' _ _).mpr ⟨rfl, rfl⟩
    have hLess := hFit (fitSlope points) (fitIntercept points)
    have hSquare := sum_squares_nonneg points fun p =>
      (k - fitSlope points) * p.1 + (b - fitIntercept points)
    rw [hBest hNormal k b] at hLess
    obtain ⟨hSlope, hIntercept⟩ := change_eq_zero wide (le_antisymm (by linarith) hSquare)
    rwa [sub_eq_zero.mp hSlope, sub_eq_zero.mp hIntercept]
  · intro hNormal k' b'
    have hSquare := sum_squares_nonneg points fun p => (k' - k) * p.1 + (b' - b)
    rw [hBest hNormal k' b']
    linarith

theorem isFit_iff {points : List (𝕜 × 𝕜)} (wide : 0 < spread points) (k b : 𝕜) :
    IsFit points k b ↔ k = fitSlope points ∧ b = fitIntercept points :=
  (isFit_iff_normal wide k b).trans (normal_iff wide.ne' k b)

end Order

/-- The points seen from another start of the abscissa. -/
def countedFrom (offset : 𝕜) (points : List (𝕜 × 𝕜)) : List (𝕜 × 𝕜) :=
  points.map fun p => (p.1 - offset, p.2)

theorem moments_countedFrom (offset : 𝕜) (points : List (𝕜 × 𝕜)) :
    moments (countedFrom offset points) =
      ⟨(moments points).xx - 2 * offset * (moments points).x + points.length * (offset * offset),
        (moments points).x - points.length * offset,
        (moments points).xy - offset * (moments points).y, (moments points).y⟩ := by
  induction points with
  | nil => simp [countedFrom, moments]
  | cons p rest ih =>
      have hCons : countedFrom offset (p :: rest) =
          (p.1 - offset, p.2) :: countedFrom offset rest := rfl
      rw [hCons, moments_cons, ih, moments_cons, Moments.mk.injEq]
      simp only [List.length_cons, Nat.cast_add, Nat.cast_one]
      refine ⟨?_, ?_, ?_, trivial⟩ <;> ring

@[simp] theorem length_countedFrom (offset : 𝕜) (points : List (𝕜 × 𝕜)) :
    (countedFrom offset points).length = points.length := List.length_map _

theorem spread_countedFrom (offset : 𝕜) (points : List (𝕜 × 𝕜)) :
    spread (countedFrom offset points) = spread points := by
  simp only [spread, moments_countedFrom, length_countedFrom]
  ring

/-- The slope does not depend on where the abscissa starts. -/
theorem slope_countedFrom (offset : 𝕜) (points : List (𝕜 × 𝕜)) :
    fitSlope (countedFrom offset points) = fitSlope points := by
  simp only [fitSlope, spread_countedFrom, moments_countedFrom, length_countedFrom]
  congr 1
  ring

/-- Points at the origin in front of the others. -/
def padded (count : ℕ) (points : List (𝕜 × 𝕜)) : List (𝕜 × 𝕜) :=
  List.replicate count (0, 0) ++ points

theorem moments_padded (count : ℕ) (points : List (𝕜 × 𝕜)) :
    moments (padded count points) = moments points := by
  induction count with
  | zero => rfl
  | succ count ih =>
      have hCons : padded (count + 1) points = (0, 0) :: padded count points := by
        rw [padded, List.replicate_succ]
        rfl
      rw [hCons, moments_cons, ih]
      simp

@[simp] theorem length_padded (count : ℕ) (points : List (𝕜 × 𝕜)) :
    (padded count points).length = count + points.length := by
  rw [padded, List.length_append, List.length_replicate]

/-- Points at the origin keep the slope exactly if there are none or the fitted line
passes through the origin anyway. -/
theorem slope_padded_iff [CharZero 𝕜] {count : ℕ} {points : List (𝕜 × 𝕜)} (wide : spread points ≠ 0)
    (widePadded : spread (padded count points) ≠ 0) (moved : (moments points).x ≠ 0) :
    fitSlope (padded count points) = fitSlope points ↔
      count = 0 ∨
        (moments points).xx * (moments points).y = (moments points).x * (moments points).xy := by
  have hDifference : ((moments points).xy * (count + points.length : ℕ) -
        (moments points).x * (moments points).y) * spread points -
      ((moments points).xy * points.length - (moments points).x * (moments points).y) *
        spread (padded count points) =
      count * ((moments points).x * ((moments points).xx * (moments points).y -
        (moments points).x * (moments points).xy)) := by
    simp only [spread, moments_padded, length_padded, Nat.cast_add]
    ring
  rw [fitSlope, fitSlope, moments_padded, length_padded, div_eq_div_iff widePadded wide,
    ← sub_eq_zero,
    hDifference, mul_eq_zero, mul_eq_zero, or_iff_right moved, Nat.cast_eq_zero, sub_eq_zero]

end LeastSquares

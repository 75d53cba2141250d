import RmTest.Library.Run
import RmTest.Verification.OlsDerivative

/-! Whether the three ways to take a sample leave the same line behind. `derivative`
stores no intercept, and the deviation is divided by the order and not by the number
of samples, so the stored values agree with the window only under a condition. -/
namespace RmTest.Algorithms.OrdinaryLeastSquares

open FloatModel LeastSquares

/-- What a line leaves over on average. -/
def meanResidual (points : List (ℚ × ℚ)) (k b : ℚ) : ℚ :=
  (points.map fun p => |k * p.1 + b - p.2|).sum / points.length

/-- After a call the stored values are those of the line that is computed from the
window, and of the value that `smooth` would have returned. -/
structure Agrees (ols : OrdinaryLeastSquares ℚ) (call : Call) : Prop where
  k_eq : (ols.step call).k = (ols.takeSample call.deltax call.y).fittedK
  b_eq : (ols.step call).b = (ols.takeSample call.deltax call.y).fittedB
  last_derivative : (ols.step call).lastDerivative = (ols.takeSample call.deltax call.y).fittedK
  get_derivative : getOlsDerivative (some (ols.step call)) =
    (ols.takeSample call.deltax call.y).fittedK
  last_smooth : (ols.step call).lastSmooth = (ols.smooth call.deltax call.y).2
  get_smooth : getOlsSmooth (some (ols.step call)) = (ols.smooth call.deltax call.y).2
  deviation_eq : (ols.step call).standardDeviation =
    meanResidual (ols.step call).points (ols.takeSample call.deltax call.y).fittedK
      (ols.takeSample call.deltax call.y).fittedB

/-- The intercept that `derivative` leaves alone is that of the window with the new
sample, and until the window is full the samples lie on a line through zero at the time
of `init`. -/
structure Consistent (ols : OrdinaryLeastSquares ℚ) (call : Call) : Prop where
  intercept_kept : call.way = .derivative →
    ols.b = fitIntercept (ols.takeSample call.deltax call.y).window
  full_or_exact : ols.order ≤ ols.count + 1 ∨
    ∃ c, ∀ p ∈ (ols.takeSample call.deltax call.y).points, p.2 = c * p.1

/-- The intercept that a call stores. -/
def storedB (ols : OrdinaryLeastSquares ℚ) (call : Call) : ℚ :=
  if call.way = .derivative then ols.b else (ols.takeSample call.deltax call.y).fittedB

theorem deviation_eq_sum (ols : OrdinaryLeastSquares ℚ) :
    ols.deviation = (ols.points.map fun p => |ols.k * p.1 + ols.b - p.2|).sum / ols.order := by
  have hFold (indices : List Nat) (start : ℚ) :
      indices.foldl (fun sum i => sum + fabs (ols.k * cell ols.x i + ols.b - cell ols.y i)) start =
        start + (indices.map fun i => |ols.k * cell ols.x i + ols.b - cell ols.y i|).sum := by
    induction indices generalizing start with
    | nil => simp
    | cons i rest ih => rw [List.foldl_cons, ih, fabs_rat, List.map_cons, List.sum_cons, add_assoc]
  rw [deviation, hFold, zero_add, points, List.map_map]
  rfl

section Step

variable {calls : List Call} {ols : OrdinaryLeastSquares ℚ} (tracks : Tracks calls ols)
  (enough : 2 ≤ ols.order) (call : Call)

include tracks enough

/-- What each of the three leaves. -/
theorem step_eq :
    ols.step call = storeDeviation
      { ols.takeSample call.deltax call.y with
        k := (ols.takeSample call.deltax call.y).fittedK
        b := ols.storedB call } := by
  have hTaken := tracks.takeSample enough call
  have hDenom := eq_denom_zero hTaken (t_takeSample ols call.deltax call.y) enough (by simp)
  have hOrder : ¬ols.order < 2 := Nat.not_lt.mpr enough
  cases hWay : call.way with
  | update | smooth =>
      simp only [step, hWay, storedB, update, smooth, hOrder, hDenom, Bool.false_eq_true, if_false,
        reduceCtorEq]
  | derivative =>
      simp only [step, hWay, storedB, derivative, hOrder, hDenom, Bool.false_eq_true, if_false,
        if_true]
      rfl

theorem smooth_returns :
    (ols.smooth call.deltax call.y).2 =
      (ols.takeSample call.deltax call.y).fittedK *
          cell (ols.takeSample call.deltax call.y).x (ols.order - 1) +
        (ols.takeSample call.deltax call.y).fittedB := by
  have hTaken := tracks.takeSample enough call
  have hDenom := eq_denom_zero hTaken (t_takeSample ols call.deltax call.y) enough (by simp)
  have hOrder : ¬ols.order < 2 := Nat.not_lt.mpr enough
  simp only [smooth, hOrder, hDenom, Bool.false_eq_true, if_false]
  rfl

end Step

/-- The fitted line leaves nothing over exactly if the samples lie on a line through
the origin, as long as a cell of the window is empty. -/
theorem residuals_eq_zero_iff {calls : List Call} {ols : OrdinaryLeastSquares ℚ}
    (tracks : Tracks calls ols) (enough : 2 ≤ ols.order) (some : calls ≠ [])
    (filling : ols.count < ols.order) :
    (∀ p ∈ ols.points, fitSlope ols.window * p.1 + fitIntercept ols.window = p.2) ↔
      ∃ c, ∀ p ∈ ols.points, p.2 = c * p.1 := by
  have hWide := (tracks.spread_window enough some).ne'
  constructor
  · intro hExact
    -- The empty cells are left over by the intercept, and in sum nothing is left over.
    have hSamples := (normal_of_exact hExact).across
    have hAll := ((normal_iff hWide _ _).mpr ⟨rfl, rfl⟩).across
    rw [length_points] at hSamples
    rw [length_window ols filling.le, window, moments_padded, ← window] at hAll
    have hMissing : (ols.order : ℚ) - ols.count ≠ 0 := by
      rw [sub_ne_zero]
      exact_mod_cast filling.ne'
    have hProduct : fitIntercept ols.window * ((ols.order : ℚ) - ols.count) = 0 := by
      linear_combination hAll - hSamples
    have hIntercept := (mul_eq_zero.mp hProduct).resolve_right hMissing
    refine ⟨fitSlope ols.window, fun p hp => ?_⟩
    rw [← hExact p hp, hIntercept, add_zero]
  · rintro ⟨c, hLine⟩
    have hExact : ∀ p ∈ ols.window, c * p.1 + 0 = p.2 := by
      intro p hp
      rcases List.mem_append.mp hp with hEmpty | hFilled
      · rw [List.eq_of_mem_replicate hEmpty]
        simp
      · rw [hLine p hFilled, add_zero]
    obtain ⟨hSlope, hIntercept⟩ := (normal_iff hWide _ _).mp (normal_of_exact hExact)
    intro p hp
    rw [← hSlope, ← hIntercept, hLine p hp, add_zero]

/-- Sums over the same samples agree as means by different counts exactly if they are
zero. -/
theorem sum_div_eq_iff {sum : ℚ} {count order : Nat} (some : 0 < count) (enough : 0 < order) :
    sum / order = sum / count ↔ order = count ∨ sum = 0 := by
  have hCount : (count : ℚ) ≠ 0 := Nat.cast_ne_zero.mpr some.ne'
  have hOrder : (order : ℚ) ≠ 0 := Nat.cast_ne_zero.mpr enough.ne'
  rw [div_eq_div_iff hOrder hCount, mul_eq_mul_left_iff, Nat.cast_inj, eq_comm]

theorem sum_abs_eq_zero_iff (points : List (ℚ × ℚ)) (k b : ℚ) :
    (points.map fun p => |k * p.1 + b - p.2|).sum = 0 ↔ ∀ p ∈ points, k * p.1 + b = p.2 := by
  induction points with
  | nil => simp
  | cons p rest ih =>
      have hHere := abs_nonneg (k * p.1 + b - p.2)
      have hRest : 0 ≤ (rest.map fun p => |k * p.1 + b - p.2|).sum := by
        apply List.sum_nonneg
        intro term hTerm
        obtain ⟨q, -, rfl⟩ := List.mem_map.mp hTerm
        exact abs_nonneg _
      rw [List.map_cons, List.sum_cons, List.forall_mem_cons, ← ih,
        add_eq_zero_iff_of_nonneg hHere hRest, abs_eq_zero, sub_eq_zero]

section OneCall

variable {calls : List Call} {ols : OrdinaryLeastSquares ℚ} (tracks : Tracks calls ols)
  (enough : 2 ≤ ols.order) (call : Call)

include tracks enough

theorem storedB_eq_iff :
    ols.storedB call = (ols.takeSample call.deltax call.y).fittedB ↔
      (call.way = .derivative →
        ols.b = fitIntercept (ols.takeSample call.deltax call.y).window) := by
  have hTaken := tracks.takeSample enough call
  have hCount : (ols.takeSample call.deltax call.y).count ≤ ols.order := by
    rw [hTaken.count_eq]
    exact Nat.min_le_right _ _
  have hIntercept := fittedB_eq_intercept (t_takeSample ols call.deltax call.y) hCount
  rw [storedB, hIntercept]
  split_ifs with hWay
  · exact ⟨fun h _ => h, fun h => h hWay⟩
  · exact iff_of_true rfl (fun h => absurd h hWay)

/-- With the right intercept the deviation is the mean exactly if the window is full or
nothing is left over. -/
theorem deviation_eq_iff :
    ((ols.takeSample call.deltax call.y).points.map fun p =>
        |(ols.takeSample call.deltax call.y).fittedK * p.1 +
          (ols.takeSample call.deltax call.y).fittedB - p.2|).sum / ols.order =
      meanResidual (ols.takeSample call.deltax call.y).points
        (ols.takeSample call.deltax call.y).fittedK (ols.takeSample call.deltax call.y).fittedB ↔
    ols.order ≤ ols.count + 1 ∨
      ∃ c, ∀ p ∈ (ols.takeSample call.deltax call.y).points, p.2 = c * p.1 := by
  have hTaken := tracks.takeSample enough call
  have hBefore : ols.count ≤ ols.order := by
    rw [tracks.count_eq]
    exact Nat.min_le_right _ _
  have hCount := count_takeSample ols call.deltax call.y hBefore
  have hInside : (ols.takeSample call.deltax call.y).count ≤ ols.order := by omega
  have hSums := t_takeSample ols call.deltax call.y
  rw [meanResidual, length_points, sum_div_eq_iff (by omega) (by omega), sum_abs_eq_zero_iff,
    fittedK_eq_slope hSums hInside, fittedB_eq_intercept hSums hInside]
  by_cases hFull : ols.order = (ols.takeSample call.deltax call.y).count
  · exact iff_of_true (Or.inl hFull) (Or.inl (by omega))
  · have hFilling : (ols.takeSample call.deltax call.y).count < ols.order := by omega
    rw [or_iff_right hFull, or_iff_right (show ¬ols.order ≤ ols.count + 1 by omega)]
    exact residuals_eq_zero_iff hTaken enough (by simp) hFilling

/-- One call. -/
theorem agrees_iff_consistent : Agrees ols call ↔ Consistent ols call := by
  have hStep := step_eq tracks enough call
  have hSmooth := smooth_returns tracks enough call
  have hStored := storedB_eq_iff tracks enough call
  have hDeviation := deviation_eq_iff tracks enough call
  have hPoints : (ols.step call).points = (ols.takeSample call.deltax call.y).points := by
    rw [hStep]
    rfl
  have hStandard : (ols.step call).standardDeviation =
      ((ols.takeSample call.deltax call.y).points.map fun p =>
        |(ols.takeSample call.deltax call.y).fittedK * p.1 + ols.storedB call - p.2|).sum /
          ols.order := by
    rw [hStep]
    exact deviation_eq_sum _
  have hOrder : ¬ols.order < 2 := Nat.not_lt.mpr enough
  constructor
  · intro hAgrees
    have hIntercept : ols.storedB call = (ols.takeSample call.deltax call.y).fittedB := by
      have hB := hAgrees.b_eq
      rwa [hStep] at hB
    have hMean := hAgrees.deviation_eq
    rw [hStandard, hPoints, hIntercept] at hMean
    exact ⟨hStored.mp hIntercept, hDeviation.mp hMean⟩
  · rintro ⟨hKept, hExact⟩
    have hIntercept := hStored.mpr hKept
    have hLast : (ols.step call).lastSmooth = (ols.smooth call.deltax call.y).2 := by
      rw [hStep, hSmooth, hIntercept]
      exact if_pos enough
    refine ⟨?_, ?_, ?_, ?_, hLast, ?_, ?_⟩
    · rw [hStep]
      rfl
    · rw [hStep]
      exact hIntercept
    · rw [hStep]
      rfl
    · rw [hStep]
      rfl
    · rw [hStep, hSmooth, hIntercept]
      exact if_neg hOrder
    · rw [hStandard, hPoints, hIntercept]
      exact hDeviation.mpr hExact

end OneCall

/-- In any interleaving of the three calls on a filter that was just set up, the stored
values agree with the window after every call exactly if every call is consistent with
what was stored before it. -/
theorem operations_agree_iff (order : UInt16) (enough : 2 ≤ order) (small : order ≤ 16)
    (calls : List Call) :
    Run.Along step Agrees (init order) calls ↔ Run.Along step Consistent (init order) calls := by
  have hEnough : 2 ≤ order.toNat := UInt16.le_iff_toNat_le.mp enough
  have hStart : ∃ before, Tracks before (init order) ∧
      2 ≤ (init order : OrdinaryLeastSquares ℚ).order :=
    ⟨[], tracks_init order, by rwa [order_init small]⟩
  have hKept (ols : OrdinaryLeastSquares ℚ) (call : Call)
      (h : ∃ before, Tracks before ols ∧ 2 ≤ ols.order) :
      ∃ before, Tracks before (ols.step call) ∧ 2 ≤ (ols.step call).order := by
    obtain ⟨before, hTracks, hOrder⟩ := h
    refine ⟨before ++ [call], hTracks.step hOrder call, ?_⟩
    rw [(step_window hOrder call).1]
    exact hOrder
  constructor
  · apply Run.along_of_invariant (fun ols call h _ => hKept ols call h) _ hStart
    rintro ols call ⟨before, hTracks, hOrder⟩
    exact (agrees_iff_consistent hTracks hOrder call).mp
  · apply Run.along_of_invariant (fun ols call h _ => hKept ols call h) _ hStart
    rintro ols call ⟨before, hTracks, hOrder⟩
    exact (agrees_iff_consistent hTracks hOrder call).mpr

/-- A first sample of zero, and a second that fills the window. -/
theorem operations_agree_two :
    Run.Along step Agrees (init 2) [⟨.update, 1, 0, one_pos⟩, ⟨.smooth, 1, 1, one_pos⟩] :=
  (operations_agree_iff 2 (by decide) (by decide) _).mpr
    ⟨⟨fun h => Way.noConfusion h, Or.inr ⟨0, List.forall_mem_singleton.mpr (by decide +kernel)⟩⟩,
      ⟨fun h => Way.noConfusion h, Or.inl (by decide +kernel)⟩, trivial⟩

/-- Two samples of the same value, both taken by `derivative`: the smoothed value that is
read is 0, where `smooth` would have returned 1. -/
theorem operations_disagree_constant :
    ¬Run.Along step Agrees (init 2)
      [⟨.derivative, 1, 1, one_pos⟩, ⟨.derivative, 1, 1, one_pos⟩] := by
  rintro ⟨-, hSecond, -⟩
  exact absurd hSecond.last_smooth (by decide +kernel)

end RmTest.Algorithms.OrdinaryLeastSquares

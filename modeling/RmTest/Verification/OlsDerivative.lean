import RmTest.Verification.OlsWindow

/-! What `derivative` returns. The formulas put the order where the number of samples
belongs, so until the window is full they fit the empty cells as well, as points at
the time of `init` with the value zero. -/
namespace RmTest.Algorithms.OrdinaryLeastSquares

open FloatModel LeastSquares

/-- Once there is a sample the sums can be divided by. -/
theorem eq_denom_zero {calls : List Call} {ols : OrdinaryLeastSquares ℚ} (tracks : Tracks calls ols)
    (sums : ols.t = ols.addUp) (enough : 2 ≤ ols.order) (some : calls ≠ []) :
    eq ols.denom 0 = false := by
  have hCount : ols.count ≤ ols.order := by
    rw [tracks.count_eq]
    exact Nat.min_le_right _ _
  have hSpread := tracks.spread_window enough some
  rw [denom_eq_spread sums hCount, eq_rat, decide_eq_false hSpread.ne']

/-- The slope returned is that of the whole window. -/
theorem derivative_eq_slope {calls : List Call} {ols : OrdinaryLeastSquares ℚ}
    (tracks : Tracks calls ols) (enough : 2 ≤ ols.order) (call : Call) :
    (ols.derivative call.deltax call.y).2 =
      fitSlope (ols.takeSample call.deltax call.y).window := by
  have hTaken := tracks.takeSample enough call
  have hCount : (ols.takeSample call.deltax call.y).count ≤ ols.order := by
    rw [hTaken.count_eq]
    exact Nat.min_le_right _ _
  have hDenom := eq_denom_zero hTaken (t_takeSample ols call.deltax call.y) enough (by simp)
  rw [derivative, if_neg (Nat.not_lt.mpr enough)]
  simp only [hDenom, Bool.false_eq_true, if_false]
  exact fittedK_eq_slope (t_takeSample ols call.deltax call.y) hCount

/-- No sample comes at the time of `init`. -/
theorem sum_times_pos {calls : List Call} (some : 0 < calls.length) :
    0 < (moments (stamped calls)).x := by
  apply List.sum_pos
  · intro time hTime
    obtain ⟨point, hPoint, rfl⟩ := List.mem_map.mp hTime
    obtain ⟨n, hn, rfl⟩ := List.mem_map.mp hPoint
    rw [List.mem_range'_1] at hn
    exact timeAt_lt calls (show 0 < n by omega) (by omega)
  · intro hNil
    have hLength := congrArg List.length hNil
    simp only [stamped, List.length_map, List.length_range', List.length_nil] at hLength
    omega

/-- The whole window has the slope of the last samples once it is full, and before
only where their line is zero at the time of `init`. -/
theorem slope_window_iff {calls : List Call} {ols : OrdinaryLeastSquares ℚ}
    (tracks : Tracks calls ols) (enough : 2 ≤ ols.order) (two : 2 ≤ calls.length) :
    fitSlope ols.window = fitSlope (SlidingBuffer.keepLast ols.order (stamped calls)) ↔
      ols.order ≤ calls.length ∨
        (moments (stamped calls)).xx * (moments (stamped calls)).y =
          (moments (stamped calls)).x * (moments (stamped calls)).xy := by
  have hPoints := tracks.points_eq
  by_cases hFull : ols.order ≤ calls.length
  · have hNone : ols.order - ols.count = 0 := by
      rw [tracks.count_eq]
      omega
    rw [window, hNone, hPoints]
    exact iff_of_true (slope_countedFrom _ _) (Or.inl hFull)
  · have hStart : calls.length + 1 - ols.order = 0 := by omega
    have hMissing : ols.order - ols.count ≠ 0 := by
      rw [tracks.count_eq]
      omega
    have hAll : SlidingBuffer.keepLast ols.order (stamped calls) = stamped calls := by
      apply SlidingBuffer.keepLast_of_le
      rw [stamped, List.length_map, List.length_range']
      omega
    have hSame : ols.points = stamped calls := by
      rw [hPoints, hStart, hAll, timeAt_zero, countedFrom]
      simp
    have hWide := (spread_keepLast enough two).ne'
    have hWidePadded := (tracks.spread_window enough (by rintro rfl; simp at two)).ne'
    have hMoved := (sum_times_pos (show 0 < calls.length by omega)).ne'
    rw [hAll] at hWide ⊢
    rw [window, hSame] at hWidePadded ⊢
    rw [slope_padded_iff hWide hWidePadded hMoved, or_iff_right hMissing, or_iff_right hFull]

/-- From the second sample on, `derivative` returns the least-squares slope of the last
samples, at most as many as the order, exactly if the window is full, or if the line
fitted to the samples so far is zero at the time of `init`. -/
theorem derivative_isFit_iff (order : UInt16) (enough : 2 ≤ order) (small : order ≤ 16)
    (calls : List Call) (some : calls ≠ []) (last : Call) :
    (∃ b, IsFit (SlidingBuffer.keepLast order.toNat (stamped (calls ++ [last])))
      ((after order calls).derivative last.deltax last.y).2 b) ↔
    order.toNat ≤ (calls ++ [last]).length ∨
      (moments (stamped (calls ++ [last]))).xx * (moments (stamped (calls ++ [last]))).y =
        (moments (stamped (calls ++ [last]))).x * (moments (stamped (calls ++ [last]))).xy := by
  obtain ⟨hOrder, hTracks⟩ := tracks_after enough small calls
  have hEnough : 2 ≤ order.toNat := UInt16.le_iff_toNat_le.mp enough
  have hWide : 2 ≤ (after order calls).order := by rwa [hOrder]
  have hTwo : 2 ≤ (calls ++ [last]).length := by
    have hLength := List.length_pos_of_ne_nil some
    rw [List.length_append, List.length_singleton]
    omega
  have hSlope := slope_window_iff (hTracks.takeSample hWide last) hWide hTwo
  rw [order_takeSample, hOrder] at hSlope
  rw [derivative_eq_slope hTracks hWide last, ← hSlope]
  have hSpread := spread_keepLast hEnough hTwo
  constructor
  · rintro ⟨b, hFit⟩
    exact ((isFit_iff hSpread _ b).mp hFit).1
  · intro hSame
    exact ⟨_, (isFit_iff hSpread _ _).mpr ⟨hSame, rfl⟩⟩

/-- Three samples in a window of two. -/
theorem derivative_isFit_full :
    (∃ b, IsFit (SlidingBuffer.keepLast 2 (stamped
        ([⟨.derivative, 1, 5, one_pos⟩, ⟨.derivative, 1, 1, one_pos⟩] ++
          [⟨.derivative, 1, 3, one_pos⟩])))
      ((after 2 [⟨.derivative, 1, 5, one_pos⟩,
        ⟨.derivative, 1, 1, one_pos⟩]).derivative 1 3).2 b) :=
  (derivative_isFit_iff 2 (by decide) (by decide) _ (List.cons_ne_nil _ _)
    ⟨.derivative, 1, 3, one_pos⟩).mpr (Or.inl (by decide))

/-- Two samples of the same value in a window of three, whose line is level. -/
theorem derivative_not_isFit_constant :
    ¬∃ b, IsFit (SlidingBuffer.keepLast 3 (stamped
        ([⟨.derivative, 1, 1, one_pos⟩] ++ [⟨.derivative, 1, 1, one_pos⟩])))
      ((after 3 [⟨.derivative, 1, 1, one_pos⟩]).derivative 1 1).2 b := by
  have hSlope : ((after 3 [⟨.derivative, 1, 1, one_pos⟩]).derivative 1 1).2 = 1 / 2 := by
    decide +kernel
  have hPoints : SlidingBuffer.keepLast 3 (stamped
      ([⟨.derivative, 1, 1, one_pos⟩] ++ [⟨.derivative, 1, 1, one_pos⟩])) = [(1, 1), (2, 1)] := by
    decide +kernel
  rintro ⟨b, hFit⟩
  have hLevel := hFit 0 1
  rw [hPoints, hSlope] at hLevel
  simp only [squares, List.map_cons, List.map_nil, List.sum_cons, List.sum_nil] at hLevel
  nlinarith [mul_self_nonneg b, mul_self_nonneg (b - 1 / 2)]

end RmTest.Algorithms.OrdinaryLeastSquares

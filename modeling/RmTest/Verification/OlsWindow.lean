import RmTest.Algorithms.OrdinaryLeastSquares
import RmTest.Library.LeastSquares
import RmTest.Library.SlidingBuffer
import Mathlib.Data.List.Induction

/-! What the window of a least-squares filter holds after any sequence of samples: the
last of them with their times, counted from a start that moves along, behind cells that
are still zero. -/
namespace RmTest.Algorithms.OrdinaryLeastSquares

open FloatModel LeastSquares

theorem cell_setIfInBounds (values : Vector ℚ kMaxOrder) {i : Nat} (inside : i < kMaxOrder)
    (value : ℚ) (j : Nat) :
    cell (values.setIfInBounds i value) j = if j = i then value else cell values j := by
  unfold cell
  by_cases hSame : j = i
  · subst hSame
    simp [inside]
  · have hOther : i ≠ j := fun h => hSame h.symm
    simp [hSame, Array.getElem?_setIfInBounds_ne hOther]

/-- The loop reads every cell before it writes it. -/
theorem cell_moveDown_range (temp : ℚ) (x y : Vector ℚ kMaxOrder) (n : Nat) (inside : n < kMaxOrder)
    (j : Nat) :
    let cells := (List.range n).foldl
      (fun cells i =>
        (cells.1.setIfInBounds i (cell cells.1 (i + 1) - temp),
          cells.2.setIfInBounds i (cell cells.2 (i + 1)))) (x, y)
    cell cells.1 j = (if j < n then cell x (j + 1) - temp else cell x j) ∧
      cell cells.2 j = if j < n then cell y (j + 1) else cell y j := by
  induction n generalizing j with
  | zero => simp
  | succ n ih =>
      have hIn : n < kMaxOrder := Nat.lt_of_succ_lt inside
      obtain ⟨hX, hY⟩ := ih hIn (n + 1)
      obtain ⟨hXj, hYj⟩ := ih hIn j
      simp only [List.range_succ, List.foldl_append, List.foldl_cons, List.foldl_nil,
        cell_setIfInBounds _ hIn, hX, hY, hXj, hYj]
      by_cases hHere : j = n
      · subst hHere
        simp
      · have hBelow : j < n + 1 ↔ j < n := by omega
        simp [hHere, hBelow]

section TakeSample

variable (ols : OrdinaryLeastSquares ℚ) (deltax ySample : ℚ)

theorem order_takeSample : (ols.takeSample deltax ySample).order = ols.order := rfl

theorem count_takeSample (h : ols.count ≤ ols.order) :
    (ols.takeSample deltax ySample).count = min (ols.count + 1) ols.order := by
  simp only [takeSample]
  split_ifs <;> omega

/-- Every cell takes the next one's value, and the last one the sample. -/
theorem cell_takeSample (enough : 2 ≤ ols.order) {i : Nat} (inside : i < ols.order) :
    cell (ols.takeSample deltax ySample).x i =
        (if i + 1 < ols.order then cell ols.x (i + 1) - cell ols.x 1
          else cell ols.x (ols.order - 1) - cell ols.x 1 + deltax) ∧
      cell (ols.takeSample deltax ySample).y i =
        if i + 1 < ols.order then cell ols.y (i + 1) else ySample := by
  have hOrder := ols.order_le
  have hMoved (j : Nat) :=
    cell_moveDown_range (cell ols.x 1) ols.x ols.y (ols.order - 1) (by omega) j
  obtain ⟨hBefore, -⟩ := hMoved (ols.order - 2)
  obtain ⟨hX, hY⟩ := hMoved i
  have hNext : ols.order - 2 + 1 = ols.order - 1 := by omega
  rw [if_pos (by omega), hNext] at hBefore
  simp only [takeSample, moveDown, cell_setIfInBounds _ (show ols.order - 1 < kMaxOrder by omega),
    hX, hY, hBefore]
  by_cases hLast : i = ols.order - 1
  · rw [if_pos hLast, if_pos hLast, if_neg (by omega), if_neg (by omega)]
    exact ⟨rfl, rfl⟩
  · rw [if_neg hLast, if_neg hLast, if_pos (by omega), if_pos (by omega), if_pos (by omega),
      if_pos (by omega)]
    exact ⟨rfl, rfl⟩

end TakeSample

/-- The samples in the window. -/
def points (ols : OrdinaryLeastSquares ℚ) : List (ℚ × ℚ) :=
  ols.inUse.map fun i => (cell ols.x i, cell ols.y i)

/-- The whole window, with the cells that were never filled. -/
def window (ols : OrdinaryLeastSquares ℚ) : List (ℚ × ℚ) :=
  padded (ols.order - ols.count) ols.points

theorem length_points (ols : OrdinaryLeastSquares ℚ) : ols.points.length = ols.count := by
  rw [points, List.length_map, inUse, List.length_range']

theorem length_window (ols : OrdinaryLeastSquares ℚ) (h : ols.count ≤ ols.order) :
    ols.window.length = ols.order := by
  rw [window, length_padded, length_points]
  omega

/-- The four sums are the moments of the points. -/
theorem addUp_eq (ols : OrdinaryLeastSquares ℚ) :
    ols.addUp = #v[(moments ols.points).xx, (moments ols.points).x, (moments ols.points).xy,
      (moments ols.points).y] := by
  have hFold (indices : List Nat) (xx x xy y : ℚ) :
      indices.foldl
        (fun (t : Vector ℚ 4) i =>
          #v[t[0] + cell ols.x i * cell ols.x i, t[1] + cell ols.x i,
            t[2] + cell ols.x i * cell ols.y i, t[3] + cell ols.y i]) #v[xx, x, xy, y] =
      #v[xx + (moments (indices.map fun i => (cell ols.x i, cell ols.y i))).xx,
        x + (moments (indices.map fun i => (cell ols.x i, cell ols.y i))).x,
        xy + (moments (indices.map fun i => (cell ols.x i, cell ols.y i))).xy,
        y + (moments (indices.map fun i => (cell ols.x i, cell ols.y i))).y] := by
    induction indices generalizing xx x xy y with
    | nil => simp [moments]
    | cons i rest ih =>
        rw [List.foldl_cons, List.map_cons, moments_cons]
        simp only [← add_assoc]
        exact ih _ _ _ _
  have hSums := hFold ols.inUse 0 0 0 0
  simp only [zero_add] at hSums
  exact hSums

/-- After a sample the sums are those of the window. -/
theorem t_takeSample (ols : OrdinaryLeastSquares ℚ) (deltax ySample : ℚ) :
    (ols.takeSample deltax ySample).t = (ols.takeSample deltax ySample).addUp := rfl

section Fitted

variable {ols : OrdinaryLeastSquares ℚ} (sums : ols.t = ols.addUp) (full : ols.count ≤ ols.order)

include sums full

theorem denom_eq_spread : ols.denom = spread ols.window := by
  rw [denom, sums, addUp_eq, spread, length_window ols full, window, moments_padded]
  rfl

/-- The formulas with the order in the place of the count fit the whole window. -/
theorem fittedK_eq_slope : ols.fittedK = fitSlope ols.window := by
  rw [fittedK, denom_eq_spread sums full, sums, addUp_eq, fitSlope, length_window ols full, window,
    moments_padded]
  rfl

theorem fittedB_eq_intercept : ols.fittedB = fitIntercept ols.window := by
  rw [fittedB, denom_eq_spread sums full, sums, addUp_eq, fitIntercept, window, moments_padded]
  rfl

end Fitted

inductive Way where
  | update
  | derivative
  | smooth
  deriving DecidableEq

/-- A call of one of the three functions. -/
structure Call where
  way : Way
  deltax : ℚ
  y : ℚ
  positive : 0 < deltax

def step (ols : OrdinaryLeastSquares ℚ) (call : Call) : OrdinaryLeastSquares ℚ :=
  match call.way with
  | .update => ols.update call.deltax call.y
  | .derivative => (ols.derivative call.deltax call.y).1
  | .smooth => (ols.smooth call.deltax call.y).1

/-- When the `n`-th sample came, counted from `init`. -/
def timeAt (calls : List Call) (n : Nat) : ℚ := ((calls.take n).map Call.deltax).sum

/-- The value of the `n`-th sample, with zero at the time of `init`. -/
def valueAt (calls : List Call) (n : Nat) : ℚ := (0 :: calls.map Call.y).getD n 0

/-- The samples with their times. -/
def stamped (calls : List Call) : List (ℚ × ℚ) :=
  (List.range' 1 calls.length).map fun n => (timeAt calls n, valueAt calls n)

theorem timeAt_append (calls : List Call) (call : Call) {n : Nat} (h : n ≤ calls.length) :
    timeAt (calls ++ [call]) n = timeAt calls n := by
  rw [timeAt, timeAt, List.take_append_of_le_length h]

theorem timeAt_last (calls : List Call) (call : Call) :
    timeAt (calls ++ [call]) (calls.length + 1) = timeAt calls calls.length + call.deltax := by
  rw [timeAt, timeAt, List.take_of_length_le (by simp), List.take_length, List.map_append,
    List.sum_append]
  simp

theorem valueAt_append (calls : List Call) (call : Call) {n : Nat} (h : n ≤ calls.length) :
    valueAt (calls ++ [call]) n = valueAt calls n := by
  have hInside : n < (0 :: calls.map Call.y).length := by
    rw [List.length_cons, List.length_map]
    omega
  rw [valueAt, valueAt, List.map_append, ← List.cons_append, List.getD_eq_getElem?_getD,
    List.getElem?_append_left hInside, ← List.getD_eq_getElem?_getD]

theorem valueAt_last (calls : List Call) (call : Call) :
    valueAt (calls ++ [call]) (calls.length + 1) = call.y := by
  simp [valueAt, List.getD_eq_getElem?_getD]

theorem timeAt_succ (calls : List Call) {n : Nat} (h : n < calls.length) :
    timeAt calls n < timeAt calls (n + 1) := by
  have hPositive := calls[n].positive
  rw [timeAt, timeAt, List.take_succ_eq_append_getElem h, List.map_append, List.sum_append]
  simpa using hPositive

/-- The window after a sequence of calls. -/
structure Tracks (calls : List Call) (ols : OrdinaryLeastSquares ℚ) : Prop where
  count_eq : ols.count = min calls.length ols.order
  x_eq : ∀ i < ols.order, cell ols.x i =
    timeAt calls (calls.length + i + 1 - ols.order) - timeAt calls (calls.length + 1 - ols.order)
  y_eq : ∀ i < ols.order, cell ols.y i = valueAt calls (calls.length + i + 1 - ols.order)

/-- A call with an order that fits a line leaves the window as its sample leaves it. -/
theorem step_window {ols : OrdinaryLeastSquares ℚ} (enough : 2 ≤ ols.order) (call : Call) :
    (ols.step call).order = ols.order ∧
      (ols.step call).count = (ols.takeSample call.deltax call.y).count ∧
      (ols.step call).x = (ols.takeSample call.deltax call.y).x ∧
      (ols.step call).y = (ols.takeSample call.deltax call.y).y := by
  have hOrder : ¬ols.order < 2 := Nat.not_lt.mpr enough
  cases hWay : call.way <;> simp only [step, hWay, update, derivative, smooth, if_neg hOrder] <;>
    split_ifs <;> exact ⟨rfl, rfl, rfl, rfl⟩

theorem Tracks.takeSample {calls : List Call} {ols : OrdinaryLeastSquares ℚ}
    (tracks : Tracks calls ols) (enough : 2 ≤ ols.order) (call : Call) :
    Tracks (calls ++ [call]) (ols.takeSample call.deltax call.y) := by
  obtain ⟨hFilled, hCellX, hCellY⟩ := tracks
  have hLength : (calls ++ [call]).length = calls.length + 1 := by simp
  constructor
  · rw [count_takeSample _ _ _ (by omega), order_takeSample, hLength, hFilled]
    omega
  · intro i hi
    rw [order_takeSample] at hi
    obtain ⟨hCell, -⟩ := cell_takeSample ols call.deltax call.y enough hi
    have hStart :=
      timeAt_append calls call (show calls.length + 2 - ols.order ≤ calls.length by omega)
    have hFirst : calls.length + 1 + 1 - ols.order = calls.length + 2 - ols.order := by omega
    rw [hCell, order_takeSample, hLength, hFirst, hStart, hCellX 1 (by omega), hFirst]
    by_cases hLast : i + 1 < ols.order
    · have hIndex : calls.length + 1 + i + 1 - ols.order =
          calls.length + (i + 1) + 1 - ols.order := by
        omega
      rw [if_pos hLast, hCellX (i + 1) hLast, hIndex,
        timeAt_append calls call
          (show calls.length + (i + 1) + 1 - ols.order ≤ calls.length by omega)]
      ring
    · have hIndex : calls.length + 1 + i + 1 - ols.order = calls.length + 1 := by omega
      have hBefore : calls.length + (ols.order - 1) + 1 - ols.order = calls.length := by omega
      rw [if_neg hLast, hCellX (ols.order - 1) (by omega), hIndex, timeAt_last, hBefore]
      ring
  · intro i hi
    rw [order_takeSample] at hi
    obtain ⟨-, hCell⟩ := cell_takeSample ols call.deltax call.y enough hi
    rw [hCell, order_takeSample, hLength]
    by_cases hLast : i + 1 < ols.order
    · have hIndex : calls.length + 1 + i + 1 - ols.order =
          calls.length + (i + 1) + 1 - ols.order := by
        omega
      rw [if_pos hLast, hCellY (i + 1) hLast, hIndex,
        valueAt_append calls call
          (show calls.length + (i + 1) + 1 - ols.order ≤ calls.length by omega)]
    · have hIndex : calls.length + 1 + i + 1 - ols.order = calls.length + 1 := by omega
      rw [if_neg hLast, hIndex, valueAt_last]

theorem Tracks.step {calls : List Call} {ols : OrdinaryLeastSquares ℚ} (tracks : Tracks calls ols)
    (enough : 2 ≤ ols.order) (call : Call) : Tracks (calls ++ [call]) (ols.step call) := by
  obtain ⟨hOrder, hCount, hX, hY⟩ := step_window enough call
  obtain ⟨hFilled, hCellX, hCellY⟩ := tracks.takeSample enough call
  rw [order_takeSample] at hFilled hCellX hCellY
  constructor
  · rw [hCount, hOrder, hFilled]
  · rw [hX, hOrder]
    exact hCellX
  · rw [hY, hOrder]
    exact hCellY

theorem cell_replicate (i : Nat) : cell (Vector.replicate kMaxOrder (0 : ℚ)) i = 0 := by
  unfold cell
  by_cases h : i < kMaxOrder <;> simp [h]

theorem tracks_init (order : UInt16) : Tracks [] (init order) := by
  constructor
  · simp [init]
  · intro i hi
    simp [init, cell_replicate, timeAt]
  · intro i hi
    have hIndex : ([] : List Call).length + i + 1 -
        (init order : OrdinaryLeastSquares ℚ).order = 0 := by
      simp only [List.length_nil]
      omega
    rw [hIndex]
    exact cell_replicate i

/-- The filter after a sequence of calls on one that was just set up. -/
def after (order : UInt16) (calls : List Call) : OrdinaryLeastSquares ℚ :=
  calls.foldl step (init order)

theorem order_init {order : UInt16} (small : order ≤ 16) :
    (init order : OrdinaryLeastSquares ℚ).order = order.toNat := by
  rw [UInt16.le_iff_toNat_le] at small
  exact Nat.min_eq_left small

theorem tracks_after {order : UInt16} (enough : 2 ≤ order) (small : order ≤ 16)
    (calls : List Call) :
    (after order calls).order = order.toNat ∧ Tracks calls (after order calls) := by
  have hEnough : 2 ≤ order.toNat := UInt16.le_iff_toNat_le.mp enough
  induction calls using List.reverseRecOn with
  | nil => exact ⟨order_init small, tracks_init order⟩
  | append_singleton calls call ih =>
      obtain ⟨hOrder, hTracks⟩ := ih
      rw [after, List.foldl_append]
      have hWide : 2 ≤ (after order calls).order := by rwa [hOrder]
      exact ⟨(step_window hWide call).1.trans hOrder, hTracks.step hWide call⟩

theorem timeAt_zero (calls : List Call) : timeAt calls 0 = 0 := rfl

theorem timeAt_lt (calls : List Call) {m n : Nat} (order : m < n) (inside : n ≤ calls.length) :
    timeAt calls m < timeAt calls n := by
  induction n with
  | zero => omega
  | succ n ih =>
      have hStep := timeAt_succ calls (show n < calls.length by omega)
      rcases Nat.lt_succ_iff_lt_or_eq.mp order with hBefore | rfl
      · exact (ih hBefore (by omega)).trans hStep
      · exact hStep

theorem keepLast_stamped (order : Nat) (calls : List Call) :
    SlidingBuffer.keepLast order (stamped calls) =
      (List.range' (calls.length + 1 - min calls.length order) (min calls.length order)).map
        fun n => (timeAt calls n, valueAt calls n) := by
  have hStart : 1 + (calls.length - order) = calls.length + 1 - min calls.length order := by omega
  have hCount : calls.length - (calls.length - order) = min calls.length order := by omega
  rw [SlidingBuffer.keepLast, stamped, List.length_map, List.length_range', ← List.map_drop,
    List.drop_range', Nat.mul_one, hStart, hCount]

/-- The samples in the window are the last ones, with a later start of their times. -/
theorem Tracks.points_eq {calls : List Call} {ols : OrdinaryLeastSquares ℚ}
    (tracks : Tracks calls ols) :
    ols.points = countedFrom (timeAt calls (calls.length + 1 - ols.order))
      (SlidingBuffer.keepLast ols.order (stamped calls)) := by
  obtain ⟨hCount, hX, hY⟩ := tracks
  rw [keepLast_stamped, points, inUse, countedFrom, List.map_map, ← hCount,
    List.range'_eq_map_range, List.range'_eq_map_range, List.map_map, List.map_map]
  apply List.map_congr_left
  intro i hi
  have hBelow := List.mem_range.mp hi
  have hIndex : calls.length + (ols.order - ols.count + i) + 1 - ols.order =
      calls.length + 1 - ols.count + i := by omega
  simp only [Function.comp_apply, hX (ols.order - ols.count + i) (by omega),
    hY (ols.order - ols.count + i) (by omega), hIndex]

theorem mem_keepLast_stamped {order : Nat} {calls : List Call} {n : Nat}
    (recent : calls.length < n + order) (positive : 0 < n) (inside : n ≤ calls.length) :
    (timeAt calls n, valueAt calls n) ∈ SlidingBuffer.keepLast order (stamped calls) := by
  rw [keepLast_stamped]
  apply List.mem_map_of_mem
  rw [List.mem_range'_1]
  omega

/-- Two samples are at different times. -/
theorem spread_keepLast {order : Nat} (enough : 2 ≤ order) {calls : List Call}
    (two : 2 ≤ calls.length) : 0 < spread (SlidingBuffer.keepLast order (stamped calls)) := by
  have hLast : (timeAt calls calls.length, valueAt calls calls.length) ∈
      SlidingBuffer.keepLast order (stamped calls) :=
    mem_keepLast_stamped (by omega) (by omega) (Nat.le_refl _)
  have hBefore : (timeAt calls (calls.length - 1), valueAt calls (calls.length - 1)) ∈
      SlidingBuffer.keepLast order (stamped calls) :=
    mem_keepLast_stamped (by omega) (by omega) (by omega)
  exact spread_pos hLast hBefore (timeAt_lt calls (by omega) (Nat.le_refl _)).ne'

/-- After one sample already the window can be fitted. -/
theorem Tracks.spread_window {calls : List Call} {ols : OrdinaryLeastSquares ℚ}
    (tracks : Tracks calls ols) (enough : 2 ≤ ols.order) (some : calls ≠ []) :
    0 < spread ols.window := by
  have hLength : 0 < calls.length := List.length_pos_of_ne_nil some
  have hPoints := tracks.points_eq
  by_cases hFull : ols.order ≤ calls.length
  · have hNone : ols.order - ols.count = 0 := by
      rw [tracks.count_eq]
      omega
    rw [window, hNone, hPoints]
    have hSpread := spread_keepLast enough (show 2 ≤ calls.length by omega)
    rw [← spread_countedFrom (timeAt calls (calls.length + 1 - ols.order))] at hSpread
    exact hSpread
  · have hStart : calls.length + 1 - ols.order = 0 := by omega
    have hOrigin : ((0, 0) : ℚ × ℚ) ∈ ols.window := by
      have hEmpty : ols.order - ols.count ≠ 0 := by
        rw [tracks.count_eq]
        omega
      exact List.mem_append_left _ (List.mem_replicate.mpr ⟨hEmpty, rfl⟩)
    have hLast : (timeAt calls calls.length - 0, valueAt calls calls.length) ∈ ols.window := by
      apply List.mem_append_right
      rw [hPoints, hStart, timeAt_zero]
      exact List.mem_map_of_mem (mem_keepLast_stamped (by omega) hLength (Nat.le_refl _))
    have hTime := timeAt_lt calls hLength (Nat.le_refl _)
    apply spread_pos hLast hOrigin
    rw [sub_zero]
    exact hTime.ne'

end RmTest.Algorithms.OrdinaryLeastSquares

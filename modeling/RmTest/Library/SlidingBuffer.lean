import Mathlib.Data.List.Basic

/-! A fixed array of which the first `len` cells are in use. Input is appended
at the end, discarding the oldest cell when the array is full, and removed from
the front by moving the rest down. `toList` is what the buffer holds; the
operations are characterized by their effect on it. -/

/-- The bound on `len` is part of the buffer, so every cell below `len` exists. -/
structure SlidingBuffer (α : Type) (capacity : Nat) where
  data : Vector α capacity
  len : Nat
  len_le : len ≤ capacity

namespace SlidingBuffer

variable {α : Type} {capacity : Nat}

def toList (buffer : SlidingBuffer α capacity) : List α := buffer.data.toList.take buffer.len

@[simp] theorem length_toList (buffer : SlidingBuffer α capacity) :
    buffer.toList.length = buffer.len := by
  simp [toList, buffer.len_le]

/-- The buffer with nothing in use; the cells keep what they held. -/
def clear (buffer : SlidingBuffer α capacity) : SlidingBuffer α capacity :=
  { buffer with len := 0, len_le := Nat.zero_le _ }

@[simp] theorem toList_clear (buffer : SlidingBuffer α capacity) : buffer.clear.toList = [] := by
  simp [toList, clear]

/-- `memmove(data, data + offset, count)`: the cells `offset ..< offset + count`
are copied to the front, as far as they exist, and the others are untouched. -/
def moveDown (data : Vector α capacity) (offset count : Nat) : Vector α capacity :=
  Vector.ofFn fun i =>
    if h : i.val < count ∧ i.val + offset < capacity then data[i.val + offset] else data[i.val]

theorem take_moveDown (data : Vector α capacity) (offset count : Nat)
    (hCells : offset + count ≤ capacity) :
    (moveDown data offset count).toList.take count = (data.toList.drop offset).take count := by
  apply List.ext_getElem?
  intro i
  by_cases hCount : i < count
  · have hCell : i + offset < capacity := by omega
    have hHere : i < capacity := by omega
    simp [List.getElem?_drop, hCount, moveDown, hCell, hHere, Nat.add_comm offset i]
  · rw [List.getElem?_take, List.getElem?_take, if_neg hCount, if_neg hCount]

/-- Append a cell, dropping the oldest one when the array is full. -/
def push (buffer : SlidingBuffer α capacity) (value : α) : SlidingBuffer α capacity :=
  if h : buffer.len < capacity then
    { data := buffer.data.set buffer.len value, len := buffer.len + 1, len_le := h }
  else
    { buffer with
      data := (moveDown buffer.data 1 (capacity - 1)).setIfInBounds (capacity - 1) value }

/-- Remove the first `count` cells, or all when there are fewer. -/
def consume (buffer : SlidingBuffer α capacity) (count : Nat) : SlidingBuffer α capacity :=
  if buffer.len ≤ count then buffer.clear
  else
    { data := moveDown buffer.data count (buffer.len - count)
      len := buffer.len - count
      len_le := Nat.le_trans (Nat.sub_le _ _) buffer.len_le }

theorem take_set_succ (cells : List α) (value : α) (count : Nat) (h : count < cells.length) :
    (cells.set count value).take (count + 1) = cells.take count ++ [value] := by
  rw [List.take_succ_eq_append_getElem (by simpa using h), List.take_set_of_le (Nat.le_refl _)]
  simp

theorem toList_push (buffer : SlidingBuffer α capacity) (value : α)
    (room : buffer.len < capacity) : (buffer.push value).toList = buffer.toList ++ [value] := by
  simp only [push, room, dite_true, toList, Vector.toList_set]
  exact take_set_succ _ _ _ (by simpa using room)

/-- Appending to a full array drops the oldest cell. -/
theorem toList_push_full (buffer : SlidingBuffer α capacity) (value : α)
    (full : buffer.len = capacity) (positive : 0 < capacity) :
    (buffer.push value).toList = buffer.toList.drop 1 ++ [value] := by
  cases capacity with
  | zero => omega
  | succ count =>
      have hCells : (moveDown buffer.data 1 count).toList.take count = buffer.toList.drop 1 := by
        rw [take_moveDown _ _ _ (by omega), toList, full, List.drop_take]
        rfl
      rw [push, dif_neg (by omega), ← hCells]
      simp only [toList, full, Vector.toList_setIfInBounds, Nat.add_sub_cancel]
      exact take_set_succ _ _ _ (by simp)

@[simp] theorem toList_consume (buffer : SlidingBuffer α capacity) (count : Nat) :
    (buffer.consume count).toList = buffer.toList.drop count := by
  have hBound := buffer.len_le
  by_cases h : buffer.len ≤ count
  · simp [consume, h]
  · simp only [consume, h, if_false, toList]
    rw [take_moveDown _ _ _ (by omega), List.drop_take]

/-- The last `count` elements of a list, or all when there are fewer. -/
def keepLast (count : Nat) (list : List α) : List α := list.drop (list.length - count)

/-- Appending keeps the last `capacity` of what was there and what came. -/
theorem toList_push_keepLast (buffer : SlidingBuffer α capacity) (value : α)
    (positive : 0 < capacity) :
    (buffer.push value).toList = keepLast capacity (buffer.toList ++ [value]) := by
  have hBound := buffer.len_le
  by_cases hRoom : buffer.len < capacity
  · have hNothing : buffer.len + 1 - capacity = 0 := by omega
    simp [toList_push _ _ hRoom, keepLast, hNothing]
  · have hFull : buffer.len = capacity := by omega
    have hOne : buffer.len + 1 - capacity = 1 := by omega
    simp only [keepLast, List.length_append, length_toList, List.length_singleton, hOne]
    rw [toList_push_full _ _ hFull positive, List.drop_append_of_le_length]
    rw [length_toList]
    omega

theorem keepLast_of_le {count : Nat} {list : List α} (h : list.length ≤ count) :
    keepLast count list = list := by
  rw [keepLast, Nat.sub_eq_zero_of_le h, List.drop_zero]

/-- What was already dropped would not have been kept. -/
theorem keepLast_append (count : Nat) (front more : List α) :
    keepLast count (keepLast count front ++ more) = keepLast count (front ++ more) := by
  simp only [keepLast, List.length_append, List.length_drop]
  rw [← List.drop_append_of_le_length (by omega), List.drop_drop]
  congr 1
  omega

theorem toList_foldl_push (chunk : List α) (buffer : SlidingBuffer α capacity)
    (positive : 0 < capacity) :
    (chunk.foldl push buffer).toList = keepLast capacity (buffer.toList ++ chunk) := by
  induction chunk generalizing buffer with
  | nil =>
      have hBound := buffer.len_le
      rw [List.append_nil, keepLast_of_le (by simpa using hBound)]
      rfl
  | cons value rest ih =>
      rw [List.foldl_cons, ih, toList_push_keepLast _ _ positive, keepLast_append,
        List.append_assoc, List.singleton_append]

end SlidingBuffer

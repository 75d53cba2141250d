import RmTest.Library.SlidingBuffer

/-! Arrays that are accessed through checks: outside of the array there is no result.
On the plain variables of a sliding buffer the checked accesses succeed and make of
them what the operations of the buffer make of it. -/
namespace CheckedArray

variable {α : Type} {capacity : Nat}

def load (cells : List α) (i : Nat) : Option α := cells[i]?

def store (buf : Vector α capacity) (i : Nat) (value : α) : Option (Vector α capacity) :=
  if h : i < capacity then some (buf.set i value) else none

/-- `memmove(data, data + offset, count)`, which reads up to `offset + count`. -/
def memmove (buf : Vector α capacity) (offset count : Nat) : Option (Vector α capacity) :=
  if offset + count ≤ capacity then some (SlidingBuffer.moveDown buf offset count) else none

/-- The characters before the terminating zero, which the array has to hold. -/
def string (cells : List UInt8) : Option (List UInt8) :=
  if 0 ∈ cells then some (cells.takeWhile (· ≠ 0)) else none

theorem load_eq (cells : List α) (default : α) {i : Nat} (inside : i < cells.length) :
    load cells i = some (cells.getD i default) := by
  rw [load, List.getD_eq_getElem?_getD, List.getElem?_eq_getElem inside, Option.getD_some]

theorem store_eq (buf : Vector α capacity) {i : Nat} (inside : i < capacity) (value : α) :
    store buf i value = some (buf.setIfInBounds i value) := by
  have hSet : buf.set i value = buf.setIfInBounds i value := by
    ext j hj
    rw [Vector.getElem_set, Vector.getElem_setIfInBounds]
  rw [store, dif_pos inside, hSet]

theorem memmove_eq (buf : Vector α capacity) {offset count : Nat}
    (inside : offset + count ≤ capacity) :
    memmove buf offset count = some (SlidingBuffer.moveDown buf offset count) := if_pos inside

/-- A string that was just terminated ends inside of its array. -/
theorem string_terminated (buf : Vector UInt8 capacity) {i : Nat} (inside : i < capacity) :
    string (buf.setIfInBounds i 0).toList =
      some ((buf.setIfInBounds i 0).toList.takeWhile (· ≠ 0)) := by
  have hZero : 0 ∈ (buf.setIfInBounds i 0).toList := by
    rw [Vector.toList_setIfInBounds]
    exact List.mem_set (by rwa [Vector.length_toList]) 0
  rw [string, if_pos hZero]

theorem store_push (buffer : SlidingBuffer α capacity) (value : α)
    (room : buffer.len < capacity) :
    store buffer.data buffer.len value = some (buffer.push value).data := by
  rw [store, dif_pos room, SlidingBuffer.push, dif_pos room]

/-- A full array is moved down by one cell before the last one is written. -/
theorem memmove_push (buffer : SlidingBuffer α capacity) (value : α) (positive : 0 < capacity)
    (full : ¬ buffer.len < capacity) :
    (memmove buffer.data 1 (capacity - 1)).bind (fun moved => store moved (capacity - 1) value) =
      some (buffer.push value).data := by
  rw [memmove_eq _ (by omega), Option.bind_some, store_eq _ (by omega), SlidingBuffer.push,
    dif_neg full]

theorem memmove_consume (buffer : SlidingBuffer α capacity) {count : Nat}
    (more : ¬ buffer.len ≤ count) :
    memmove buffer.data count (buffer.len - count) = some (buffer.consume count).data := by
  have hBound := buffer.len_le
  rw [memmove_eq _ (by omega), SlidingBuffer.consume, if_neg more]

end CheckedArray

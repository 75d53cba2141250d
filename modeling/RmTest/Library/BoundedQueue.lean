import Mathlib.Data.List.Basic

/-! First-in first-out queues of bounded size whose producers do not wait: an
item that finds the queue full is lost. -/

structure BoundedQueue (Item : Type) (capacity : Nat) where
  items : List Item
  length_le : items.length ≤ capacity
  deriving DecidableEq

namespace BoundedQueue

variable {Item : Type} {capacity : Nat}

def empty : BoundedQueue Item capacity := ⟨[], Nat.zero_le capacity⟩

/-- There is room for one more item. -/
def HasRoom (queue : BoundedQueue Item capacity) : Prop := queue.items.length < capacity

instance (queue : BoundedQueue Item capacity) : Decidable queue.HasRoom :=
  inferInstanceAs (Decidable (_ < _))

def put (queue : BoundedQueue Item capacity) (item : Item) : BoundedQueue Item capacity :=
  if h : queue.HasRoom then
    ⟨queue.items ++ [item], by
      rw [List.length_append]
      exact h⟩
  else queue

/-- The oldest item and the queue without it. -/
def get? (queue : BoundedQueue Item capacity) : Option (Item × BoundedQueue Item capacity) :=
  match queue with
  | ⟨[], _⟩ => none
  | ⟨item :: rest, h⟩ => some (item, ⟨rest, Nat.le_of_succ_le h⟩)

@[simp] theorem items_empty : (empty : BoundedQueue Item capacity).items = [] := rfl

theorem items_put {queue : BoundedQueue Item capacity} (room : queue.HasRoom) (item : Item) :
    (queue.put item).items = queue.items ++ [item] := by
  unfold put
  rw [dif_pos room]

theorem put_full {queue : BoundedQueue Item capacity} (full : ¬ queue.HasRoom) (item : Item) :
    queue.put item = queue := dif_neg full

/-- Whether or not there was room, nothing else joins the queue. -/
theorem items_put_sublist (queue : BoundedQueue Item capacity) (item : Item) :
    (queue.put item).items.Sublist (queue.items ++ [item]) := by
  by_cases hRoom : queue.HasRoom
  · rw [items_put hRoom]
  · rw [put_full hRoom]
    exact List.sublist_append_left _ _

/-- A queue is empty, or gives its oldest item away. -/
theorem get?_cases (queue : BoundedQueue Item capacity) :
    (queue.get? = none ∧ queue.items = []) ∨
      ∃ item rest, queue.get? = some (item, rest) ∧ queue.items = item :: rest.items := by
  match queue with
  | ⟨[], _⟩ => exact .inl ⟨rfl, rfl⟩
  | ⟨item :: rest, h⟩ => exact .inr ⟨item, ⟨rest, Nat.le_of_succ_le h⟩, rfl, rfl⟩

end BoundedQueue

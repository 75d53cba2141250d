import Mathlib.Data.List.Basic

/-! What the elements of a list weigh together. -/
namespace Total

variable {Item : Type} (weight : Item → Nat)

def total (items : List Item) : Nat := items.foldr (fun item sum => weight item + sum) 0

@[simp] theorem total_nil : total weight [] = 0 := rfl

@[simp] theorem total_cons (item : Item) (items : List Item) :
    total weight (item :: items) = weight item + total weight items := rfl

@[simp] theorem total_append (items more : List Item) :
    total weight (items ++ more) = total weight items + total weight more := by
  induction items with
  | nil => rw [List.nil_append, total_nil, Nat.zero_add]
  | cons item items ih => rw [List.cons_append, total_cons, ih, total_cons, Nat.add_assoc]

/-- A longer part of a list weighs no less. -/
theorem total_take_mono (items : List Item) {i j : Nat} (order : i ≤ j) :
    total weight (items.take i) ≤ total weight (items.take j) := by
  obtain ⟨more, rfl⟩ := Nat.exists_eq_add_of_le order
  rw [List.take_add, total_append]
  exact Nat.le_add_right _ _

/-- The total moves by as much as the element that is put in another's place. -/
theorem total_set {items : List Item} {i : Nat} (inside : i < items.length) (item default : Item) :
    total weight (items.set i item) + weight (items.getD i default) =
      total weight items + weight item := by
  induction items generalizing i with
  | nil => exact absurd inside (Nat.not_lt_zero _)
  | cons first items ih =>
      cases i with
      | zero =>
          simp only [List.set_cons_zero, total_cons, List.getD_cons_zero]
          omega
      | succ i =>
          have hRest := ih (Nat.lt_of_succ_lt_succ inside)
          simp only [List.set_cons_succ, total_cons, List.getD_cons_succ]
          omega

end Total

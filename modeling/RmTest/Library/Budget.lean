import RmTest.Library.Total

/-! Taking elements from the front of a list until a budget is spent. An element costs what
a weight says, and the budget is looked at before an element is taken, not after. -/
namespace Budget

open Total

variable {Item : Type} (weight : Item → Nat)

/-- How many elements are taken, if `spent` is spent before. -/
def taken (budget : Nat) : Nat → List Item → Nat
  | _, [] => 0
  | spent, item :: items =>
      if spent < budget then taken budget (spent + weight item) items + 1 else 0

variable {weight} {budget : Nat}

/-- A number of elements is taken when the budget lasts for each of them, and for no more
than them unless the list ends there. -/
theorem taken_eq_iff {spent count : Nat} {items : List Item} (inside : count ≤ items.length) :
    taken weight budget spent items = count ↔
      (∀ i < count, spent + total weight (items.take i) < budget) ∧
        (count < items.length → budget ≤ spent + total weight (items.take count)) := by
  induction items generalizing spent count with
  | nil =>
      have hZero : count = 0 := Nat.le_zero.mp inside
      simp [taken, hZero]
  | cons item items ih =>
      cases count with
      | zero =>
          by_cases hSpent : spent < budget
          · have hNot : ¬budget ≤ spent := Nat.not_le.mpr hSpent
            simp [taken, hSpent, hNot]
          · simp [taken, hSpent, Nat.not_lt.mp hSpent]
      | succ count =>
          rw [Nat.forall_lt_succ_left, List.take_zero, total_nil, Nat.add_zero, taken]
          by_cases hSpent : spent < budget
          · have hRest := @ih (spent + weight item) count (Nat.le_of_succ_le_succ inside)
            simp only [List.take_succ_cons, total_cons, ← Nat.add_assoc, List.length_cons,
              Nat.add_lt_add_iff_right, if_pos hSpent, Nat.add_right_cancel_iff, hRest]
            exact ⟨fun h => ⟨⟨hSpent, h.1⟩, h.2⟩, fun h => ⟨h.1.2, h.2⟩⟩
          · rw [if_neg hSpent]
            exact ⟨fun h => absurd h (Nat.succ_ne_zero _).symm, fun h => absurd h.1.1 hSpent⟩

theorem taken_le_length (spent : Nat) (items : List Item) :
    taken weight budget spent items ≤ items.length := by
  induction items generalizing spent with
  | nil => exact Nat.le_refl 0
  | cons item items ih =>
      rw [taken]
      split
      · exact Nat.succ_le_succ (ih _)
      · exact Nat.zero_le _

/-- The budget takes as many elements as a fixed number would exactly when all of them but
the last cost less than it, and all of them no less if there are more. -/
theorem taken_eq_min_iff (positive : 0 < budget) (count : Nat) (items : List Item) :
    taken weight budget 0 items = min items.length count ↔
      total weight (items.take (min items.length count - 1)) < budget ∧
        (count < items.length → budget ≤ total weight (items.take count)) := by
  rw [taken_eq_iff (Nat.min_le_left _ _)]
  simp only [Nat.zero_add]
  apply and_congr
  · constructor
    · intro hEach
      by_cases hNone : min items.length count = 0
      · rw [hNone]
        exact positive
      · exact hEach _ (Nat.sub_lt (Nat.pos_of_ne_zero hNone) Nat.one_pos)
    · intro hLast i hi
      exact Nat.lt_of_le_of_lt (total_take_mono weight items (Nat.le_sub_one_of_lt hi)) hLast
  · constructor
    · intro hFull hMore
      have hMin : min items.length count = count := Nat.min_eq_right (Nat.le_of_lt hMore)
      rw [hMin] at hFull
      exact hFull hMore
    · intro hFull hMore
      have hMin : min items.length count = count := by omega
      rw [hMin] at hMore ⊢
      exact hFull hMore

end Budget

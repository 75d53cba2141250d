import Mathlib.Data.List.GetD

/-! Tables of slots that are found by a property and replaced one at a time, and the
scan for the best of them. -/
namespace SlotTable

variable {Slot : Type}

/-- The slot found first splits the table, and replacing it leaves both parts. -/
theorem exists_split {table : List Slot} {property : Slot → Bool} {index : Nat}
    (found : table.findIdx? property = some index) :
    ∃ front slot back, table = front ++ slot :: back ∧ property slot = true ∧
      (∀ fallback, table.getD index fallback = slot) ∧
      ∀ new, table.set index new = front ++ new :: back := by
  obtain ⟨hIndex, hProperty, _⟩ := List.findIdx?_eq_some_iff_getElem.mp found
  refine ⟨table.take index, table[index], table.drop (index + 1), ?_, hProperty, ?_, ?_⟩
  · rw [List.getElem_cons_drop, List.take_append_drop]
  · intro fallback
    exact List.getD_eq_getElem table fallback hIndex
  · intro new
    exact List.set_eq_take_append_cons_drop.trans (if_pos hIndex)

variable (better : Slot → Slot → Bool)

/-- Keeps the better of the slot chosen so far and the next one. -/
def choose (chosen : Option Slot) (slot : Slot) : Option Slot :=
  match chosen with
  | none => some slot
  | some best => if better slot best then some slot else some best

/-- A scan that keeps the best slot seen. -/
def best (slots : List Slot) : Option Slot := slots.foldl (choose better) none

/-- How the slots of a table compare. -/
structure Ranks (slots : List Slot) : Prop where
  total : ∀ a ∈ slots, ∀ b ∈ slots, a = b ∨ better a b = true ∨ better b a = true
  trans : ∀ a b c, better a b = true → better b c = true → better a c = true

variable {better}

theorem foldl_choose_isSome (slots : List Slot) {chosen : Option Slot} (some : chosen.isSome) :
    (slots.foldl (choose better) chosen).isSome := by
  induction slots generalizing chosen with
  | nil => exact some
  | cons slot rest ih =>
      refine ih ?_
      obtain ⟨first, rfl⟩ := Option.isSome_iff_exists.mp some
      simp only [choose]
      split <;> rfl

/-- The scan finds a slot exactly if there is one. -/
theorem best_isSome (slots : List Slot) : (best better slots).isSome ↔ slots ≠ [] := by
  cases slots with
  | nil => simp [best]
  | cons slot rest =>
      exact iff_of_true (foldl_choose_isSome rest rfl) (List.cons_ne_nil slot rest)

theorem foldl_choose_mem {slots : List Slot} {first chosen : Slot}
    (scan : slots.foldl (choose better) (some first) = some chosen) : chosen ∈ first :: slots := by
  induction slots generalizing first with
  | nil => exact List.mem_singleton.mpr (Option.some.inj scan).symm
  | cons next rest ih =>
      rw [List.foldl_cons, choose] at scan
      split at scan
      · exact List.mem_cons_of_mem _ (ih scan)
      · rcases List.mem_cons.mp (ih scan) with rfl | hRest
        · exact List.mem_cons_self
        · exact List.mem_cons_of_mem _ (List.mem_cons_of_mem _ hRest)

/-- The slot found is in the table. -/
theorem best_mem {slots : List Slot} {chosen : Slot} (scan : best better slots = some chosen) :
    chosen ∈ slots := by
  cases slots with
  | nil => cases scan
  | cons first rest => exact foldl_choose_mem scan

theorem foldl_choose_best {slots : List Slot} {first chosen : Slot}
    (ranks : Ranks better (first :: slots))
    (scan : slots.foldl (choose better) (some first) = some chosen) :
    ∀ slot ∈ first :: slots, slot = chosen ∨ better chosen slot = true := by
  induction slots generalizing first with
  | nil =>
      obtain rfl := Option.some.inj scan
      exact fun slot h => .inl (List.mem_singleton.mp h)
  | cons next rest ih =>
      have hFirst : first ∈ first :: next :: rest := List.mem_cons_self
      have hNext : next ∈ first :: next :: rest := List.mem_cons_of_mem _ List.mem_cons_self
      intro slot hSlot
      rw [List.foldl_cons, choose] at scan
      by_cases hBetter : better next first = true
      · rw [if_pos hBetter] at scan
        have hAll := ih ⟨fun a ha b hb => ranks.total a (List.mem_cons_of_mem _ ha) b
          (List.mem_cons_of_mem _ hb), ranks.trans⟩ scan
        rcases List.mem_cons.mp hSlot with rfl | hRest
        · rcases hAll next List.mem_cons_self with rfl | hChosen
          · exact .inr hBetter
          · exact .inr (ranks.trans _ _ _ hChosen hBetter)
        · exact hAll slot hRest
      · rw [if_neg hBetter] at scan
        have hSub : ∀ a ∈ first :: rest, a ∈ first :: next :: rest := by
          intro a ha
          rcases List.mem_cons.mp ha with rfl | hRest
          · exact hFirst
          · exact List.mem_cons_of_mem _ (List.mem_cons_of_mem _ hRest)
        have hAll := ih ⟨fun a ha b hb => ranks.total a (hSub a ha) b (hSub b hb),
          ranks.trans⟩ scan
        have hKept : next = chosen ∨ better chosen next = true := by
          rcases ranks.total next hNext first hFirst with rfl | hWorse | hKept
          · exact hAll next List.mem_cons_self
          · exact absurd hWorse hBetter
          · rcases hAll first List.mem_cons_self with rfl | hChosen
            · exact .inr hKept
            · exact .inr (ranks.trans _ _ _ hChosen hKept)
        rcases List.mem_cons.mp hSlot with rfl | hRest
        · exact hAll slot List.mem_cons_self
        · rcases List.mem_cons.mp hRest with rfl | hRest
          · exact hKept
          · exact hAll slot (List.mem_cons_of_mem _ hRest)

/-- The slot found is better than all others. -/
theorem best_spec {slots : List Slot} {chosen : Slot} (ranks : Ranks better slots)
    (scan : best better slots = some chosen) :
    ∀ slot ∈ slots, slot = chosen ∨ better chosen slot = true := by
  cases slots with
  | nil => cases scan
  | cons first rest => exact foldl_choose_best ranks scan

end SlotTable

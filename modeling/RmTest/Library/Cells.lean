import Mathlib.Data.List.FinRange

/-! Loops over the cells of a vector of states, in which each state takes a step of
its own and puts its output into the same cell of a second vector. -/
namespace Cells

variable {size : Nat} {Cell Out : Type} (chosen : Fin size → Bool)
  (f : Fin size → Cell → Cell × Out)

/-- The pass for one cell, if it is chosen. -/
def pass (cells : Vector Cell size × Vector Out size) (i : Fin size) :
    Vector Cell size × Vector Out size :=
  if chosen i then
    (cells.1.setIfInBounds i (f i (cells.1.get i)).1,
      cells.2.setIfInBounds i (f i (cells.1.get i)).2)
  else cells

theorem get_map {Value Value' : Type} (g : Value → Value') (values : Vector Value size)
    (i : Fin size) : (values.map g).get i = g (values.get i) :=
  Vector.getElem_map g i.isLt

theorem get_setIfInBounds {Value : Type} (values : Vector Value size) (index : Nat) (value : Value)
    (i : Fin size) :
    (values.setIfInBounds index value).get i = if index = i.val then value else values.get i :=
  Vector.getElem_setIfInBounds i.isLt

theorem pass_self (cells : Vector Cell size × Vector Out size) (i : Fin size) :
    ((pass chosen f cells i).1.get i, (pass chosen f cells i).2.get i) =
      if chosen i then f i (cells.1.get i) else (cells.1.get i, cells.2.get i) := by
  unfold pass
  split_ifs
  · rw [get_setIfInBounds, get_setIfInBounds, if_pos rfl, if_pos rfl]
  · rfl

theorem pass_other (cells : Vector Cell size × Vector Out size) {i j : Fin size} (other : j ≠ i) :
    ((pass chosen f cells j).1.get i, (pass chosen f cells j).2.get i) =
      (cells.1.get i, cells.2.get i) := by
  have hIndex : j.val ≠ i.val := Fin.val_ne_of_ne other
  unfold pass
  split_ifs
  · rw [get_setIfInBounds, get_setIfInBounds, if_neg hIndex, if_neg hIndex]
  · rfl

theorem foldl_pass_of_not_mem (cells : Vector Cell size × Vector Out size)
    {indices : List (Fin size)} {i : Fin size} (absent : i ∉ indices) :
    ((indices.foldl (pass chosen f) cells).1.get i,
        (indices.foldl (pass chosen f) cells).2.get i) = (cells.1.get i, cells.2.get i) := by
  induction indices generalizing cells with
  | nil => rfl
  | cons j rest ih =>
      obtain ⟨hOther, hRest⟩ := not_or.mp (mt List.mem_cons.mpr absent)
      exact (ih _ hRest).trans (pass_other chosen f cells (Ne.symm hOther))

/-- After the passes for distinct cells, each of them has taken its own step. -/
theorem foldl_pass (cells : Vector Cell size × Vector Out size) {indices : List (Fin size)}
    (distinct : indices.Nodup) {i : Fin size} (present : i ∈ indices) :
    ((indices.foldl (pass chosen f) cells).1.get i,
        (indices.foldl (pass chosen f) cells).2.get i) =
      if chosen i then f i (cells.1.get i) else (cells.1.get i, cells.2.get i) := by
  induction indices generalizing cells with
  | nil => cases present
  | cons j rest ih =>
      obtain ⟨hAbsent, hDistinct⟩ := List.nodup_cons.mp distinct
      by_cases hSame : i = j
      · subst hSame
        exact (foldl_pass_of_not_mem chosen f _ hAbsent).trans (pass_self chosen f cells i)
      · have hRest : i ∈ rest := (List.mem_cons.mp present).resolve_left hSame
        have hOther := Prod.mk.inj (pass_other chosen f cells (Ne.symm hSame))
        rw [List.foldl_cons, ih _ hDistinct hRest, hOther.1, hOther.2]

/-- The loop over all cells. -/
theorem foldl_finRange (cells : Vector Cell size × Vector Out size) (i : Fin size) :
    (((List.finRange size).foldl (pass chosen f) cells).1.get i,
        ((List.finRange size).foldl (pass chosen f) cells).2.get i) =
      if chosen i then f i (cells.1.get i) else (cells.1.get i, cells.2.get i) :=
  foldl_pass chosen f cells (List.nodup_finRange size) (List.mem_finRange i)

end Cells

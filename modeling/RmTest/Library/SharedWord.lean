import Mathlib.Logic.Function.Basic

/-! A word of cells with several writers. Each writer owns some of the cells, but
every write replaces the whole word: it puts the writer's values into its own
cells and an idle value into all others. The question is when no writer's latest
values are lost. -/

structure SharedWord (Cell Writer Value : Type) where
  cells : Cell → Value
  /-- What each writer wrote last, if anything. -/
  latest : Writer → Option (Cell → Value)

namespace SharedWord

variable {Cell Writer Value : Type}

/-- Every cell holds the latest value of its owner. -/
def Intact (owner : Cell → Writer) (word : SharedWord Cell Writer Value) : Prop :=
  ∀ cell values, word.latest (owner cell) = some values → word.cells cell = values cell

/-- Cells whose owner has written nothing hold the idle value. -/
def Untouched (owner : Cell → Writer) (idle : Value) (word : SharedWord Cell Writer Value) : Prop :=
  ∀ cell, word.latest (owner cell) = none → word.cells cell = idle

/-- The cells of the other writers hold the idle value. -/
def OthersIdle (owner : Cell → Writer) (idle : Value) (word : SharedWord Cell Writer Value)
    (writer : Writer) : Prop :=
  ∀ cell, owner cell ≠ writer → word.cells cell = idle

variable [DecidableEq Writer]

def write (owner : Cell → Writer) (idle : Value) (word : SharedWord Cell Writer Value)
    (writer : Writer) (values : Cell → Value) : SharedWord Cell Writer Value where
  cells := fun cell => if owner cell = writer then values cell else idle
  latest := Function.update word.latest writer (some values)

variable {owner : Cell → Writer} {idle : Value} {word : SharedWord Cell Writer Value}

theorem write_other (idle : Value) (word : SharedWord Cell Writer Value) (values : Cell → Value)
    {writer : Writer} {cell : Cell} (other : owner cell ≠ writer) :
    (write owner idle word writer values).cells cell = idle ∧
      (write owner idle word writer values).latest (owner cell) = word.latest (owner cell) :=
  ⟨if_neg other, Function.update_of_ne other _ _⟩

/-- A write keeps every writer's latest values exactly if the others' cells were
idle: it cannot but make them so. -/
theorem othersIdle_iff_intact_write (untouched : Untouched owner idle word)
    (intact : Intact owner word) (writer : Writer) (values : Cell → Value) :
    OthersIdle owner idle word writer ↔ Intact owner (write owner idle word writer values) := by
  constructor
  · intro hIdle cell latest hLatest
    by_cases hOwn : owner cell = writer
    · rw [hOwn] at hLatest
      have hValues : values = latest := by simpa [SharedWord.write] using hLatest
      rw [← hValues]
      exact if_pos hOwn
    · obtain ⟨hCell, hSame⟩ := write_other idle word values hOwn
      rw [hCell, ← hIdle cell hOwn]
      exact intact cell latest (hSame ▸ hLatest)
  · intro hIntact cell hOther
    obtain ⟨hCell, hSame⟩ := write_other idle word values hOther
    cases hLatest : word.latest (owner cell) with
    | none => exact untouched cell hLatest
    | some latest =>
        have hKept := hIntact cell latest (hSame.trans hLatest)
        rw [intact cell latest hLatest, ← hKept, hCell]

end SharedWord

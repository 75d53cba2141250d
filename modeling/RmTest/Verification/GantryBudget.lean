import RmTest.Library.Budget
import RmTest.Modules.Gantry

/-! How many frames a tick of the gantry takes from its queue. The count that the loop
keeps is of shares: a frame of an X or Y motor has two, a frame of a Z motor that does not
decode has none, and every other frame has one. -/
namespace RmTest.Modules.GantryModule

open Channels

variable {F : Type}

/-- A frame of an X motor. -/
def isXFrame (frame : CanRawFrameMessage) : Bool :=
  frame.bus = 2 ∧ (frame.canId = kDjiXLeftCanId ∨ frame.canId = kDjiXRightCanId)

/-- A frame of the Y motor. -/
def isYFrame (frame : CanRawFrameMessage) : Bool := frame.bus = 3 ∧ frame.canId = kDjiYCanId

/-- A frame of a Z motor that does not decode. -/
def isShortZFrame (frame : CanRawFrameMessage) : Bool :=
  frame.canId = kCubemarsCanId ∧ frame.dlc < 6

/-- By how much a frame advances the count of the frames of a tick. -/
def share (frame : CanRawFrameMessage) : Nat :=
  (if isXFrame frame then 1 else 0) + (if isYFrame frame then 1 else 0) +
    if isShortZFrame frame then 0 else 1

theorem count_decodeXFeedback (m : GantryModule F) (frame : CanRawFrameMessage) :
    (m.decodeXFeedback frame).2 = if isXFrame frame then 1 else 0 := by
  simp only [decodeXFeedback, isXFrame, decide_eq_true_eq]
  split_ifs
  · split <;> rfl
  · split <;> rfl
  · rfl

theorem count_decodeYFeedback (m : GantryModule F) (frame : CanRawFrameMessage) :
    (m.decodeYFeedback frame).2 = if isYFrame frame then 1 else 0 := by
  simp only [decodeYFeedback, isYFrame, decide_eq_true_eq]
  split_ifs
  · split <;> rfl
  · rfl

variable [FloatModel F]

theorem count_decodeZFeedback (m : GantryModule F) (frame : CanRawFrameMessage) :
    (m.decodeZFeedback frame).2 = if isShortZFrame frame then 0 else 1 := by
  simp only [decodeZFeedback, isShortZFrame, Protocols.Cubemars.decodeFeedback, decide_eq_true_eq]
  by_cases hId : frame.canId = kCubemarsCanId
  · by_cases hShort : frame.dlc < 6
    · simp [hId, hShort]
    · have hLong : ¬(frame.canId = kCubemarsCanId ∧ frame.dlc < 6) := fun h => hShort h.2
      simp only [if_pos hId, if_neg hShort, if_neg hLong]
      split_ifs <;> rfl
  · simp [hId]

theorem count_decodeCanFrame (m : GantryModule F) (frame : CanRawFrameMessage) :
    (m.decodeCanFrame frame).2 = share frame := by
  simp only [decodeCanFrame, count_decodeXFeedback, count_decodeYFeedback, count_decodeZFeedback,
    share]

/-- The frames that stay in the queue are the ones behind those that the budget takes. -/
theorem queue_decodeCanFrames (m : GantryModule F) (framesProcessed : Nat)
    (queue : List CanRawFrameMessage) :
    (m.decodeCanFrames framesProcessed queue).2 =
      queue.drop (Budget.taken share kMaxFramesPerTick framesProcessed queue) := by
  induction queue generalizing m framesProcessed with
  | nil => rfl
  | cons frame rest ih =>
      rw [decodeCanFrames, Budget.taken]
      split_ifs
      · rw [ih, count_decodeCanFrame, List.drop_succ_cons]
      · rfl

/-- A tick takes as many frames as its budget says exactly when the shares of all that it
shall take but the last do not spend the budget, and the shares of all of them do if there
are more. -/
theorem drains_budget_iff (m : GantryModule F) (queue : List CanRawFrameMessage) :
    (m.decodeCanFramesInQueue queue).2 = queue.drop (min queue.length kMaxFramesPerTick) ↔
      Total.total share (queue.take (min queue.length kMaxFramesPerTick - 1)) < kMaxFramesPerTick ∧
        (kMaxFramesPerTick < queue.length →
          kMaxFramesPerTick ≤ Total.total share (queue.take kMaxFramesPerTick)) := by
  have hPositive : 0 < kMaxFramesPerTick := by decide
  have hTaken := @Budget.taken_le_length _ share kMaxFramesPerTick 0 queue
  rw [decodeCanFramesInQueue, queue_decodeCanFrames, ← Budget.taken_eq_min_iff hPositive]
  constructor
  · intro hDrop
    have hLength := congrArg List.length hDrop
    rw [List.length_drop, List.length_drop] at hLength
    omega
  · intro hEq
    rw [hEq]

/-- A frame of the left X motor. -/
def xLeftFrame : CanRawFrameMessage := ⟨2, kDjiXLeftCanId, 8, Vector.replicate 8 0⟩

/-- Of five frames of an X motor, one stays in the queue. -/
theorem drains_four_of_five :
    ((zeroed ℚ).decodeCanFramesInQueue (List.replicate 5 xLeftFrame)).2 = [xLeftFrame] ∧
      (List.replicate 5 xLeftFrame).drop
        (min (List.replicate 5 xLeftFrame).length kMaxFramesPerTick) = [] := by
  rw [decodeCanFramesInQueue, queue_decodeCanFrames]
  exact ⟨rfl, rfl⟩

end RmTest.Modules.GantryModule

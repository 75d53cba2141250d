import RmTest.Library.Run
import RmTest.Modules.Arm
import Mathlib.Tactic.Ring

/-! The speed targets of the wrist in exact arithmetic: over a run they add up to the
virtual angles. -/
namespace RmTest.Modules.ArmModule

open Channels Platform FloatModel

/-- What an iteration of `RunLoop` finds: the frames in the queue, and what reading the
command channel returns. -/
structure ArmTick where
  frames : List CanRawFrameMessage
  command : Option (ArmCommandMessage ℚ)

/-- The virtual angle that belongs to a wrist motor. -/
def wristVirtualAngle (m : ArmModule ℚ) (i : Fin 2) : ℚ :=
  if i.val = 0 then m.wristJointLeftVirtualAngle else m.wristJointRightVirtualAngle

def tick (arm : ArmModule ℚ × CanPort) (t : ArmTick) : ArmModule ℚ × CanPort :=
  let next := arm.1.runLoopTick arm.2 t.frames t.command
  (next.1, next.2.1)

/-- The speed targets that an iteration updates the controllers with. -/
def wristTargets (arm : ArmModule ℚ × CanPort) (t : ArmTick) : Vector ℚ 2 :=
  (arm.1.receive t.frames t.command).wristTargetOmega

theorem wristVirtualAngle_decodeCanFramesInQueue (m : ArmModule ℚ)
    (frames : List CanRawFrameMessage) (i : Fin 2) :
    (m.decodeCanFramesInQueue frames).wristVirtualAngle i = m.wristVirtualAngle i := by
  have hTargets := m.virtualTargets_decodeCanFramesInQueue frames
  simp only [virtualTargets, List.cons.injEq, and_true] at hTargets
  obtain ⟨-, -, -, hLeft, hRight⟩ := hTargets
  rw [wristVirtualAngle, wristVirtualAngle, hLeft, hRight]

theorem wristVirtualAngle_controlClaw (m : ArmModule ℚ) (angle : ℚ) (i : Fin 2) :
    (m.controlClaw angle).wristVirtualAngle i = m.wristVirtualAngle i := by
  rw [controlClaw]
  split_ifs <;> rfl

/-- By how much an enabling command asks a wrist motor to turn. -/
def wristDelta (command : ArmCommandMessage ℚ) (i : Fin 2) : ℚ :=
  if i.val = 0 then command.wristFlipDelta + command.wristTwistDelta
  else command.wristFlipDelta - command.wristTwistDelta

theorem wristVirtualAngle_handleCommand (m : ArmModule ℚ) {command : ArmCommandMessage ℚ}
    (enabled : command.enable ≠ 0) (i : Fin 2) :
    (m.handleCommand command).wristVirtualAngle i =
      clamp (m.wristVirtualAngle i + wristDelta command i) (-kWristLimit) kWristLimit := by
  have hClaw := m.wristVirtualAngle_controlClaw (m.clawsVirtualAngle + command.clawDelta)
  have hSide : i = 0 ∨ i = 1 := by omega
  rw [handleCommand, if_neg enabled, ← hClaw i]
  rcases hSide with rfl | rfl
  · rfl
  · rfl

theorem wristTargetOmega_handleCommand (m : ArmModule ℚ) {command : ArmCommandMessage ℚ}
    (enabled : command.enable ≠ 0) (i : Fin 2) :
    (m.handleCommand command).wristTargetOmega.get i =
      ((m.handleCommand command).wristVirtualAngle i - m.wristVirtualAngle i) *
        (lit 1 / kLoopDtSec) := by
  have hSide : i = 0 ∨ i = 1 := by omega
  rw [handleCommand, if_neg enabled]
  rcases hSide with rfl | rfl
  · rfl
  · rfl

/-- An iteration without an enabling command leaves the wrist where it is. -/
theorem receive_cases (m : ArmModule ℚ) (t : ArmTick) :
    m.receive t.frames t.command = (m.decodeCanFramesInQueue t.frames).resetWrist ∨
      ∃ command : ArmCommandMessage ℚ, command.enable ≠ 0 ∧
        m.receive t.frames t.command =
        (m.decodeCanFramesInQueue t.frames).handleCommand command := by
  cases t.command with
  | none => exact .inl rfl
  | some command =>
      by_cases hEnable : command.enable = 0
      · exact .inl (if_pos hEnable)
      · exact .inr ⟨command, hEnable, rfl⟩

/-- Whatever an iteration receives, its target is the change of the angle per time. -/
theorem wristTargetOmega_receive (m : ArmModule ℚ) (t : ArmTick) (i : Fin 2) :
    (m.receive t.frames t.command).wristTargetOmega.get i * kLoopDtSec =
      (m.receive t.frames t.command).wristVirtualAngle i - m.wristVirtualAngle i := by
  have hKept := m.wristVirtualAngle_decodeCanFramesInQueue t.frames i
  rcases m.receive_cases t with hReset | ⟨command, hEnable, hHandled⟩
  · have hTarget : (m.decodeCanFramesInQueue t.frames).resetWrist.wristTargetOmega.get i = 0 :=
      Vector.getElem_replicate i.isLt
    have hAngle : (m.decodeCanFramesInQueue t.frames).resetWrist.wristVirtualAngle i =
        (m.decodeCanFramesInQueue t.frames).wristVirtualAngle i := rfl
    rw [hReset, hTarget, hAngle, hKept, zero_mul, sub_self]
  · have hDt : (lit 1 / kLoopDtSec : ℚ) * kLoopDtSec = 1 := by
      norm_num [kLoopDtSec]
    rw [hHandled, wristTargetOmega_handleCommand _ hEnable, hKept, mul_assoc, hDt, mul_one]

/-- The angles stay within their limit. -/
theorem abs_wristVirtualAngle_receive {m : ArmModule ℚ} {i : Fin 2}
    (within : |m.wristVirtualAngle i| ≤ kWristLimit) (t : ArmTick) :
    |(m.receive t.frames t.command).wristVirtualAngle i| ≤ kWristLimit := by
  rcases m.receive_cases t with hReset | ⟨command, hEnable, hHandled⟩
  · rw [← m.wristVirtualAngle_decodeCanFramesInQueue t.frames i] at within
    rw [hReset]
    exact within
  · rw [hHandled, wristVirtualAngle_handleCommand _ hEnable]
    exact abs_clamp_rat_le _ zero_le_one

/-- The targets so far add up to the angle. -/
structure Integrates (arm : ArmModule ℚ × CanPort) (targets : List (Vector ℚ 2)) : Prop where
  sum_eq : ∀ i, (targets.map fun target => target.get i * kLoopDtSec).sum =
    arm.1.wristVirtualAngle i
  within : ∀ i, |arm.1.wristVirtualAngle i| ≤ kWristLimit

theorem integrates_start (m : ArmModule ℚ) (port : CanPort) :
    Integrates (m.initialized.runLoopStartup port) [] := by
  have hAngle (i : Fin 2) : (m.initialized.runLoopStartup port).1.wristVirtualAngle i = 0 := by
    have hStarted : (m.initialized.runLoopStartup port).1.wristVirtualAngle i =
        m.initialized.wristVirtualAngle i := by
      rw [runLoopStartup]
      split_ifs <;> rfl
    rw [hStarted, wristVirtualAngle]
    exact ite_self 0
  constructor
  · intro i
    rw [hAngle]
    rfl
  · intro i
    rw [hAngle, abs_zero]
    exact zero_le_one

theorem Integrates.tick {arm : ArmModule ℚ × CanPort} {targets : List (Vector ℚ 2)}
    (integrates : Integrates arm targets) (t : ArmTick) :
    Integrates (tick arm t) (targets ++ [wristTargets arm t]) := by
  have hAngle (i : Fin 2) : (ArmModule.tick arm t).1.wristVirtualAngle i =
      (arm.1.receive t.frames t.command).wristVirtualAngle i := rfl
  constructor
  · intro i
    have hTarget := arm.1.wristTargetOmega_receive t i
    rw [List.map_append, List.sum_append, integrates.sum_eq i, hAngle, List.map_singleton,
      List.sum_singleton, wristTargets, hTarget]
    ring
  · intro i
    rw [hAngle]
    exact abs_wristVirtualAngle_receive (integrates.within i) t

/-- Over every run from initialisation the targets of a wrist motor, each held for the time
of an iteration, add up to its virtual angle, which stays within its limit. -/
theorem wrist_targets_integrate (m : ArmModule ℚ) (port : CanPort) (ticks : List ArmTick)
    (i : Fin 2) :
    let start := m.initialized.runLoopStartup port
    ((Run.trace tick wristTargets start ticks).map fun target => target.get i * kLoopDtSec).sum =
        (ticks.foldl tick start).1.wristVirtualAngle i ∧
      -kWristLimit ≤ (ticks.foldl tick start).1.wristVirtualAngle i ∧
        (ticks.foldl tick start).1.wristVirtualAngle i ≤ kWristLimit := by
  have hKept : ∀ arm targets t, Integrates arm targets →
      Integrates (tick arm t) (targets ++ [wristTargets arm t]) :=
    fun _ _ t integrates => integrates.tick t
  have hRun := Run.trace_invariant hKept (integrates_start m port) ticks
  rw [List.nil_append] at hRun
  exact ⟨hRun.sum_eq i, abs_le.mp (hRun.within i)⟩

end RmTest.Modules.ArmModule

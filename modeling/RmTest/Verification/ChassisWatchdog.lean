import RmTest.Library.Run
import RmTest.Modules.Chassis

/-! The command watchdog of the chassis module over runs in which commands are
published, the loop ticks and the tuning changes in any order. Floats are
rationals or NaN. -/
namespace RmTest.Modules.ChassisModule

open Channels Protocols Platform FloatModel

section Targets

variable {F : Type} [FloatModel F]

/-- All four wheel target speeds are zero. -/
def Stopped (state : ChassisStateMessage F) : Prop :=
  state.wheel1TargetOmega = 0 ∧ state.wheel2TargetOmega = 0 ∧ state.wheel3TargetOmega = 0 ∧
    state.wheel4TargetOmega = 0

/-- A tick that reads a command has the targets of that command. -/
theorem stopped_runLoopTick_some (m : ChassisModule F) (port : CanPort)
    (frames : List CanRawFrameMessage) (command : ChassisCommandMessage F) :
    Stopped (m.runLoopTick port frames (some command)).1.state ↔
      Stopped (m.updateStateFromCommand command).state := Iff.rfl

/-- A tick that reads nothing keeps the targets until the idle count runs out. -/
theorem stopped_runLoopTick_none (m : ChassisModule F) (port : CanPort)
    (frames : List CanRawFrameMessage) :
    Stopped (m.runLoopTick port frames none).1.state ↔
      m.idleTicks + 1 > kNoCommandStopTicks ∨ Stopped m.state := by
  have hState := decodeCanFramesInQueue_keeps state (fun _ _ _ => rfl) m frames
  have hIdle := decodeCanFramesInQueue_keeps idleTicks (fun _ _ _ => rfl) m frames
  by_cases hOut : m.idleTicks + 1 > kNoCommandStopTicks
  · have hOut' : (m.decodeCanFramesInQueue frames).idleTicks + 1 > kNoCommandStopTicks := by
      rw [hIdle]
      exact hOut
    simp only [runLoopTick, if_pos hOut', hOut, true_or, iff_true]
    exact ⟨rfl, rfl, rfl, rfl⟩
  · have hOut' : ¬ (m.decodeCanFramesInQueue frames).idleTicks + 1 > kNoCommandStopTicks := by
      rw [hIdle]
      exact hOut
    simp only [runLoopTick, if_neg hOut', hOut, false_or]
    rw [← hState]
    exact Iff.rfl

end Targets

theorem wheelTarget_eq_zero_iff (mix wz : NanRat) : wheelTarget mix wz = 0 ↔ mix + wz = 0 := by
  unfold wheelTarget kWheelTargetOmegaLimit
  rw [NanRat.lit_def, NanRat.neg_num]
  exact NanRat.clamp_eq_zero_iff _ 40 (by norm_num)

/-- The command asks for no motion. -/
def AtRest (command : ChassisCommandMessage NanRat) : Prop :=
  command.targetVx = 0 ∧ command.targetVy = 0 ∧ command.targetWz = 0

/-- The four mixes vanish together exactly if their three inputs do. -/
theorem mixes_eq_zero_iff (k : ℚ) (hk : k ≠ 0) (vx vy wz : NanRat) :
    (NanRat.num k * vx - NanRat.num k * vy + wz = 0 ∧
      -NanRat.num k * vx - NanRat.num k * vy + wz = 0 ∧
      -NanRat.num k * vx + NanRat.num k * vy + wz = 0 ∧
      NanRat.num k * vx + NanRat.num k * vy + wz = 0) ↔ vx = 0 ∧ vy = 0 ∧ wz = 0 := by
  cases vx with
  | nan => simp [NanRat.zero_def]
  | num x =>
      cases vy with
      | nan => simp [NanRat.zero_def]
      | num y =>
          cases wz with
          | nan => simp [NanRat.zero_def]
          | num z =>
              simp only [NanRat.zero_def, NanRat.neg_num, NanRat.num_mul, NanRat.num_sub,
                NanRat.num_add, NanRat.num.injEq]
              constructor
              · rintro ⟨h1, h2, h3, h4⟩
                have hX : k * x = 0 := by linarith
                have hY : k * y = 0 := by linarith
                refine ⟨(mul_eq_zero.mp hX).resolve_left hk,
                  (mul_eq_zero.mp hY).resolve_left hk, ?_⟩
                linarith
              · rintro ⟨rfl, rfl, rfl⟩
                simp

/-- Only a command at rest sets all targets to zero. -/
theorem stopped_updateStateFromCommand (m : ChassisModule NanRat)
    (command : ChassisCommandMessage NanRat) :
    Stopped (m.updateStateFromCommand command).state ↔ AtRest command := by
  have hLimit (value : NanRat) : clamp value (-lit 20) (lit 20) = 0 ↔ value = 0 := by
    rw [NanRat.lit_def, NanRat.neg_num]
    exact NanRat.clamp_eq_zero_iff value 20 (by norm_num)
  simp only [Stopped, updateStateFromCommand, wheelTarget_eq_zero_iff, kKinematicsFactor,
    NanRat.lit_def]
  rw [mixes_eq_zero_iff _ (by norm_num)]
  exact and_congr (hLimit _) (and_congr (hLimit _) (hLimit _))

inductive ChassisEvent (F : Type) where
  | publish (command : ChassisCommandMessage F)
  | tick (frames : List CanRawFrameMessage) (locked : Bool)
  | setSpeedPidTuning (kp ki kd iLimit outLimit : F)
  | resetSpeedPidIntegrator

structure ChassisSystem (F : Type) where
  chassis : ChassisModule F
  port : CanPort
  commandChan : ZbusChan (ChassisCommandMessage F)
  /-- The ticks since the last publication, or since the start. -/
  ticksSincePublish : Nat

namespace ChassisSystem

section Steps

variable {F : Type} [FloatModel F]

def step (s : ChassisSystem F) : ChassisEvent F → ChassisSystem F
  | .publish command => { s with commandChan := ⟨command⟩, ticksSincePublish := 0 }
  | .tick frames locked =>
      let (chassis, port, _) := s.chassis.runLoopTick s.port frames (s.commandChan.read locked)
      { s with
        chassis := chassis
        port := port
        ticksSincePublish := s.ticksSincePublish + 1 }
  | .setSpeedPidTuning kp ki kd iLimit outLimit =>
      { s with chassis := (s.chassis.setSpeedPidTuning kp ki kd iLimit outLimit).1 }
  | .resetSpeedPidIntegrator => { s with chassis := s.chassis.resetSpeedPidIntegrator }

/-- After `Initialize`, before any publication. -/
def start (chassis : ChassisModule F) (port : CanPort) : ChassisSystem F where
  chassis := chassis.initialized
  port := port
  commandChan := ⟨0⟩
  ticksSincePublish := 0

end Steps

/-- Once more than 100 ticks saw no new command, every further one leaves the
targets at zero. -/
def WatchdogHolds (s : ChassisSystem NanRat) : Prop :=
  kNoCommandStopTicks.toNat + 1 < s.ticksSincePublish → Stopped s.chassis.state

/-- What the watchdog depends on in a tick after 100 ticks without a command:
that a readable channel holds a command at rest, and that behind a locked one the
idle count runs out or the targets are already zero. -/
def TickKeepsStopped (s : ChassisSystem NanRat) : ChassisEvent NanRat → Prop
  | .tick _ locked =>
      kNoCommandStopTicks.toNat < s.ticksSincePublish →
        if locked then
          s.chassis.idleTicks + 1 > kNoCommandStopTicks ∨ Stopped s.chassis.state
        else AtRest s.commandChan.message
  | _ => True

instance (s : ChassisSystem NanRat) : Decidable s.WatchdogHolds :=
  inferInstanceAs (Decidable (_ → _ ∧ _ ∧ _ ∧ _))

theorem tickKeepsStopped_iff (s : ChassisSystem NanRat) (event : ChassisEvent NanRat)
    (holds : s.WatchdogHolds) :
    s.TickKeepsStopped event ↔ (s.step event).WatchdogHolds := by
  cases event with
  | publish command => exact iff_of_true trivial (fun h => absurd h (Nat.not_lt_zero _))
  | setSpeedPidTuning kp ki kd iLimit outLimit =>
      refine iff_of_true trivial ?_
      have hState : (s.chassis.setSpeedPidTuning kp ki kd iLimit outLimit).1.state =
          s.chassis.state := by
        unfold ChassisModule.setSpeedPidTuning
        split_ifs <;> rfl
      intro hLate
      have hStopped := holds hLate
      rwa [← hState] at hStopped
  | resetSpeedPidIntegrator => exact iff_of_true trivial holds
  | tick frames locked =>
      unfold TickKeepsStopped WatchdogHolds
      refine imp_congr Nat.succ_lt_succ_iff.symm ?_
      cases locked with
      | true => exact (stopped_runLoopTick_none s.chassis s.port frames).symm
      | false =>
          exact ((stopped_runLoopTick_some s.chassis s.port frames s.commandChan.message).trans
            (stopped_updateStateFromCommand s.chassis s.commandChan.message)).symm

/-- The watchdog holds throughout a run exactly if all its ticks keep the targets
at zero for the reasons above. -/
theorem watchdog_iff (chassis : ChassisModule NanRat) (port : CanPort)
    (events : List (ChassisEvent NanRat)) :
    Run.Along step TickKeepsStopped (start chassis port) events ↔
      Run.Always step WatchdogHolds (start chassis port) events := by
  refine Run.along_iff_always (fun _ _ (_ : True) => trivial)
    (fun s event _ holds => s.tickKeepsStopped_iff event holds) trivial ?_ events
  intro hLate
  exact absurd hLate (Nat.not_lt_zero _)

end ChassisSystem

/-- One command, and 102 ticks in which nothing else is published. -/
def abandonedEvents : List (ChassisEvent NanRat) :=
  .publish
      { targetVx := .num 1, targetVy := 0, targetWz := 0, source := .kInputSourceDr16,
        sequence := 1 } ::
    List.replicate 102 (.tick [] false)

/-- The channel still holds the command, every tick reads it again, and the
chassis goes on driving. -/
theorem watchdog_never_fires :
    ¬ Run.Always ChassisSystem.step ChassisSystem.WatchdogHolds
      (ChassisSystem.start (zeroed NanRat) { canDev := fun _ => true, sent := [] })
      abandonedEvents := by
  intro hAlways
  have hEnd := (Run.always_iff _ _ _ _).mp hAlways abandonedEvents List.prefix_rfl
  revert hEnd
  decide +kernel

end RmTest.Modules.ChassisModule

import RmTest.Algorithms.DjiPid
import RmTest.Library.Run
import Mathlib.Tactic.Ring

/-! The two forms of the DJI controller in exact arithmetic. The changes that one form
adds up are the differences of what the other computes as a whole. -/
namespace RmTest.Algorithms.DjiPid

open FloatModel

/-- The outputs of a sequence of calls with a target and a measurement each. -/
def outputs (p : DjiPid ℚ) (samples : List (ℚ × ℚ)) : List ℚ :=
  Run.trace (fun p sample => (p.update sample.1 sample.2).1)
    (fun p sample => (p.update sample.1 sample.2).2) p samples

/-- The accumulated output against the history of the other form. -/
structure Telescopes (config : DjiPidConfig ℚ) (delta position : DjiPid ℚ) : Prop where
  delta_config : delta.config = { config with mode := .delta }
  position_config : position.config = { config with mode := .position }
  last_error : delta.error.get 0 = position.error.get 0
  error_before : delta.error.get 1 = position.error.get 1
  out_eq : delta.out = config.kp * position.error.get 0 + position.iOut +
    config.kd * (position.error.get 0 - position.error.get 1)

theorem clampAbs_rat_of_nonpos {absMax : ℚ} (none : absMax ≤ 0) (value : ℚ) :
    clampAbs value absMax = value := by
  rw [clampAbs, le_rat, decide_eq_true none, if_pos rfl]

/-- In either form a call keeps the configuration and moves the errors on by one. -/
theorem config_error_update (p : DjiPid ℚ) (target now : ℚ) :
    (p.update target now).1.config = p.config ∧
      (p.update target now).1.error.get 0 = target - now ∧
        (p.update target now).1.error.get 1 = p.error.get 0 := by
  rw [DjiPid.update]
  cases p.config.mode <;> exact ⟨rfl, rfl, rfl⟩

variable {config : DjiPidConfig ℚ}

theorem telescopes_reset {delta position : DjiPid ℚ}
    (hDelta : delta.config = { config with mode := .delta })
    (hPosition : position.config = { config with mode := .position }) :
    Telescopes config delta.reset position.reset where
  delta_config := hDelta
  position_config := hPosition
  last_error := rfl
  error_before := rfl
  out_eq := by
    show (0 : ℚ) = config.kp * 0 + 0 + config.kd * (0 - 0)
    ring

/-- One call of each. -/
theorem Telescopes.update {delta position : DjiPid ℚ} (h : Telescopes config delta position)
    (outFree : config.maxOut ≤ 0) (ioutFree : config.maxIout ≤ 0) (target now : ℚ) :
    Telescopes config (delta.update target now).1 (position.update target now).1 ∧
      (position.update target now).2 = (delta.update target now).2 := by
  obtain ⟨hDelta, hPosition, hLast, hBefore, hOut⟩ := h
  have hDeltaStep : (delta.update target now).2 = delta.out +
      (config.kp * ((target - now) - delta.error.get 0) + config.ki * (target - now) +
        config.kd * ((target - now) - 2 * delta.error.get 0 + delta.error.get 1)) := by
    simp only [DjiPid.update, hDelta, updateDelta, clampAbs_rat_of_nonpos outFree, lit_rat]
    rfl
  have hIout : (position.update target now).1.iOut =
      position.iOut + config.ki * (target - now) := by
    simp only [DjiPid.update, hPosition, updatePosition, clampAbs_rat_of_nonpos ioutFree]
    rfl
  have hPositionStep : (position.update target now).2 = config.kp * (target - now) +
      (position.iOut + config.ki * (target - now)) +
      config.kd * ((target - now) - position.error.get 0) := by
    simp only [DjiPid.update, hPosition, updatePosition, clampAbs_rat_of_nonpos outFree,
      clampAbs_rat_of_nonpos ioutFree]
    rfl
  have hSame : (position.update target now).2 = (delta.update target now).2 := by
    rw [hPositionStep, hDeltaStep, hOut, hLast, hBefore]
    ring
  obtain ⟨hDeltaConfig, hDeltaLast, hDeltaBefore⟩ := config_error_update delta target now
  obtain ⟨hPositionConfig, hPositionLast, hPositionBefore⟩ :=
    config_error_update position target now
  refine ⟨⟨hDeltaConfig.trans hDelta, hPositionConfig.trans hPosition, ?_, ?_, ?_⟩, hSame⟩
  · rw [hDeltaLast, hPositionLast]
  · rw [hDeltaBefore, hPositionBefore, hLast]
  · rw [hPositionLast, hPositionBefore, hIout]
    exact hSame.symm.trans hPositionStep

/-- With both limits off, the two forms return the same outputs from a reset on. -/
theorem delta_outputs_eq_position (config : DjiPidConfig ℚ) (outFree : config.maxOut ≤ 0)
    (ioutFree : config.maxIout ≤ 0) {delta position : DjiPid ℚ}
    (hDelta : delta.config = { config with mode := .delta })
    (hPosition : position.config = { config with mode := .position }) (samples : List (ℚ × ℚ)) :
    delta.reset.outputs samples = position.reset.outputs samples := by
  have hTrace : position.reset.outputs (samples.map id) = (delta.reset.outputs samples).map id := by
    apply Run.trace_simulates (Telescopes config)
    · intro delta position sample h
      exact h.update outFree ioutFree sample.1 sample.2
    · exact telescopes_reset hDelta hPosition
  rw [List.map_id, List.map_id] at hTrace
  exact hTrace.symm

/-- Gains of one and no limits, on a step of the target. -/
theorem delta_outputs_step :
    (DjiPid.mk ⟨1, 1, 1, 0, 0, .delta⟩ 0 0 0 0 0 0 #v[0, 0, 0] #v[0, 0, 0]).reset.outputs
        [(1, 0), (1, 0)] =
      (DjiPid.mk ⟨1, 1, 1, 0, 0, .position⟩ 0 0 0 0 0 0 #v[0, 0, 0] #v[0, 0, 0]).reset.outputs
        [(1, 0), (1, 0)] :=
  delta_outputs_eq_position ⟨1, 1, 1, 0, 0, .delta⟩ le_rfl le_rfl rfl rfl _

end RmTest.Algorithms.DjiPid

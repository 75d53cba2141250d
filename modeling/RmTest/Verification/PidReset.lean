import RmTest.Algorithms.Pid
import RmTest.Library.Run

/-! Two runs of the PID controller: one after a reset, and one from the beginning. -/
namespace RmTest.Algorithms.Pid

variable {F : Type} [FloatModel F]

/-- The calls that compute an output. -/
inductive Call (F : Type) where
  | update (target now : F)
  | updateAngle (target now : F)

def call (p : Pid F) : Call F → Pid F × F
  | .update target now => p.update target now
  | .updateAngle target now => p.updateAngle target now

/-- The outputs of a sequence of calls. -/
def outputs (p : Pid F) (calls : List (Call F)) : List F :=
  Run.trace (fun p c => (p.call c).1) (fun p c => (p.call c).2) p calls

/-- The controller but for the target and the measurement. -/
def memory (p : Pid F) : Pid F := { p with target := 0, now := 0 }

/-- Each call sets the target and the measurement before it reads them. -/
theorem call_memory (p : Pid F) (c : Call F) : p.memory.call c = p.call c := by
  cases c with
  | update target now => rfl
  | updateAngle target now => rfl

theorem config_call (p : Pid F) (c : Call F) : (p.call c).1.config = p.config := by
  cases c with
  | update target now => exact config_update p target now
  | updateAngle target now => exact config_updateAngle p target now

/-- Controllers with the same memory put out the same. -/
theorem outputs_congr {p p' : Pid F} (same : p.memory = p'.memory) (calls : List (Call F)) :
    p.outputs calls = p'.outputs calls := by
  cases calls with
  | nil => rfl
  | cons c rest =>
      have hCall : p.call c = p'.call c := by rw [← call_memory, same, call_memory]
      simp only [outputs, Run.trace, hCall]

/-- A reset leaves nothing but the configuration. -/
theorem memory_reset (p : Pid F) : p.reset.memory = ((zeroed F).init p.config).memory := rfl

/-- After a reset the past does not show in the outputs. -/
theorem reset_erases_history (p : Pid F) (config : PidConfig F) (past future : List (Call F)) :
    (past.foldl (fun p c => (p.call c).1) (p.init config)).reset.outputs future =
      ((zeroed F).init config).outputs future := by
  have hKept : ∀ (p : Pid F) c, p.config = config → (p.call c).1.config = config :=
    fun p c hConfig => (config_call p c).trans hConfig
  have hStart : (p.init config).config = config := rfl
  have hConfig := Run.foldl_invariant hKept hStart past
  refine outputs_congr ?_ future
  rw [memory_reset, hConfig]

end RmTest.Algorithms.Pid

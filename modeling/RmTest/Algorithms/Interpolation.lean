import RmTest.Library.FloatModel

/-! Linear interpolation in steps. The counter of the steps is no member of the object: it
is a static variable of `Output`. -/
namespace RmTest.Algorithms.Interpolation

open FloatModel

inductive InterpolationState where
  | start
  | ing
  | ended
  deriving DecidableEq

/-- The members of an `Interpolation`. -/
structure Object (F : Type) where
  startPoint : F
  endPoint : F
  pointNum : UInt8
  output : F
  state : InterpolationState

/-- The one object of a program, and the static variable of `Output`. -/
structure Memory (F : Type) where
  object : Object F
  times : UInt8

variable {F : Type} [FloatModel F]

/-- An object before its first call. Its other members are left uninitialised. -/
def Constructed (memory : Memory F) : Prop :=
  memory.object.state = .ended ∧ memory.times = 0

def start (startPoint endPoint : F) (pointNum : UInt8) (memory : Memory F) : Memory F :=
  { memory with object := { memory.object with startPoint, endPoint, pointNum, state := .start } }

def output (memory : Memory F) : F × Memory F :=
  let object := memory.object
  let times := memory.times + 1
  if object.pointNum ≤ times ∨ object.state = .ended then
    (object.endPoint, ⟨{ object with output := object.endPoint, state := .ended }, 0⟩)
  else
    let value := object.startPoint +
      (object.endPoint - object.startPoint) / lit object.pointNum.toNat * lit times.toNat
    (value, ⟨{ object with output := value, state := .ing }, times⟩)

inductive Call (F : Type) where
  | start (startPoint endPoint : F) (pointNum : UInt8)
  | output

def call (memory : Memory F) : Call F → Memory F
  | .start startPoint endPoint pointNum => start startPoint endPoint pointNum memory
  | .output => (output memory).2

/-- What the `i`-th of calls of `Output` in a row returns, counted from one. -/
def nthOutput (memory : Memory F) (i : Nat) : F :=
  (output ((List.replicate (i - 1) .output).foldl call memory)).1

end RmTest.Algorithms.Interpolation

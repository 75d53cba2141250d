import RmTest.Library.FloatModel
import RmTest.Library.Repeat

/-! The square root by Newton's iteration. Where it would divide by zero it fails. -/
namespace RmTest.Algorithms.FastMath

open FloatModel Repeat

variable {F : Type} [FloatModel F]

/-- The loop body of `Sqrt`. Its condition looks at the residual before the update. -/
def sqrtPass (x maxError y : F) : Pass F F :=
  let delta := y * y - x
  if eq (lit 2 * y) 0 then .failed
  else
    let y := y - delta / (lit 2 * y)
    if lt maxError delta || lt delta (-maxError) then .next y else .done y

def sqrt (budget : Nat) (x : F) : Option F :=
  if le x 0 then some 0
  else run (sqrtPass x (x * lit (1 / 1000))) budget (x * lit (5 / 10))

end RmTest.Algorithms.FastMath

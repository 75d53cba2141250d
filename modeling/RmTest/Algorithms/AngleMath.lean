import RmTest.Library.FloatModel
import RmTest.Library.Repeat

/-! The functions that bring an angle back to the range of one turn. `PI` and the remainder
`fmod` are parameters. -/
namespace RmTest.Algorithms.AngleMath

open FloatModel Repeat

variable {F : Type} [FloatModel F] (fmod : F → F → F) (pi : F)

def getRelativeAnglePmPi (nowAngleCum zeroAngle : F) : F :=
  let rel := fmod (nowAngleCum - zeroAngle) (lit 2 * pi)
  if lt pi rel then rel - lit 2 * pi
  else if lt rel (-pi) then rel + lit 2 * pi
  else rel

def normalizeAngleDiff (target now : F) : F :=
  let error := target - now
  if lt pi error then error - lit 2 * pi
  else if lt error (-pi) then error + lit 2 * pi
  else error

/-- A pass of the first loop of `CalcYawError`. -/
def turnDown (err : F) : Pass F F := if lt pi err then .next (err - lit 2 * pi) else .done err

/-- A pass of the second loop. -/
def turnUp (err : F) : Pass F F := if lt err (-pi) then .next (err + lit 2 * pi) else .done err

def calcYawError (budget : Nat) (target now : F) : Option F := do
  let err := target - now
  let err ← run (turnDown pi) budget err
  run (turnUp pi) budget err

def normalizeAnglePmPi (angle : F) : F :=
  let m := fmod angle (lit 2 * pi)
  if lt pi m then m - lit 2 * pi
  else if lt m (-pi) then m + lit 2 * pi
  else m

/-- `fmod` in exact arithmetic: the remainder of a division toward zero. -/
def fmodRat (x y : ℚ) : ℚ := x - y * trunc (x / y)

end RmTest.Algorithms.AngleMath

import RmTest.Library.FloatModel
import RmTest.Library.Repeat

/-! Bringing a value into an interval by whole lengths of the interval. -/
namespace RmTest.Algorithms.Constrain

open FloatModel Repeat

variable {F : Type} [FloatModel F]

def downPass (maxValue len input : F) : Pass F F :=
  if lt maxValue input then .next (input - len) else .done input

def upPass (minValue len input : F) : Pass F F :=
  if lt input minValue then .next (input + len) else .done input

/-- Limits in the wrong order leave the value where it is. Equal limits are in order. -/
def loopFloatConstrain (budget : Nat) (input minValue maxValue : F) : Option F :=
  if lt maxValue minValue then some input
  else if lt maxValue input then run (downPass maxValue (maxValue - minValue)) budget input
  else if lt input minValue then run (upPass minValue (maxValue - minValue)) budget input
  else some input

def thetaFormat (budget : Nat) (ang : F) : Option F :=
  loopFloatConstrain budget ang (lit (-180)) (lit 180)

end RmTest.Algorithms.Constrain

import RmTest.Library.FloatModel

/-! The sliding-mode controller. A tick inside of the error band returns early. -/
namespace RmTest.Algorithms

open FloatModel

structure Smc (F : Type) where
  c : F
  k : F
  ref : F
  errorEps : F
  uMax : F
  j : F
  angle : F
  angVel : F
  epsilon : F
  u : F
  error : F
  dref : F
  ddref : F
  refl : F
  s : F

namespace Smc

variable {F : Type} [FloatModel F]

/-- The constructor, on an object in static storage. -/
def construct (c k ref errorEps uMax j epsilon : F) : Smc F where
  c := c
  k := k
  ref := ref
  errorEps := errorEps
  uMax := uMax
  j := j
  angle := 0
  angVel := 0
  epsilon := epsilon
  u := 0
  error := 0
  dref := 0
  ddref := 0
  refl := 0
  s := 0

def signal (y : F) : Int8 := if lt 0 y then 1 else if eq y 0 then 0 else -1

def sat (y : F) : F :=
  let delta := lit (5 / 100)
  if le (fabs y) delta then y / delta else lit (signal y).toInt

def smcTick (smc : Smc F) (angleNow angleVel : F) : Smc F :=
  let error := angleNow - smc.ref
  let ddref := smc.ref - smc.refl - smc.dref
  let dref := smc.ref - smc.refl
  let smc := { smc with angle := angleNow, angVel := angleVel, error, ddref, dref }
  if lt (fabs error) smc.errorEps then { smc with u := 0 }
  else
    let s := smc.c * error + (angleVel - dref)
    let u := smc.j * (ddref - smc.c * (angleVel - dref) - smc.epsilon * sat s - smc.k * s)
    let u := if lt smc.uMax u then smc.uMax else u
    let u := if lt u (-smc.uMax) then -smc.uMax else u
    { smc with s, u, refl := smc.ref }

/-- What a tick is given: the reference is set before it. -/
structure Tick (F : Type) where
  ref : F
  angleNow : F
  angleVel : F

def tick (smc : Smc F) (next : Tick F) : Smc F :=
  { smc with ref := next.ref }.smcTick next.angleNow next.angleVel

end Smc

end RmTest.Algorithms

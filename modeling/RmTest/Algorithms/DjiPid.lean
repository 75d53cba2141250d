import RmTest.Library.FloatModel

/-! The controller `alg::DjiPid`, which computes its output from the error in one of
two forms: as a whole, or as the change since the last call. The configuration that
`configure` copies into the state is kept there as one field. -/
namespace RmTest.Algorithms

open FloatModel

inductive PidMode where
  | position
  | delta
  deriving DecidableEq

structure DjiPidConfig (F : Type) where
  kp : F
  ki : F
  kd : F
  maxOut : F
  maxIout : F
  mode : PidMode

structure DjiPid (F : Type) where
  config : DjiPidConfig F
  set : F
  fdb : F
  out : F
  pOut : F
  iOut : F
  dOut : F
  dBuf : Vector F 3
  error : Vector F 3

variable {F : Type} [FloatModel F]

/-- A limit that is not positive is none. -/
def clampAbs (value absMax : F) : F :=
  if le absMax 0 then value else clamp value (-absMax) absMax

namespace DjiPid

def reset (p : DjiPid F) : DjiPid F :=
  { p with
    set := 0
    fdb := 0
    out := 0
    pOut := 0
    iOut := 0
    dOut := 0
    dBuf := #v[0, 0, 0]
    error := #v[0, 0, 0] }

def configure (p : DjiPid F) (config : DjiPidConfig F) : DjiPid F :=
  reset { p with config := config }

/-- The output as a whole, with the sum of the errors in `iOut`. -/
def updatePosition (p : DjiPid F) : DjiPid F :=
  let c := p.config
  let pOut := c.kp * p.error[0]
  let change := p.error[0] - p.error[1]
  let dOut := c.kd * change
  let iOut := clampAbs (p.iOut + c.ki * p.error[0]) c.maxIout
  { p with
    pOut := pOut
    iOut := iOut
    dBuf := #v[change, p.dBuf[0], p.dBuf[1]]
    dOut := dOut
    out := clampAbs (pOut + iOut + dOut) c.maxOut }

/-- The output as its last value and a change. -/
def updateDelta (p : DjiPid F) : DjiPid F :=
  let c := p.config
  let pOut := c.kp * (p.error[0] - p.error[1])
  let iOut := c.ki * p.error[0]
  let change := p.error[0] - lit 2 * p.error[1] + p.error[2]
  let dOut := c.kd * change
  { p with
    pOut := pOut
    iOut := iOut
    dBuf := #v[change, p.dBuf[0], p.dBuf[1]]
    dOut := dOut
    out := clampAbs (p.out + (pOut + iOut + dOut)) c.maxOut }

/-- `update`, with the output it returns. -/
def update (p : DjiPid F) (target now : F) : DjiPid F × F :=
  let p :=
    { p with set := target, fdb := now, error := #v[target - now, p.error[0], p.error[1]] }
  let p :=
    match p.config.mode with
    | .position => p.updatePosition
    | .delta => p.updateDelta
  (p, p.out)

end DjiPid

end RmTest.Algorithms

import RmTest.Algorithms.OrdinaryLeastSquares

/-! The controller `alg::ControllerPid`: a PID controller with a measured time step and
eight improvements that a mask turns on. The parts of the configuration that `configure`
copies into the state are kept there as one field. -/
namespace RmTest.Algorithms

open FloatModel

namespace Improve

def integralLimit : UInt8 := 0x01
def derivativeOnMeasurement : UInt8 := 0x02
def trapezoidIntegral : UInt8 := 0x04
def outputFilter : UInt8 := 0x10
def changingIntegrationRate : UInt8 := 0x20
def derivativeFilter : UInt8 := 0x40
def errorHandle : UInt8 := 0x80

end Improve

structure ControllerPidConfig (F : Type) where
  kp : F
  ki : F
  kd : F
  maxOut : F
  integralLimit : F
  deadband : F
  iVariableSpeedA : F
  iVariableSpeedB : F
  outputLpfRc : F
  derivativeLpfRc : F
  olsOrder : UInt16
  improve : UInt8

structure ControllerPid (F : Type) where
  config : ControllerPidConfig F
  ref : F
  measure : F
  lastMeasure : F
  err : F
  lastErr : F
  lastITerm : F
  pOut : F
  iOut : F
  dOut : F
  iTerm : F
  output : F
  lastOutput : F
  lastDOut : F
  ols : OrdinaryLeastSquares F
  dwtCnt : UInt32
  dt : F
  errorCount : UInt64
  motorBlocked : Bool

variable {F : Type} [FloatModel F]

/-- The seconds since the last reading of the cycle counter, and the new reading. -/
def getDeltaTS (lastCycle now hz : UInt32) : F × UInt32 :=
  let dt : F :=
    if lastCycle ≠ 0 then
      let delta := now - lastCycle
      if hz > 0 then lit (delta.toNat : ℚ) / lit (hz.toNat : ℚ) else 0
    else 0
  (dt, now)

namespace ControllerPid

def hasFlag (mask flag : UInt8) : Bool := mask &&& flag ≠ 0

/-- The state that `reset_runtime_` leaves. -/
def runtimeReset (config : ControllerPidConfig F) : ControllerPid F where
  config := config
  ref := 0
  measure := 0
  lastMeasure := 0
  err := 0
  lastErr := 0
  lastITerm := 0
  pOut := 0
  iOut := 0
  dOut := 0
  iTerm := 0
  output := 0
  lastOutput := 0
  lastDOut := 0
  ols := .init config.olsOrder
  dwtCnt := 0
  dt := 0
  errorCount := 0
  motorBlocked := false

/-- A controller before `configure`. -/
def zeroed (F : Type) [FloatModel F] : ControllerPid F :=
  runtimeReset ⟨0, 0, 0, 0, 0, 0, 0, 0, 0, 0, 0, 0⟩

def configure (_p : ControllerPid F) (config : ControllerPidConfig F) : ControllerPid F :=
  runtimeReset config

def reset (p : ControllerPid F) : ControllerPid F := runtimeReset p.config

/-- The two limits, of which the second starts from what the first left. -/
def limitTo (value maxOut : F) : F :=
  let value := if lt maxOut value then maxOut else value
  if lt value (-maxOut) then -maxOut else value

def outputLimit (p : ControllerPid F) : ControllerPid F :=
  { p with output := limitTo p.output p.config.maxOut }

def proportionLimit (p : ControllerPid F) : ControllerPid F :=
  { p with pOut := limitTo p.pOut p.config.maxOut }

def trapezoidIntegral (p : ControllerPid F) : ControllerPid F :=
  { p with iTerm := p.config.ki * ((p.err + p.lastErr) * lit (1 / 2)) * p.dt }

def changingIntegrationRate (p : ControllerPid F) : ControllerPid F :=
  let a := p.config.iVariableSpeedA
  let b := p.config.iVariableSpeedB
  if lt 0 (p.err * p.iOut) then
    let absErr := fabs p.err
    if le absErr b then p
    else if le absErr (a + b) then
      if lt 0 a then { p with iTerm := p.iTerm * ((a - absErr + b) / a) } else p
    else { p with iTerm := 0 }
  else p

/-- Part of `integral_limit`: no further integration while the output is saturated. -/
def stopAtSaturation (p : ControllerPid F) : ControllerPid F :=
  if lt p.config.maxOut (fabs (p.pOut + p.iOut + p.dOut)) && lt 0 (p.err * p.iOut) then
    { p with iTerm := 0 }
  else p

/-- The sum is taken before the saturation is looked at. -/
def integralLimit (p : ControllerPid F) : ControllerPid F :=
  let tempIout := p.iOut + p.iTerm
  let limit := p.config.integralLimit
  let p := p.stopAtSaturation
  if lt 0 limit then
    let p := if lt limit tempIout then { p with iTerm := 0, iOut := limit } else p
    if lt tempIout (-limit) then { p with iTerm := 0, iOut := -limit } else p
  else p

/-- The derivative of a value by the least-squares filter, which takes it as its next
sample, or by the last difference. -/
def differentiate (p : ControllerPid F) (sample difference : F) : ControllerPid F :=
  if p.config.olsOrder > 2 then
    let (ols, slope) := p.ols.derivative p.dt sample
    { p with ols := ols, dOut := p.config.kd * slope }
  else { p with dOut := p.config.kd * difference / p.dt }

def derivativeOnMeasurement (p : ControllerPid F) : ControllerPid F :=
  if le p.dt 0 then p else p.differentiate (-p.measure) (p.lastMeasure - p.measure)

def derivativeFilter (p : ControllerPid F) : ControllerPid F :=
  let rc := p.config.derivativeLpfRc
  let denom := rc + p.dt
  if le denom 0 then p
  else { p with dOut := p.dOut * p.dt / denom + p.lastDOut * rc / denom }

def outputFilter (p : ControllerPid F) : ControllerPid F :=
  let rc := p.config.outputLpfRc
  let denom := rc + p.dt
  if le denom 0 then p
  else { p with output := p.output * p.dt / denom + p.lastOutput * rc / denom }

/-- The output is compared with its sign. -/
def pidErrorHandle (p : ControllerPid F) : ControllerPid F :=
  if lt p.output (p.config.maxOut * lit (1 / 1000)) || lt (fabs p.ref) (lit (1 / 10000)) then p
  else
    let errorCount :=
      if lt (lit (95 / 100)) (fabs (p.ref - p.measure) / fabs p.ref) then p.errorCount + 1 else 0
    { p with
      errorCount := errorCount
      motorBlocked := if errorCount > 500 then true else p.motorBlocked }

/-- A stage that the mask may turn off. -/
def when (flag : UInt8) (stage : ControllerPid F → ControllerPid F) (p : ControllerPid F) :
    ControllerPid F :=
  if hasFlag p.config.improve flag then stage p else p

/-- The three terms before any improvement. -/
def computeTerms (p : ControllerPid F) : ControllerPid F :=
  differentiate
    { p with
      pOut := p.config.kp * p.err
      iTerm := p.config.ki * p.err * p.dt }
    p.err (p.err - p.lastErr)

def sumTerms (p : ControllerPid F) : ControllerPid F :=
  let iOut := p.iOut + p.iTerm
  { p with iOut := iOut, output := p.pOut + iOut + p.dOut }

/-- What happens outside the dead band, stage by stage. -/
def control (p : ControllerPid F) : ControllerPid F :=
  let p := p.computeTerms
  let p := when Improve.trapezoidIntegral trapezoidIntegral p
  let p := when Improve.changingIntegrationRate changingIntegrationRate p
  let p := when Improve.derivativeOnMeasurement derivativeOnMeasurement p
  let p := when Improve.derivativeFilter derivativeFilter p
  let p := when Improve.integralLimit integralLimit p
  let p := p.sumTerms
  let p := when Improve.outputFilter outputFilter p
  p.outputLimit.proportionLimit

/-- What the next call needs of this one. -/
def remember (p : ControllerPid F) : ControllerPid F :=
  { p with
    lastMeasure := p.measure
    lastOutput := p.output
    lastDOut := p.dOut
    lastErr := p.err
    lastITerm := p.iTerm }

/-- `update`, given the readings of the cycle counter and its frequency, with the output
it returns. -/
def update (p : ControllerPid F) (target now : F) (cycles hz : UInt32) : ControllerPid F × F :=
  let p := when Improve.errorHandle pidErrorHandle p
  let (dt, dwtCnt) := getDeltaTS p.dwtCnt cycles hz
  let p := { p with dt := dt, dwtCnt := dwtCnt }
  if le p.dt 0 then (p, p.output)
  else
    let p := { p with measure := now, ref := target, err := target - now }
    let p := if lt p.config.deadband (fabs p.err) then p.control else p
    let p := p.remember
    (p, p.output)

def out (p : ControllerPid F) : F := p.output

end ControllerPid

end RmTest.Algorithms

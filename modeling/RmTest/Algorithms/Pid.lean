import RmTest.Library.FloatModel

/-! The PID controller `alg::Pid`. What `Init` sets is kept in `config`, so that
the history, which `reset` erases and `update` carries on, is all the rest. -/
namespace RmTest.Algorithms

open FloatModel

inductive DFirst where
  | disable
  | enable
  deriving DecidableEq

structure PidConfig (F : Type) where
  kP : F
  kI : F
  kD : F
  kF : F
  iOutMax : F
  outMax : F
  dT : F
  deadZone : F
  iVariableSpeedA : F
  iVariableSpeedB : F
  iSeparateThreshold : F
  dFirst : DFirst
  dLpfTau : F

structure Pid (F : Type) where
  config : PidConfig F
  dLpfOutput : F
  preNow : F
  preTarget : F
  preOut : F
  preError : F
  out : F
  target : F
  now : F
  integralError : F

variable {F : Type} [FloatModel F]

def mathConstrain (x min max : F) : F := if lt x min then min else if lt max x then max else x

theorem mathConstrain_eq_clamp (x min max : F) : mathConstrain x min max = clamp x min max := rfl

def mathAbs (x : F) : F := if lt 0 x then x else -x

/-- The arguments of `Init` up to the time slice, with the defaults of the rest. -/
def PidConfig.basic (kP kI kD kF iOutMax outMax dT : F) : PidConfig F where
  kP := kP
  kI := kI
  kD := kD
  kF := kF
  iOutMax := iOutMax
  outMax := outMax
  dT := dT
  deadZone := 0
  iVariableSpeedA := 0
  iVariableSpeedB := 0
  iSeparateThreshold := 0
  dFirst := .disable
  dLpfTau := 0

namespace Pid

/-- A controller in static storage before `Init`. -/
def zeroed (F : Type) [FloatModel F] : Pid F where
  config := .basic 0 0 0 0 0 0 0
  dLpfOutput := 0
  preNow := 0
  preTarget := 0
  preOut := 0
  preError := 0
  out := 0
  target := 0
  now := 0
  integralError := 0

/-- `Init` keeps the history. -/
def init (p : Pid F) (config : PidConfig F) : Pid F := { p with config := config }

def setIntegralError (p : Pid F) (integralError : F) : Pid F :=
  { p with integralError := integralError }

def reset (p : Pid F) : Pid F :=
  { p with
    preNow := 0
    preTarget := 0
    preOut := 0
    preError := 0
    out := 0
    integralError := 0
    dLpfOutput := 0 }

/-- The dead zone: target, error and absolute error as the rest of the step uses
them. -/
def applyDeadZone (p : Pid F) : F × F × F :=
  let error := p.target - p.now
  let absError := mathAbs error
  let deadZone := p.config.deadZone
  if lt absError deadZone then (p.now, 0, 0)
  else if lt 0 error && lt deadZone absError then (p.target, error - deadZone, absError)
  else if lt error 0 && lt deadZone absError then (p.target, error + deadZone, absError)
  else (p.target, error, absError)

/-- The variable integration speed, which is 1 unless a range is configured. -/
def speedRatio (p : Pid F) (absError : F) : F :=
  let a := p.config.iVariableSpeedA
  let b := p.config.iVariableSpeedB
  if eq a 0 && eq b 0 then lit 1
  else if le absError a then lit 1
  else if lt a absError && lt absError b then (b - absError) / (b - a)
  else if le b absError then 0
  else lit 1

/-- The integral after the limit, separation and accumulation, and the I term. -/
def integrate (p : Pid F) (error absError : F) : F × F :=
  let c := p.config
  let limited :=
    if eq c.iOutMax 0 then p.integralError
    else mathConstrain p.integralError (-c.iOutMax / c.kI) (c.iOutMax / c.kI)
  let accumulated := limited + p.speedRatio absError * c.dT * error
  if eq c.iSeparateThreshold 0 then (accumulated, c.kI * accumulated)
  else if lt absError c.iSeparateThreshold then (accumulated, c.kI * accumulated)
  else (0, 0)

/-- The D term and the filter's memory. -/
def differentiate (p : Pid F) (error : F) : F × F :=
  let c := p.config
  let dRaw :=
    if c.dFirst = .disable then c.kD * (error - p.preError) / c.dT
    else -c.kD * (p.now - p.preNow) / c.dT
  if lt 0 c.dLpfTau then
    let alpha := c.dLpfTau / (c.dLpfTau + c.dT)
    let dOut := alpha * p.dLpfOutput + (lit 1 - alpha) * dRaw
    (dOut, dOut)
  else (dRaw, p.dLpfOutput)

def calculatePeriodElapsedCallback (p : Pid F) : Pid F :=
  let (target, error, absError) := p.applyDeadZone
  let pOut := p.config.kP * error
  let (integralError, iOut) := p.integrate error absError
  let (dOut, dLpfOutput) := p.differentiate error
  let fOut := p.config.kF * (target - p.preTarget)
  let sum := pOut + iOut + dOut + fOut
  let out :=
    if eq p.config.outMax 0 then sum else mathConstrain sum (-p.config.outMax) p.config.outMax
  { p with
    target := target
    integralError := integralError
    dLpfOutput := dLpfOutput
    out := out
    preNow := p.now
    preTarget := target
    preOut := out
    preError := error }

/-- `update`, with the output it returns. -/
def update (p : Pid F) (target now : F) : Pid F × F :=
  let p := calculatePeriodElapsedCallback { p with target := target, now := now }
  (p, p.out)

/-- The macro `PI`. -/
def pi : F := lit (314159265358979323846 / 100000000000000000000)

/-- The error on the shorter arc. -/
def angleError (p : Pid F) : F :=
  let error := p.target - p.now
  if lt pi error then error - lit 2 * pi
  else if lt error (-pi) then error + lit 2 * pi
  else error

/-- The dead zone of `CalculateAnglePid`: target, error and absolute error. -/
def applyAngleDeadZone (p : Pid F) : F × F × F :=
  let error := p.angleError
  let absError := mathAbs error
  let deadZone := p.config.deadZone
  if lt absError deadZone then (p.now, 0, 0)
  else if lt 0 error && lt deadZone absError then (p.target, error - deadZone, absError)
  else if lt error 0 && lt deadZone absError then (p.target, error + deadZone, absError)
  else (p.target, error, absError)

/-- The variable integration speed, of which the last branch is 0 here. -/
def angleSpeedRatio (p : Pid F) (absError : F) : F :=
  let a := p.config.iVariableSpeedA
  let b := p.config.iVariableSpeedB
  if eq a 0 && eq b 0 then lit 1
  else if le absError a then lit 1
  else if lt a absError && lt absError b then (b - absError) / (b - a)
  else 0

/-- The integral and the I term. A saturated output and an error that changed its sign
clear the integral first. -/
def integrateAngle (p : Pid F) (error absError : F) : F × F :=
  let c := p.config
  let limited :=
    if eq c.iOutMax 0 then p.integralError
    else mathConstrain p.integralError (-c.iOutMax / c.kI) (c.iOutMax / c.kI)
  let saturated := le c.outMax p.out || le p.out (-c.outMax)
  let turned := lt 0 p.preError && lt error 0 || lt p.preError 0 && lt 0 error
  let cleared := if saturated || turned then 0 else limited
  let accumulated := cleared + p.angleSpeedRatio absError * c.dT * error
  if eq c.iSeparateThreshold 0 then (accumulated, c.kI * accumulated)
  else if lt absError c.iSeparateThreshold then (accumulated, c.kI * accumulated)
  else (0, 0)

def calculateAnglePid (p : Pid F) : Pid F :=
  let (target, error, absError) := p.applyAngleDeadZone
  let pOut := p.config.kP * error
  let (integralError, iOut) := p.integrateAngle error absError
  let dOut :=
    if p.config.dFirst = .disable then p.config.kD * (error - p.preError) / p.config.dT
    else -p.config.kD * (p.now - p.preNow) / p.config.dT
  let fOut := p.config.kF * (target - p.preTarget)
  let sum := pOut + iOut + dOut + fOut
  let out :=
    if eq p.config.outMax 0 then sum else mathConstrain sum (-p.config.outMax) p.config.outMax
  { p with
    target := target
    integralError := integralError
    out := out
    preNow := p.now
    preTarget := target
    preOut := out
    preError := error }

/-- `update_angle`, with the output it returns. -/
def updateAngle (p : Pid F) (target now : F) : Pid F × F :=
  let p := calculateAnglePid { p with target := target, now := now }
  (p, p.out)

@[simp] theorem config_updateAngle (p : Pid F) (target now : F) :
    (p.updateAngle target now).1.config = p.config := rfl

@[simp] theorem config_update (p : Pid F) (target now : F) :
    (p.update target now).1.config = p.config := rfl

end Pid

end RmTest.Algorithms

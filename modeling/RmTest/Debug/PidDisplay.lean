import RmTest.Services.ChassisTuning
import RmTest.Library.FloatModel

/-! How the shell shows the tuning of the chassis controllers. Where the arithmetic leaves
the 32 bits of its types, there is no result. The bit patterns, which are shown as well,
are left out. -/
namespace RmTest.Debug

open Channels Services FloatModel

variable {F : Type} [FloatModel F]

/-- What `MilliToParts` stores. -/
structure MilliParts where
  sign : Char
  integer : Nat
  fraction : Nat
  deriving DecidableEq

/-- A value of an `int32_t`. -/
def int32 (n : Int) : Option Int := if -2 ^ 31 ≤ n ∧ n < 2 ^ 31 then some n else none

def toMilliFixed (value : F) : Option Int :=
  let scaled := value * lit 1000
  if le 0 scaled then int32 (trunc (scaled + lit (5 / 10)))
  else int32 (trunc (scaled - lit (5 / 10)))

def milliToParts (milli : Int) : Option MilliParts := do
  let absMilli ← if milli < 0 then int32 (-milli) else some milli
  return {
    sign := if milli < 0 then '-' else '+'
    integer := absMilli.toNat / 1000
    fraction := absMilli.toNat % 1000 }

/-- The five values as `CmdPidGet` shows them. -/
def showTuning (tuning : SpeedPidTuning F) : Option (SpeedPidTuning MilliParts) := do
  let kpM ← toMilliFixed tuning.kp
  let kiM ← toMilliFixed tuning.ki
  let kdM ← toMilliFixed tuning.kd
  let iLimitM ← toMilliFixed tuning.iLimit
  let outLimitM ← toMilliFixed tuning.outLimit
  let kp ← milliToParts kpM
  let ki ← milliToParts kiM
  let kd ← milliToParts kdM
  let iLimit ← milliToParts iLimitM
  let outLimit ← milliToParts outLimitM
  return ⟨kp, ki, kd, iLimit, outLimit⟩

/-- `CmdPidGet`; `read` is what `GetSpeedPidTuning` of the service returns. -/
def cmdPidGet (read : Except Errno (SpeedPidTuning F)) :
    Option (Except Errno (SpeedPidTuning MilliParts)) :=
  match read with
  | .error rc => some (.error rc)
  | .ok tuning => (showTuning tuning).map .ok

end RmTest.Debug

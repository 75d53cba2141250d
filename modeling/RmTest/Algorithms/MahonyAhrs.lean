import RmTest.Library.Single

/-! The complementary filter for the attitude, and its reciprocal square root. -/
namespace RmTest.Algorithms

open FloatModel

/-- The functions of the mathematics library, and `InvSqrt`. -/
structure AttitudeMath (F : Type) where
  sqrt : F → F
  sin : F → F
  cos : F → F
  asin : F → F
  atan2 : F → F → F
  invSqrt : F → F

namespace MahonyAhrs

/-- One line of `InvSqrt` behind the first guess. -/
def invSqrtPass {F : Type} [FloatModel F] (halfX y : F) : F := y * (lit (3 / 2) - halfX * y * y)

/-- The bits of the first guess. -/
def invSqrtGuess (i : UInt32) : UInt32 := (0x5f3759df : UInt32) - (i >>> 1)

/-- `InvSqrt` of the value with these bits, where arithmetic goes on in `F`. -/
def invSqrtOfBits {F : Type} [FloatSource F] (i : UInt32) : F :=
  let halfX := lit (1 / 2) * FloatSource.ofBits i
  let y := FloatSource.ofBits (invSqrtGuess i)
  invSqrtPass halfX (invSqrtPass halfX y)

/-- `InvSqrt`, given what the two copies between a float and its bits do. -/
def invSqrt {F : Type} [FloatModel F] (toBits : F → UInt32) (ofBits : UInt32 → F) (x : F) : F :=
  let halfX := lit (1 / 2) * x
  let y := ofBits (invSqrtGuess (toBits x))
  invSqrtPass halfX (invSqrtPass halfX y)

/-- The number of a finite float. -/
def numberOf (bits : UInt32) : ℚ :=
  match NanRat.ofBits bits with
  | .num value => value
  | .nan => 0

/-- `InvSqrt` in exact arithmetic, where the bits are those of the float nearest to the
argument. -/
def exactInvSqrt : ℚ → ℚ := invSqrt (fun x => (Single.round x).bits) numberOf

end MahonyAhrs

/-- The attitude, the integral feedback, and the angles that were computed last. -/
structure MahonyAhrs (F : Type) where
  twoKi : F
  q0 : F
  q1 : F
  q2 : F
  q3 : F
  integralFbx : F
  integralFby : F
  integralFbz : F
  invSampleFreq : F
  cachedRollDeg : F
  cachedPitchDeg : F
  cachedYawDeg : F
  anglesComputed : Bool

/-- Three components of a measurement. -/
structure Axes (F : Type) where
  x : F
  y : F
  z : F

namespace MahonyAhrs

variable {F : Type} [FloatModel F]

def kRad2Deg : F := lit (57.29578 : ℚ)
def kTwoKp : F := lit 2 * lit (1 / 2)
def kTwoKiDefault : F := lit 2 * lit 0

def constructed : MahonyAhrs F where
  twoKi := kTwoKiDefault
  q0 := lit 1
  q1 := lit 0
  q2 := lit 0
  q3 := lit 0
  integralFbx := lit 0
  integralFby := lit 0
  integralFbz := lit 0
  invSampleFreq := lit 0
  cachedRollDeg := lit 0
  cachedPitchDeg := lit 0
  cachedYawDeg := lit 0
  anglesComputed := false

def init (ahrs : MahonyAhrs F) (sampleFrequencyHz : F) : MahonyAhrs F :=
  { ahrs with
    twoKi := kTwoKiDefault
    q0 := lit 1
    q1 := lit 0
    q2 := lit 0
    q3 := lit 0
    integralFbx := lit 0
    integralFby := lit 0
    integralFbz := lit 0
    anglesComputed := false
    invSampleFreq := lit 1 / sampleFrequencyHz }

/-- All three components are zero. -/
def isZero (v : Axes F) : Bool := eq v.x (lit 0) && eq v.y (lit 0) && eq v.z (lit 0)

variable (math : AttitudeMath F)

def normalized (v : Axes F) : Axes F :=
  let recipNorm := math.invSqrt (v.x * v.x + v.y * v.y + v.z * v.z)
  ⟨v.x * recipNorm, v.y * recipNorm, v.z * recipNorm⟩

/-- The error of the direction of gravity in `UpdateImu`. `a` is of length one. -/
def gravityError (ahrs : MahonyAhrs F) (a : Axes F) : Axes F :=
  let halfVx := ahrs.q1 * ahrs.q3 - ahrs.q0 * ahrs.q2
  let halfVy := ahrs.q0 * ahrs.q1 + ahrs.q2 * ahrs.q3
  let halfVz := ahrs.q0 * ahrs.q0 - lit (1 / 2) + ahrs.q3 * ahrs.q3
  ⟨a.y * halfVz - a.z * halfVy, a.z * halfVx - a.x * halfVz, a.x * halfVy - a.y * halfVx⟩

/-- The error of both directions in `Update`. -/
def fieldError (ahrs : MahonyAhrs F) (a m : Axes F) : Axes F :=
  let q0q0 := ahrs.q0 * ahrs.q0
  let q0q1 := ahrs.q0 * ahrs.q1
  let q0q2 := ahrs.q0 * ahrs.q2
  let q0q3 := ahrs.q0 * ahrs.q3
  let q1q1 := ahrs.q1 * ahrs.q1
  let q1q2 := ahrs.q1 * ahrs.q2
  let q1q3 := ahrs.q1 * ahrs.q3
  let q2q2 := ahrs.q2 * ahrs.q2
  let q2q3 := ahrs.q2 * ahrs.q3
  let q3q3 := ahrs.q3 * ahrs.q3
  let hx := lit 2 * (m.x * (lit (1 / 2) - q2q2 - q3q3) + m.y * (q1q2 - q0q3) + m.z * (q1q3 + q0q2))
  let hy := lit 2 * (m.x * (q1q2 + q0q3) + m.y * (lit (1 / 2) - q1q1 - q3q3) + m.z * (q2q3 - q0q1))
  let bx := math.sqrt (hx * hx + hy * hy)
  let bz := lit 2 * (m.x * (q1q3 - q0q2) + m.y * (q2q3 + q0q1) + m.z * (lit (1 / 2) - q1q1 - q2q2))
  let halfVx := q1q3 - q0q2
  let halfVy := q0q1 + q2q3
  let halfVz := q0q0 - lit (1 / 2) + q3q3
  let halfWx := bx * (lit (1 / 2) - q2q2 - q3q3) + bz * (q1q3 - q0q2)
  let halfWy := bx * (q1q2 - q0q3) + bz * (q0q1 + q2q3)
  let halfWz := bx * (q0q2 + q1q3) + bz * (lit (1 / 2) - q1q1 - q2q2)
  ⟨(a.y * halfVz - a.z * halfVy) + (m.y * halfWz - m.z * halfWy),
    (a.z * halfVx - a.x * halfVz) + (m.z * halfWx - m.x * halfWz),
    (a.x * halfVy - a.y * halfVx) + (m.x * halfWy - m.y * halfWx)⟩

/-- The feedback of an error to the rate. -/
def feedBack (ahrs : MahonyAhrs F) (g error : Axes F) : MahonyAhrs F × Axes F :=
  let (ahrs, g) :=
    if lt (lit 0) ahrs.twoKi then
      let ahrs :=
        { ahrs with
          integralFbx := ahrs.integralFbx + ahrs.twoKi * error.x * ahrs.invSampleFreq
          integralFby := ahrs.integralFby + ahrs.twoKi * error.y * ahrs.invSampleFreq
          integralFbz := ahrs.integralFbz + ahrs.twoKi * error.z * ahrs.invSampleFreq }
      (ahrs, (⟨g.x + ahrs.integralFbx, g.y + ahrs.integralFby, g.z + ahrs.integralFbz⟩ : Axes F))
    else
      ({ ahrs with integralFbx := lit 0, integralFby := lit 0, integralFbz := lit 0 }, g)
  (ahrs, ⟨g.x + kTwoKp * error.x, g.y + kTwoKp * error.y, g.z + kTwoKp * error.z⟩)

/-- The rate is integrated and the attitude scaled to length one. -/
def integrate (ahrs : MahonyAhrs F) (g : Axes F) : MahonyAhrs F :=
  let gx := g.x * (lit (1 / 2) * ahrs.invSampleFreq)
  let gy := g.y * (lit (1 / 2) * ahrs.invSampleFreq)
  let gz := g.z * (lit (1 / 2) * ahrs.invSampleFreq)
  let qa := ahrs.q0
  let qb := ahrs.q1
  let qc := ahrs.q2
  -- `q3_` is not copied: the last line is the first to change it
  let q0 := ahrs.q0 + (-qb * gx - qc * gy - ahrs.q3 * gz)
  let q1 := ahrs.q1 + (qa * gx + qc * gz - ahrs.q3 * gy)
  let q2 := ahrs.q2 + (qa * gy - qb * gz + ahrs.q3 * gx)
  let q3 := ahrs.q3 + (qa * gz + qb * gy - qc * gx)
  let recipNorm := math.invSqrt (q0 * q0 + q1 * q1 + q2 * q2 + q3 * q3)
  { ahrs with
    q0 := q0 * recipNorm
    q1 := q1 * recipNorm
    q2 := q2 * recipNorm
    q3 := q3 * recipNorm
    anglesComputed := false }

def updateImu (ahrs : MahonyAhrs F) (g a : Axes F) : MahonyAhrs F :=
  if !isZero a then
    let (ahrs, g) := ahrs.feedBack g (ahrs.gravityError (normalized math a))
    ahrs.integrate math g
  else ahrs.integrate math g

def update (ahrs : MahonyAhrs F) (g a m : Axes F) : MahonyAhrs F :=
  if isZero m then ahrs.updateImu math g a
  else if !isZero a then
    let (ahrs, g) := ahrs.feedBack g (ahrs.fieldError math (normalized math a) (normalized math m))
    ahrs.integrate math g
  else ahrs.integrate math g

/-- `InitFromAccMag`. -/
def initFromAccMag (ahrs : MahonyAhrs F) (a m : Axes F) : MahonyAhrs F :=
  let a := normalized math a
  let hasField := !eq m.x (lit 0) && !eq m.y (lit 0) && !eq m.z (lit 0)
  let m := if hasField then normalized math m else m
  let initPitch := math.atan2 (-a.x) a.z
  let initRoll := math.atan2 a.y a.z
  let sinRoll := math.sin initRoll
  let cosRoll := math.cos initRoll
  let cosPitch := math.cos initPitch
  let sinPitch := math.sin initPitch
  let initYaw :=
    -- the condition is checked again on the scaled values
    if !eq m.x (lit 0) && !eq m.y (lit 0) && !eq m.z (lit 0) then
      let magX := m.x * cosPitch + m.y * sinPitch * sinRoll + m.z * sinPitch * cosRoll
      let magY := m.y * cosRoll - m.z * sinRoll
      math.atan2 (-magY) magX
    else lit 0
  let cr2 := math.cos (initRoll * lit (1 / 2))
  let cp2 := math.cos (initPitch * lit (1 / 2))
  let cy2 := math.cos (initYaw * lit (1 / 2))
  let sr2 := math.sin (initRoll * lit (1 / 2))
  let sp2 := math.sin (initPitch * lit (1 / 2))
  let sy2 := math.sin (initYaw * lit (1 / 2))
  let q0 := cr2 * cp2 * cy2 + sr2 * sp2 * sy2
  let q1 := sr2 * cp2 * cy2 - cr2 * sp2 * sy2
  let q2 := cr2 * sp2 * cy2 + sr2 * cp2 * sy2
  let q3 := cr2 * cp2 * sy2 - sr2 * sp2 * cy2
  let recipNorm := math.invSqrt (q0 * q0 + q1 * q1 + q2 * q2 + q3 * q3)
  { ahrs with
    q0 := q0 * recipNorm
    q1 := q1 * recipNorm
    q2 := q2 * recipNorm
    q3 := q3 * recipNorm
    anglesComputed := false }

def computeAngles (ahrs : MahonyAhrs F) : MahonyAhrs F :=
  { ahrs with
    cachedRollDeg := math.atan2 (ahrs.q0 * ahrs.q1 + ahrs.q2 * ahrs.q3)
      (lit (1 / 2) - ahrs.q1 * ahrs.q1 - ahrs.q2 * ahrs.q2) * kRad2Deg
    cachedPitchDeg := math.asin (-lit 2 * (ahrs.q1 * ahrs.q3 - ahrs.q0 * ahrs.q2)) * kRad2Deg
    cachedYawDeg := math.atan2 (ahrs.q1 * ahrs.q2 + ahrs.q0 * ahrs.q3)
      (lit (1 / 2) - ahrs.q2 * ahrs.q2 - ahrs.q3 * ahrs.q3) * kRad2Deg
    anglesComputed := true }

/-- What the three getters do first. -/
def withAngles (ahrs : MahonyAhrs F) : MahonyAhrs F :=
  if !ahrs.anglesComputed then ahrs.computeAngles math else ahrs

def rollDeg (ahrs : MahonyAhrs F) : MahonyAhrs F × F :=
  let ahrs := ahrs.withAngles math
  (ahrs, ahrs.cachedRollDeg)

def pitchDeg (ahrs : MahonyAhrs F) : MahonyAhrs F × F :=
  let ahrs := ahrs.withAngles math
  (ahrs, ahrs.cachedPitchDeg)

def yawDeg (ahrs : MahonyAhrs F) : MahonyAhrs F × F :=
  let ahrs := ahrs.withAngles math
  (ahrs, ahrs.cachedYawDeg)

end MahonyAhrs

/-- The calls of the public interface. -/
inductive AhrsCall (F : Type) where
  | init (sampleFrequencyHz : F)
  | initFromAccMag (a m : Axes F)
  | update (g a m : Axes F)
  | updateImu (g a : Axes F)
  | computeAngles
  | rollDeg
  | pitchDeg
  | yawDeg

namespace MahonyAhrs

variable {F : Type} [FloatModel F] (math : AttitudeMath F)

def call (ahrs : MahonyAhrs F) : AhrsCall F → MahonyAhrs F
  | .init sampleFrequencyHz => ahrs.init sampleFrequencyHz
  | .initFromAccMag a m => ahrs.initFromAccMag math a m
  | .update g a m => ahrs.update math g a m
  | .updateImu g a => ahrs.updateImu math g a
  | .computeAngles => ahrs.computeAngles math
  | .rollDeg => (ahrs.rollDeg math).1
  | .pitchDeg => (ahrs.pitchDeg math).1
  | .yawDeg => (ahrs.yawDeg math).1

end MahonyAhrs

end RmTest.Algorithms

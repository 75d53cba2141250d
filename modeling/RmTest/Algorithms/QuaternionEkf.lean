import RmTest.Algorithms.KalmanHooks
import RmTest.Algorithms.MahonyAhrs

/-! The attitude filter: a Kalman filter of six states (the attitude and the bias of two
gyroscopes) and three measurements (the direction of gravity), whose user functions
linearise, test the measurement and correct. -/
namespace RmTest.Algorithms

open FloatModel Kf

structure Quat (F : Type) where
  q0 : F
  q1 : F
  q2 : F
  q3 : F

/-- `QuaternionEkf::Params`. -/
structure EkfParams (F : Type) where
  processNoiseQuat : F
  processNoiseGyroBias : F
  measureNoiseAccel : F
  fadingLambda : F
  dt : F
  accelLpfCoef : F

/-- `QekfIns` without the filter. -/
structure QekfIns (F : Type) where
  initialized : UInt8
  convergeFlag : UInt8
  stableFlag : UInt8
  errorCount : UInt64
  updateCount : UInt64
  q : Quat F
  gyroBias : Axes F
  gyro : Axes F
  accel : Axes F
  orientationCosine : Axes F
  accLpfCoef : F
  gyroNorm : F
  acclNorm : F
  adaptiveGainScale : F
  roll : F
  pitch : F
  yaw : F
  yawTotalAngle : F
  q1 : F
  q2 : F
  r : F
  dt : F
  chiSquareRows : Nat
  chiSquareCols : Nat
  chiSquareData : F
  chiSquareTestThreshold : F
  lambda : F
  yawRoundCount : Int16
  yawAngleLast : F
  /-- The copies for the debugger. -/
  imuQuaternionEkfP : Buffer F
  imuQuaternionEkfK : Buffer F
  imuQuaternionEkfH : Buffer F

structure QuaternionEkf (F : Type) where
  ins : QekfIns F
  kf : KalmanFilter F

namespace QuaternionEkf

variable {F : Type} [FloatModel F]

/-- `ins_{}`. -/
def constructed : QuaternionEkf F where
  ins :=
    { initialized := 0, convergeFlag := 0, stableFlag := 0, errorCount := 0, updateCount := 0
      q := ⟨0, 0, 0, 0⟩, gyroBias := ⟨0, 0, 0⟩, gyro := ⟨0, 0, 0⟩, accel := ⟨0, 0, 0⟩
      orientationCosine := ⟨0, 0, 0⟩, accLpfCoef := 0, gyroNorm := 0, acclNorm := 0
      adaptiveGainScale := 0, roll := 0, pitch := 0, yaw := 0, yawTotalAngle := 0
      q1 := 0, q2 := 0, r := 0, dt := 0
      chiSquareRows := 0, chiSquareCols := 0, chiSquareData := 0, chiSquareTestThreshold := 0
      lambda := 0, yawRoundCount := 0, yawAngleLast := 0
      imuQuaternionEkfP := fun _ => 0, imuQuaternionEkfK := fun _ => 0
      imuQuaternionEkfH := fun _ => 0 }
  kf := .constructed 6 0 3

/-- `imu_quaternion_ekf_f`. As with every array here, what stands behind the end of the
array is not used. -/
def identity : Buffer F := fun i => if i % 7 = 0 then lit 1 else lit 0

/-- `imu_quaternion_ekf_p_const`. -/
def initialCovariance : Buffer F := fun i =>
  if i % 7 = 0 then (if i < 28 then lit 100000 else lit 100) else lit (1 / 10)

/-- What `Init` and `Reset` do to the filter after `Reset` of its own. -/
def primed (kf : KalmanFilter F) : KalmanFilter F :=
  { kf with
    xhat := { kf.xhat with
      data := fun i => if i = 0 then lit 1 else if i < 4 then lit 0 else kf.xhat.data i }
    skipEq3 := 1
    skipEq4 := 1
    f := { kf.f with data := identity }
    p := { kf.p with data := initialCovariance } }

def init (ekf : QuaternionEkf F) (params : EkfParams F) : QuaternionEkf F :=
  let lambda := if lt (lit 1) params.fadingLambda then lit 1 else params.fadingLambda
  { ins :=
      { ekf.ins with
        initialized := 1
        q1 := params.processNoiseQuat
        q2 := params.processNoiseGyroBias
        r := params.measureNoiseAccel
        chiSquareTestThreshold := lit (1 / 10 ^ 8)
        convergeFlag := 0
        errorCount := 0
        updateCount := 0
        dt := params.dt
        accLpfCoef := if lt params.accelLpfCoef (lit 0) then lit 0 else params.accelLpfCoef
        yawRoundCount := 0
        yawAngleLast := lit 0
        yawTotalAngle := lit 0
        adaptiveGainScale := lit 1
        lambda := lit 1 / lambda
        chiSquareRows := 1
        chiSquareCols := 1
        imuQuaternionEkfP := initialCovariance
        imuQuaternionEkfK := fun _ => 0
        imuQuaternionEkfH := fun _ => 0 }
    kf := primed (ekf.kf.resetFilter 6 0 3) }

/-- `Reset`. The bias that `Update` subtracts from the rates is not reset. -/
def reset (ekf : QuaternionEkf F) : QuaternionEkf F :=
  { ins :=
      { ekf.ins with
        imuQuaternionEkfP := initialCovariance
        convergeFlag := 0
        errorCount := 0
        updateCount := 0
        yawRoundCount := 0
        yawAngleLast := lit 0
        yawTotalAngle := lit 0
        adaptiveGainScale := lit 1 }
    kf := primed (ekf.kf.resetFilter 6 0 3) }

/-- `ObserveCb`. -/
def observeCb (s : QekfIns F × KalmanFilter F) : QekfIns F × KalmanFilter F :=
  ({ s.1 with
      imuQuaternionEkfP := s.2.p.data
      imuQuaternionEkfK := s.2.k.data
      imuQuaternionEkfH := s.2.h.data }, s.2)

/-- The fading and the limit of one variance. -/
def fade (lambda variance : F) : F :=
  let variance := variance * lambda
  if lt (lit 10000) variance then lit 10000 else variance

/-- The entries of `F` that `FLinearizationPFadingCb` sets. -/
def linearised (dt q0 q1 q2 q3 : F) (f : Buffer F) : Buffer F
  | 4 => q1 * dt * lit (1 / 2)
  | 5 => q2 * dt * lit (1 / 2)
  | 10 => -q0 * dt * lit (1 / 2)
  | 11 => q3 * dt * lit (1 / 2)
  | 16 => -q3 * dt * lit (1 / 2)
  | 17 => -q0 * dt * lit (1 / 2)
  | 22 => q2 * dt * lit (1 / 2)
  | 23 => -q1 * dt * lit (1 / 2)
  | i => f i

/-- `FLinearizationPFadingCb`. The entries of `F` are set from the attitude before it is
scaled to length one. -/
def fLinearizationPFadingCb (math : AttitudeMath F) (s : QekfIns F × KalmanFilter F) :
    QekfIns F × KalmanFilter F :=
  let (ins, kf) := s
  let x := kf.xhatminus.data
  let q0 := x 0
  let q1 := x 1
  let q2 := x 2
  let q3 := x 3
  let qInvNorm := math.invSqrt (q0 * q0 + q1 * q1 + q2 * q2 + q3 * q3)
  (ins,
    { kf with
      xhatminus := { kf.xhatminus with data := fun i => if i < 4 then x i * qInvNorm else x i }
      f := { kf.f with data := linearised ins.dt q0 q1 q2 q3 kf.f.data }
      p := { kf.p with
        data := fun i =>
          if i = 28 ∨ i = 35 then fade ins.lambda (kf.p.data i) else kf.p.data i } })

/-- The entries of `H` for twice the attitude. -/
def observation (double0 double1 double2 double3 : F) : Buffer F
  | 0 => -double2
  | 1 => double3
  | 2 => -double0
  | 3 => double1
  | 6 => double1
  | 7 => double0
  | 8 => double3
  | 9 => double2
  | 12 => double0
  | 13 => -double1
  | 14 => -double2
  | 15 => double3
  | _ => 0

/-- `SetHCb`. -/
def setHCb (s : QekfIns F × KalmanFilter F) : QekfIns F × KalmanFilter F :=
  let (ins, kf) := s
  let x := kf.xhatminus.data
  (ins,
    { kf with
      h := { kf.h with
        data := observation (lit 2 * x 0) (lit 2 * x 1) (lit 2 * x 2) (lit 2 * x 3) } })

/-- The direction of gravity for an attitude. -/
def gravity (q0 q1 q2 q3 : F) : Axes F where
  x := lit 2 * (q1 * q3 - q0 * q2)
  y := lit 2 * (q0 * q1 + q2 * q3)
  z := q0 * q0 - q1 * q1 - q2 * q2 + q3 * q3

/-- A vector of the filter, of which the first three entries are set. -/
def setAxes (data : Buffer F) (v : Axes F) : Buffer F
  | 0 => v.x
  | 1 => v.y
  | 2 => v.z
  | i => data i

variable (dsp : RiscvDsp F) (math : AttitudeMath F)

/-- `XhatUpdateCb` up to the inverse. Up to the sum that is inverted these are the operations
of `SetK_`. -/
def invertSum (kf : KalmanFilter F) : KalmanFilter F :=
  let kf := (kf.setS dsp).1
  let inverted := inverse dsp kf.s kf.tempMatrix1
  { kf with tempMatrix1 := inverted.1 }.setStatus inverted.2

/-- The direction of gravity that is expected. -/
def expected (kf : KalmanFilter F) : Axes F :=
  gravity (kf.xhatminus.data 0) (kf.xhatminus.data 1) (kf.xhatminus.data 2) (kf.xhatminus.data 3)

/-- What is measured less what is expected. -/
def setResidual (kf : KalmanFilter F) : KalmanFilter F :=
  let kf :=
    { kf with
      tempVector :=
        { kf.tempVector.resize kf.h.numRows 1 with
          data := setAxes kf.tempVector.data (expected kf) } }
  let kf := { kf with tempVector1 := kf.tempVector1.resize kf.z.numRows 1 }
  let residual := sub dsp kf.z kf.tempVector kf.tempVector1
  { kf with tempVector1 := residual.1 }.setStatus residual.2

/-- The residual and the inverse before they are multiplied with the residual again. -/
def weigh (kf : KalmanFilter F) : KalmanFilter F :=
  let kf := { kf with tempMatrix := kf.tempMatrix.resize kf.tempVector1.numRows 1 }
  let weighted := mul dsp kf.tempMatrix1 kf.tempVector1 kf.tempMatrix
  let kf := { kf with tempMatrix := weighted.1 }.setStatus weighted.2
  let kf := { kf with tempVector := kf.tempVector.resize 1 kf.tempVector1.numRows }
  let row := transpose dsp kf.tempVector1 kf.tempVector
  { kf with tempVector := row.1 }.setStatus row.2

/-- `chi_square`. -/
def chiSquare (ins : QekfIns F) (kf : KalmanFilter F) : Mat F × Status :=
  mul dsp kf.tempVector kf.tempMatrix
    ⟨ins.chiSquareRows, ins.chiSquareCols, fun _ => ins.chiSquareData⟩

/-- `XhatUpdateCb` up to the statistic of the chi-square test. -/
def testStatistic (s : QekfIns F × KalmanFilter F) : QekfIns F × KalmanFilter F :=
  let direction := expected (invertSum dsp s.2)
  let kf := weigh dsp (setResidual dsp (invertSum dsp s.2))
  let statistic := chiSquare dsp s.1 kf
  ({ s.1 with
      orientationCosine :=
        ⟨math.cos (fabs direction.x), math.cos (fabs direction.y), math.cos (fabs direction.z)⟩
      chiSquareData := statistic.1.data 0 },
    kf.setStatus statistic.2)

/-- `converge_flag` after the first comparison of the chi-square test. -/
def convergeFlagSeen (ins : QekfIns F) : UInt8 :=
  if lt ins.chiSquareData (lit (1 / 2) * ins.chiSquareTestThreshold) then 1 else ins.convergeFlag

/-- `error_count` after a measurement that fails the test. -/
def errorCountSeen (ins : QekfIns F) : UInt64 :=
  if ins.stableFlag ≠ 0 then ins.errorCount + 1 else 0

/-- `adaptive_gain_scale` after a measurement that is taken. -/
def gainScale (ins : QekfIns F) : F :=
  if lt (lit (1 / 10) * ins.chiSquareTestThreshold) ins.chiSquareData = true ∧
      ins.convergeFlag ≠ 0 then
    (ins.chiSquareTestThreshold - ins.chiSquareData) / (lit (9 / 10) * ins.chiSquareTestThreshold)
  else lit 1

/-- The chi-square test. The flag says whether only the prediction is kept. -/
def chiSquareTest (ins : QekfIns F) : QekfIns F × Bool :=
  let ins := { ins with convergeFlag := convergeFlagSeen ins }
  if lt ins.chiSquareTestThreshold ins.chiSquareData = true ∧ ins.convergeFlag ≠ 0 then
    let ins := { ins with errorCount := errorCountSeen ins }
    if ins.errorCount > 50 then ({ ins with convergeFlag := 0 }, false) else (ins, true)
  else ({ ins with adaptiveGainScale := gainScale ins, errorCount := 0 }, false)

/-- The prediction as the result. -/
def keepPrediction (kf : KalmanFilter F) : KalmanFilter F :=
  { kf with
    xhat := { kf.xhat with data := kf.xhat.data.copy kf.xhatminus.data 6 }
    p := { kf.p with data := kf.p.data.copy kf.pminus.data 36 }
    skipEq5 := 1 }

/-- The factors of the entries of the gain. -/
def adaptGain (ins : QekfIns F) (size : Nat) (k : Buffer F) : Buffer F := fun i =>
  let scaled := if i < size then k i * ins.adaptiveGainScale else k i
  if 12 ≤ i ∧ i < 15 then scaled * (ins.orientationCosine.x * (lit 1 / lit (1.5707963 : ℚ)))
  else if 15 ≤ i ∧ i < 18 then scaled * (ins.orientationCosine.y * (lit 1 / lit (1.5707963 : ℚ)))
  else scaled

/-- The limit of the correction of a bias. -/
def limitBias (dt correction : F) : F :=
  let correction := if lt (lit (1 / 100) * dt) correction then lit (1 / 100) * dt else correction
  if lt correction (-lit (1 / 100) * dt) then -lit (1 / 100) * dt else correction

/-- The correction of the state as it is added: the last component of the attitude is left
alone, and a converged filter limits the two biases. -/
def limitCorrection (ins : QekfIns F) (v : Buffer F) : Buffer F
  | 3 => lit 0
  | i => if (i = 4 ∨ i = 5) ∧ ins.convergeFlag ≠ 0 then limitBias ins.dt (v i) else v i

/-- The gain, scaled. -/
def setScaledGain (ins : QekfIns F) (kf : KalmanFilter F) : KalmanFilter F :=
  let kf := { kf with tempMatrix := kf.tempMatrix.resize kf.pminus.numRows kf.ht.numCols }
  let ph := mul dsp kf.pminus kf.ht kf.tempMatrix
  let kf := { kf with tempMatrix := ph.1 }.setStatus ph.2
  let gain := mul dsp kf.tempMatrix kf.tempMatrix1 kf.k
  let kf := { kf with k := gain.1 }.setStatus gain.2
  { kf with k := { kf.k with data := adaptGain ins (kf.k.numRows * kf.k.numCols) kf.k.data } }

/-- The correction, limited, and the sum with what was predicted. -/
def addCorrection (ins : QekfIns F) (kf : KalmanFilter F) : KalmanFilter F :=
  let kf := { kf with tempVector := kf.tempVector.resize kf.k.numRows 1 }
  let correction := mul dsp kf.k kf.tempVector1 kf.tempVector
  let kf := { kf with tempVector := correction.1 }.setStatus correction.2
  let kf :=
    { kf with tempVector := { kf.tempVector with data := limitCorrection ins kf.tempVector.data } }
  let sum := add dsp kf.xhatminus kf.tempVector kf.xhat
  { kf with xhat := sum.1 }.setStatus sum.2

/-- The rest of `XhatUpdateCb`. -/
def correctState (ins : QekfIns F) (kf : KalmanFilter F) : KalmanFilter F :=
  addCorrection dsp ins (setScaledGain dsp ins { kf with skipEq5 := 0 })

/-- `XhatUpdateCb`. -/
def xhatUpdateCb (s : QekfIns F × KalmanFilter F) : QekfIns F × KalmanFilter F :=
  let (ins, kf) := testStatistic dsp math s
  let (ins, rejected) := chiSquareTest ins
  (ins, if rejected then keepPrediction kf else correctState dsp ins kf)

/-- The user functions that `Init` installs. -/
def userFunctions : KalmanFilter.UserFunctions (QekfIns F) F where
  userFunc0 := some observeCb
  userFunc1 := some (fLinearizationPFadingCb math)
  userFunc2 := some setHCb
  userFunc3 := some (xhatUpdateCb dsp math)
  userFunc4 := none
  userFunc5 := none
  userFunc6 := none

/-- The rates without their bias, and their part of `F`. -/
def setRates (ekf : QuaternionEkf F) (g : Axes F) : QuaternionEkf F :=
  let gyro : Axes F :=
    ⟨g.x - ekf.ins.gyroBias.x, g.y - ekf.ins.gyroBias.y, g.z - ekf.ins.gyroBias.z⟩
  let halfGxDt := lit (1 / 2) * gyro.x * ekf.ins.dt
  let halfGyDt := lit (1 / 2) * gyro.y * ekf.ins.dt
  let halfGzDt := lit (1 / 2) * gyro.z * ekf.ins.dt
  let rates : Buffer F
    | 1 => -halfGxDt
    | 2 => -halfGyDt
    | 3 => -halfGzDt
    | 6 => halfGxDt
    | 8 => halfGzDt
    | 9 => -halfGyDt
    | 12 => halfGyDt
    | 13 => -halfGzDt
    | 15 => halfGxDt
    | 18 => halfGzDt
    | 19 => halfGyDt
    | 20 => -halfGxDt
    | i => identity i
  { ins := { ekf.ins with gyro := gyro }
    kf := { ekf.kf with f := { ekf.kf.f with data := rates } } }

/-- The low-pass filter of one component of the acceleration. -/
def lowPass (dt coef old new : F) : F :=
  let tempQuick := lit 1 / (dt + coef)
  old * coef * tempQuick + new * dt * tempQuick

/-- The acceleration behind the low-pass filter, which starts with the first one. -/
def filterAccel (ins : QekfIns F) (a : Axes F) : QekfIns F :=
  let accel := if ins.updateCount = 0 then a else ins.accel
  { ins with
    updateCount := if ins.updateCount = 0 then ins.updateCount + 1 else ins.updateCount
    accel :=
      ⟨lowPass ins.dt ins.accLpfCoef accel.x a.x, lowPass ins.dt ins.accLpfCoef accel.y a.y,
        lowPass ins.dt ins.accLpfCoef accel.z a.z⟩ }

def norm (v : Axes F) : F := math.sqrt (v.x * v.x + v.y * v.y + v.z * v.z)

/-- Whether the device is taken to be at rest. -/
def stable (gyroNorm acclNorm : F) : Bool :=
  lt gyroNorm (lit (3 / 10)) && lt (lit (98 / 10) - lit (1 / 2)) acclNorm &&
    lt acclNorm (lit (98 / 10) + lit (1 / 2))

/-- The entries of the noise of the process that are set. -/
def setProcessNoise (ofQuat ofBias : F) (q : Buffer F) : Buffer F
  | 0 | 7 | 14 | 21 => ofQuat
  | 28 | 35 => ofBias
  | i => q i

def setMeasurementNoise (ofAccel : F) (r : Buffer F) : Buffer F
  | 0 | 4 | 8 => ofAccel
  | i => r i

/-- `Update` up to the update of the filter. -/
def prepare (ekf : QuaternionEkf F) (g a : Axes F) : QuaternionEkf F :=
  let ekf := ekf.setRates g
  let ins := filterAccel ekf.ins a
  let acclNorm := norm math ins.accel
  let accelInvNorm := lit 1 / acclNorm
  let gyroNorm := norm math ins.gyro
  let ins :=
    { ins with
      acclNorm := acclNorm
      gyroNorm := gyroNorm
      stableFlag := if stable gyroNorm acclNorm then 1 else 0 }
  { ins := ins
    kf :=
      { ekf.kf with
        measuredVector := setAxes ekf.kf.measuredVector
          ⟨ins.accel.x * accelInvNorm, ins.accel.y * accelInvNorm, ins.accel.z * accelInvNorm⟩
        q :=
          { ekf.kf.q with
            data := setProcessNoise (ins.q1 * ins.dt) (ins.q2 * ins.dt) ekf.kf.q.data }
        r := { ekf.kf.r with data := setMeasurementNoise ins.r ekf.kf.r.data } } }

/-- The count of turns after a new yaw. -/
def countTurn (count : Int16) (last yaw : F) : Int16 :=
  if lt (lit 180) (yaw - last) then count - 1
  else if lt (yaw - last) (-lit 180) then count + 1
  else count

/-- The angles of an attitude. -/
def setAngles (ins : QekfIns F) (q : Quat F) : QekfIns F :=
  { ins with
    q := q
    roll := math.atan2 (q.q0 * q.q1 + q.q2 * q.q3) (lit (1 / 2) - q.q1 * q.q1 - q.q2 * q.q2) *
      lit (57.29578 : ℚ)
    pitch := lit (57.29578 : ℚ) * math.asin (-lit 2 * (q.q1 * q.q3 - q.q0 * q.q2))
    yaw := math.atan2 (q.q1 * q.q2 + q.q0 * q.q3) (lit (1 / 2) - q.q2 * q.q2 - q.q3 * q.q3) *
      lit (57.29578 : ℚ) }

/-- `Update` after the update of the filter. -/
def takeResult (ekf : QuaternionEkf F) : QuaternionEkf F :=
  let value := ekf.kf.filteredValue
  let ins := setAngles math ekf.ins ⟨value 0, value 1, value 2, value 3⟩
  let ins := { ins with gyroBias := ⟨value 4, value 5, lit 0⟩ }
  let yawRoundCount := countTurn ins.yawRoundCount ins.yawAngleLast ins.yaw
  { ekf with
    ins :=
      { ins with
        yawRoundCount := yawRoundCount
        yawTotalAngle := lit 360 * lit yawRoundCount.toInt + ins.yaw
        yawAngleLast := ins.yaw } }

/-- The filter runs with the user functions once `Init` has installed them. -/
def runFilter (ekf : QuaternionEkf F) : QuaternionEkf F :=
  let user := if ekf.ins.initialized ≠ 0 then userFunctions dsp math else .none
  let (ins, kf) := KalmanFilter.updateHooked dsp user 6 0 3 ekf.ins ekf.kf
  ⟨ins, kf⟩

def update (ekf : QuaternionEkf F) (g a : Axes F) : QuaternionEkf F :=
  takeResult math (runFilter dsp math (prepare math ekf g a))

end QuaternionEkf

/-- A call of the filter. -/
inductive EkfCall (F : Type) where
  | init (params : EkfParams F)
  | reset
  | update (g a : Axes F)

def QuaternionEkf.call {F : Type} [FloatModel F] (dsp : RiscvDsp F) (math : AttitudeMath F)
    (ekf : QuaternionEkf F) : EkfCall F → QuaternionEkf F
  | .init params => ekf.init params
  | .reset => ekf.reset
  | .update g a => ekf.update dsp math g a

end RmTest.Algorithms

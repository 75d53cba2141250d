import Mathlib.Logic.Function.Basic
import RmTest.Library.FloatModel

/-! The Kalman filter of fixed size. The matrix routines of the vendor are a parameter;
each takes what is in its operands and in its destination, which it writes row by row.
Sizes are natural numbers, user callbacks are not set, and every matrix keeps its own
buffer. Next to the filter each phase gives the statuses of its matrix operations. -/
namespace RmTest.Algorithms

open FloatModel

/-- What a buffer holds, by index. -/
abbrev Buffer (F : Type) : Type := Nat → F

/-- The `riscv_dsp_mat_*_f32` routines: operands, destination, sizes. -/
structure RiscvDsp (F : Type) where
  add : Buffer F → Buffer F → Buffer F → Nat → Nat → Buffer F
  sub : Buffer F → Buffer F → Buffer F → Nat → Nat → Buffer F
  mul : Buffer F → Buffer F → Buffer F → Nat → Nat → Nat → Buffer F
  trans : Buffer F → Buffer F → Nat → Nat → Buffer F
  inv : Buffer F → Buffer F → Nat → Int32 × Buffer F

/-- `memcpy` of the first `count` entries. -/
def Buffer.copy {F : Type} (dst src : Buffer F) (count : Nat) : Buffer F :=
  fun i => if i < count then src i else dst i

structure Mat (F : Type) where
  numRows : Nat
  numCols : Nat
  data : Buffer F

namespace Mat

variable {F : Type}

/-- `init` with a buffer of zeros. -/
def zeros [Zero F] (rows cols : Nat) : Mat F where
  numRows := rows
  numCols := cols
  data _ := 0

/-- The same buffer under other sizes. -/
def resize (m : Mat F) (rows cols : Nat) : Mat F := { m with numRows := rows, numCols := cols }

/-- Whether `m` has these sizes. -/
def HasSize (m : Mat F) (rows cols : Nat) : Prop := m.numRows = rows ∧ m.numCols = cols

instance (m : Mat F) (rows cols : Nat) : Decidable (m.HasSize rows cols) :=
  inferInstanceAs (Decidable (_ ∧ _))

end Mat

namespace Kf

abbrev Status : Type := Int32

def kStatusOk : Status := 0
def kStatusSizeMismatch : Status := -3
def kStatusArgError : Status := -1
def kMaxElems : Nat := 64

variable {F : Type}

/-- `add` and `sub`, with the routine that they call. -/
def entrywise (routine : Buffer F → Buffer F → Buffer F → Nat → Nat → Buffer F) (a b out : Mat F) :
    Mat F × Status :=
  if ¬ a.HasSize b.numRows b.numCols ∨ ¬ out.HasSize a.numRows a.numCols then
    (out, kStatusSizeMismatch)
  else ({ out with data := routine a.data b.data out.data a.numRows a.numCols }, kStatusOk)

variable (dsp : RiscvDsp F)

def add (a b out : Mat F) : Mat F × Status := entrywise dsp.add a b out

def sub (a b out : Mat F) : Mat F × Status := entrywise dsp.sub a b out

def mul (a b out : Mat F) : Mat F × Status :=
  if a.numCols ≠ b.numRows ∨ ¬ out.HasSize a.numRows b.numCols then (out, kStatusSizeMismatch)
  else
    ({ out with data := dsp.mul a.data b.data out.data a.numRows a.numCols b.numCols }, kStatusOk)

def transpose (a out : Mat F) : Mat F × Status :=
  if ¬ out.HasSize a.numCols a.numRows then (out, kStatusSizeMismatch)
  else ({ out with data := dsp.trans a.data out.data a.numRows a.numCols }, kStatusOk)

def inverse [Zero F] (a out : Mat F) : Mat F × Status :=
  if a.numRows ≠ a.numCols ∨ ¬ out.HasSize a.numRows a.numCols then (out, kStatusSizeMismatch)
  else
    let elems := a.numRows * a.numCols
    if elems > kMaxElems then (out, kStatusArgError)
    else
      let srcCopy : Buffer F := Buffer.copy (fun _ => 0) a.data elems
      let (status, data) := dsp.inv srcCopy out.data a.numRows
      ({ out with data := data }, status)

end Kf

structure KalmanFilter (F : Type) where
  useAutoAdjustment : UInt8
  measurementValidNum : UInt8
  skipEq1 : UInt8
  skipEq2 : UInt8
  skipEq3 : UInt8
  skipEq4 : UInt8
  skipEq5 : UInt8
  matStatus : Int8
  filteredValue : Buffer F
  measuredVector : Buffer F
  controlVector : Buffer F
  xhat : Mat F
  xhatminus : Mat F
  u : Mat F
  z : Mat F
  p : Mat F
  pminus : Mat F
  f : Mat F
  ft : Mat F
  b : Mat F
  h : Mat F
  ht : Mat F
  q : Mat F
  r : Mat F
  k : Mat F
  s : Mat F
  tempMatrix : Mat F
  tempMatrix1 : Mat F
  tempVector : Mat F
  tempVector1 : Mat F
  stateMinVariance : Buffer F

namespace KalmanFilter

open Kf

variable {F : Type}

/-- A filter as its constructor leaves it, after `InitMatrices_`. -/
def constructed [Zero F] (XHAT U Z : Nat) : KalmanFilter F where
  useAutoAdjustment := 0
  measurementValidNum := 0
  skipEq1 := 0
  skipEq2 := 0
  skipEq3 := 0
  skipEq4 := 0
  skipEq5 := 0
  matStatus := 0
  filteredValue _ := 0
  measuredVector _ := 0
  controlVector _ := 0
  xhat := Mat.zeros XHAT 1
  xhatminus := Mat.zeros XHAT 1
  u := if U > 0 then Mat.zeros U 1 else Mat.zeros 0 0
  z := Mat.zeros Z 1
  p := Mat.zeros XHAT XHAT
  pminus := Mat.zeros XHAT XHAT
  f := Mat.zeros XHAT XHAT
  ft := Mat.zeros XHAT XHAT
  b := if U > 0 then Mat.zeros XHAT U else Mat.zeros 0 0
  h := Mat.zeros Z XHAT
  ht := Mat.zeros XHAT Z
  q := Mat.zeros XHAT XHAT
  r := Mat.zeros Z Z
  k := Mat.zeros XHAT Z
  s := Mat.zeros XHAT XHAT
  tempMatrix := Mat.zeros XHAT XHAT
  tempMatrix1 := Mat.zeros XHAT XHAT
  tempVector := Mat.zeros XHAT 1
  tempVector1 := Mat.zeros XHAT 1
  stateMinVariance _ := 0

/-- `mat_status_ = static_cast<int8_t>(status)`. -/
def setStatus (kf : KalmanFilter F) (status : Status) : KalmanFilter F :=
  { kf with matStatus := status.toInt8 }

/-- `Measure_`, for a filter with `U` controls and `Z` measurements. -/
def measure [Zero F] (U Z : Nat) (kf : KalmanFilter F) : KalmanFilter F :=
  let kf :=
    { kf with
      z := { kf.z with data := kf.z.data.copy kf.measuredVector Z }
      measuredVector := kf.measuredVector.copy (fun _ => 0) Z }
  if U > 0 then
    { kf with
      u := { kf.u with data := kf.u.data.copy kf.controlVector U }
      controlVector := kf.controlVector.copy (fun _ => 0) U }
  else kf

variable (dsp : RiscvDsp F)

def xhatMinusUpdate (XHAT U : Nat) (kf : KalmanFilter F) : KalmanFilter F × List Status :=
  if kf.skipEq1 ≠ 0 then (kf, [])
  else if U > 0 then
    let kf := { kf with tempVector := kf.tempVector.resize XHAT 1 }
    let carried := mul dsp kf.f kf.xhat kf.tempVector
    let kf := { kf with tempVector := carried.1 }.setStatus carried.2
    let kf := { kf with tempVector1 := kf.tempVector1.resize XHAT 1 }
    let controlled := mul dsp kf.b kf.u kf.tempVector1
    let kf := { kf with tempVector1 := controlled.1 }.setStatus controlled.2
    let sum := add dsp kf.tempVector kf.tempVector1 kf.xhatminus
    ({ kf with xhatminus := sum.1 }.setStatus sum.2, [carried.2, controlled.2, sum.2])
  else
    let carried := mul dsp kf.f kf.xhat kf.xhatminus
    ({ kf with xhatminus := carried.1 }.setStatus carried.2, [carried.2])

def pminusUpdate (kf : KalmanFilter F) : KalmanFilter F × List Status :=
  if kf.skipEq2 ≠ 0 then (kf, [])
  else
    let ft := transpose dsp kf.f kf.ft
    let kf := { kf with ft := ft.1 }.setStatus ft.2
    let fp := mul dsp kf.f kf.p kf.pminus
    let kf := { kf with pminus := fp.1 }.setStatus fp.2
    let kf := { kf with tempMatrix := kf.tempMatrix.resize kf.pminus.numRows kf.ft.numCols }
    let carried := mul dsp kf.pminus kf.ft kf.tempMatrix
    let kf := { kf with tempMatrix := carried.1 }.setStatus carried.2
    let sum := add dsp kf.tempMatrix kf.q kf.pminus
    ({ kf with pminus := sum.1 }.setStatus sum.2, [ft.2, fp.2, carried.2, sum.2])

/-- `SetK_` up to the sum that it inverts. -/
def setS (kf : KalmanFilter F) : KalmanFilter F × List Status :=
  let ht := transpose dsp kf.h kf.ht
  let kf := { kf with ht := ht.1 }.setStatus ht.2
  let kf := { kf with tempMatrix := kf.tempMatrix.resize kf.h.numRows kf.pminus.numCols }
  let hp := mul dsp kf.h kf.pminus kf.tempMatrix
  let kf := { kf with tempMatrix := hp.1 }.setStatus hp.2
  let kf := { kf with tempMatrix1 := kf.tempMatrix1.resize kf.tempMatrix.numRows kf.ht.numCols }
  let seen := mul dsp kf.tempMatrix kf.ht kf.tempMatrix1
  let kf := { kf with tempMatrix1 := seen.1 }.setStatus seen.2
  let kf := { kf with s := kf.s.resize kf.r.numRows kf.r.numCols }
  let sum := add dsp kf.tempMatrix1 kf.r kf.s
  ({ kf with s := sum.1 }.setStatus sum.2, [ht.2, hp.2, seen.2, sum.2])

/-- The rest of `SetK_`. -/
def setGain [Zero F] (kf : KalmanFilter F) : KalmanFilter F × List Status :=
  let inverted := inverse dsp kf.s kf.tempMatrix1
  let kf := { kf with tempMatrix1 := inverted.1 }.setStatus inverted.2
  let kf := { kf with tempMatrix := kf.tempMatrix.resize kf.pminus.numRows kf.ht.numCols }
  let ph := mul dsp kf.pminus kf.ht kf.tempMatrix
  let kf := { kf with tempMatrix := ph.1 }.setStatus ph.2
  let gain := mul dsp kf.tempMatrix kf.tempMatrix1 kf.k
  ({ kf with k := gain.1 }.setStatus gain.2, [inverted.2, ph.2, gain.2])

def setK [Zero F] (kf : KalmanFilter F) : KalmanFilter F × List Status :=
  if kf.skipEq3 ≠ 0 then (kf, [])
  else
    let first := kf.setS dsp
    let second := first.1.setGain dsp
    (second.1, first.2 ++ second.2)

def xhatUpdate (kf : KalmanFilter F) : KalmanFilter F × List Status :=
  if kf.skipEq4 ≠ 0 then (kf, [])
  else
    let kf := { kf with tempVector := kf.tempVector.resize kf.h.numRows 1 }
    let expected := mul dsp kf.h kf.xhatminus kf.tempVector
    let kf := { kf with tempVector := expected.1 }.setStatus expected.2
    let kf := { kf with tempVector1 := kf.tempVector1.resize kf.z.numRows 1 }
    let residual := sub dsp kf.z kf.tempVector kf.tempVector1
    let kf := { kf with tempVector1 := residual.1 }.setStatus residual.2
    let kf := { kf with tempVector := kf.tempVector.resize kf.k.numRows 1 }
    let correction := mul dsp kf.k kf.tempVector1 kf.tempVector
    let kf := { kf with tempVector := correction.1 }.setStatus correction.2
    let sum := add dsp kf.xhatminus kf.tempVector kf.xhat
    ({ kf with xhat := sum.1 }.setStatus sum.2,
      [expected.2, residual.2, correction.2, sum.2])

def pUpdate (kf : KalmanFilter F) : KalmanFilter F × List Status :=
  if kf.skipEq5 ≠ 0 then (kf, [])
  else
    let kf := { kf with tempMatrix := kf.tempMatrix.resize kf.k.numRows kf.h.numCols }
    let kf :=
      { kf with tempMatrix1 := kf.tempMatrix1.resize kf.tempMatrix.numRows kf.pminus.numCols }
    let kh := mul dsp kf.k kf.h kf.tempMatrix
    let kf := { kf with tempMatrix := kh.1 }.setStatus kh.2
    let khp := mul dsp kf.tempMatrix kf.pminus kf.tempMatrix1
    let kf := { kf with tempMatrix1 := khp.1 }.setStatus khp.2
    let difference := sub dsp kf.pminus kf.tempMatrix1 kf.p
    ({ kf with p := difference.1 }.setStatus difference.2, [kh.2, khp.2, difference.2])

/-- The loop over the diagonal at the end of `Update`. -/
def floorVariance [FloatModel F] (XHAT : Nat) (p stateMinVariance : Buffer F) : Buffer F :=
  (List.range XHAT).foldl
    (fun p i =>
      if lt (p (i * XHAT + i)) (stateMinVariance i) then
        Function.update p (i * XHAT + i) (stateMinVariance i)
      else p) p

/-- Whether `Update` takes the measurement into account. -/
def takesMeasurement (kf : KalmanFilter F) : Bool :=
  kf.measurementValidNum != 0 || kf.useAutoAdjustment == 0

/-- The two ways through the middle of `Update`. -/
def correct [Zero F] (XHAT : Nat) (kf : KalmanFilter F) : KalmanFilter F × List Status :=
  if kf.takesMeasurement then
    let gained := kf.setK dsp
    let moved := gained.1.xhatUpdate dsp
    let updated := moved.1.pUpdate dsp
    (updated.1, gained.2 ++ (moved.2 ++ updated.2))
  else
    ({ kf with
        xhat := { kf.xhat with data := kf.xhat.data.copy kf.xhatminus.data XHAT }
        p := { kf.p with data := kf.p.data.copy kf.pminus.data (XHAT * XHAT) } }, [])

/-- The end of `Update`. -/
def finish [FloatModel F] (XHAT : Nat) (kf : KalmanFilter F) : KalmanFilter F :=
  { kf with
    p := { kf.p with data := floorVariance XHAT kf.p.data kf.stateMinVariance }
    filteredValue := kf.filteredValue.copy kf.xhat.data XHAT }

def update [FloatModel F] (XHAT U Z : Nat) (kf : KalmanFilter F) : KalmanFilter F × List Status :=
  let predicted := (kf.measure U Z).xhatMinusUpdate dsp XHAT U
  let spread := predicted.1.pminusUpdate dsp
  let corrected := spread.1.correct dsp XHAT
  (corrected.1.finish XHAT, predicted.2 ++ (spread.2 ++ corrected.2))

end KalmanFilter

end RmTest.Algorithms

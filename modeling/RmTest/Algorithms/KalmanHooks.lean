import RmTest.Algorithms.KalmanFilter

/-! The rest of the Kalman filter: `Reset`, and `Update` with the user functions. A user
function may also change what the filter is part of, which is the type `σ`. -/
namespace RmTest.Algorithms.KalmanFilter

open Kf

variable {F : Type}

section Reset

variable [Zero F]

/-- `memset` of the whole array behind a matrix. -/
def clear (m : Mat F) : Mat F := { m with data := fun _ => 0 }

/-- `Reset`. The status, the auto adjustment and the sizes of the work space stay. -/
def resetFilter (XHAT U Z : Nat) (kf : KalmanFilter F) : KalmanFilter F :=
  { kf with
    skipEq1 := 0
    skipEq2 := 0
    skipEq3 := 0
    skipEq4 := 0
    skipEq5 := 0
    filteredValue _ := 0
    measuredVector _ := 0
    controlVector := if U > 0 then fun _ => 0 else kf.controlVector
    xhat := clear kf.xhat
    xhatminus := clear kf.xhatminus
    u := if U > 0 then clear kf.u else kf.u
    z := (clear kf.z).resize Z 1
    p := clear kf.p
    pminus := clear kf.pminus
    f := clear kf.f
    ft := clear kf.ft
    b := if U > 0 then clear kf.b else kf.b
    h := (clear kf.h).resize Z XHAT
    ht := (clear kf.ht).resize XHAT Z
    q := clear kf.q
    r := (clear kf.r).resize Z Z
    k := (clear kf.k).resize XHAT Z
    stateMinVariance _ := 0
    s := clear kf.s
    tempMatrix := clear kf.tempMatrix
    tempMatrix1 := clear kf.tempMatrix1
    tempVector := clear kf.tempVector
    tempVector1 := clear kf.tempVector1 }

end Reset

/-- `user_func0_` to `user_func6_`. -/
structure UserFunctions (σ F : Type) where
  userFunc0 : Option (σ × KalmanFilter F → σ × KalmanFilter F)
  userFunc1 : Option (σ × KalmanFilter F → σ × KalmanFilter F)
  userFunc2 : Option (σ × KalmanFilter F → σ × KalmanFilter F)
  userFunc3 : Option (σ × KalmanFilter F → σ × KalmanFilter F)
  userFunc4 : Option (σ × KalmanFilter F → σ × KalmanFilter F)
  userFunc5 : Option (σ × KalmanFilter F → σ × KalmanFilter F)
  userFunc6 : Option (σ × KalmanFilter F → σ × KalmanFilter F)

variable {σ : Type} [FloatModel F] (dsp : RiscvDsp F) (user : UserFunctions σ F)

/-- The first half of `Update`, up to where the measurement comes in. -/
def predictHooked (XHAT U Z : Nat) (state : σ) (kf : KalmanFilter F) : σ × KalmanFilter F :=
  let (state, kf) := user.userFunc0.getD id (state, kf.measure U Z)
  let (state, kf) := user.userFunc1.getD id (state, (kf.xhatMinusUpdate dsp XHAT U).1)
  user.userFunc2.getD id (state, (kf.pminusUpdate dsp).1)

def correctHooked (XHAT : Nat) (state : σ) (kf : KalmanFilter F) : σ × KalmanFilter F :=
  if kf.takesMeasurement then
    let (state, kf) := user.userFunc3.getD id (state, (kf.setK dsp).1)
    let (state, kf) := user.userFunc4.getD id (state, (kf.xhatUpdate dsp).1)
    (state, (kf.pUpdate dsp).1)
  else
    (state,
      { kf with
        xhat := { kf.xhat with data := kf.xhat.data.copy kf.xhatminus.data XHAT }
        p := { kf.p with data := kf.p.data.copy kf.pminus.data (XHAT * XHAT) } })

/-- `Update` with user functions. -/
def updateHooked (XHAT U Z : Nat) (state : σ) (kf : KalmanFilter F) : σ × KalmanFilter F :=
  let (state, kf) := predictHooked dsp user XHAT U Z state kf
  let (state, kf) := correctHooked dsp user XHAT state kf
  let (state, kf) := user.userFunc5.getD id (state, kf)
  user.userFunc6.getD id (state, kf.finish XHAT)

/-- A filter without user functions. -/
def UserFunctions.none : UserFunctions σ F where
  userFunc0 := .none
  userFunc1 := .none
  userFunc2 := .none
  userFunc3 := .none
  userFunc4 := .none
  userFunc5 := .none
  userFunc6 := .none

/-- Without user functions both versions of `Update` are the same. -/
theorem updateHooked_none (XHAT U Z : Nat) (state : σ) (kf : KalmanFilter F) :
    updateHooked dsp .none XHAT U Z state kf = (state, (kf.update dsp XHAT U Z).1) := by
  have hCorrect (kf : KalmanFilter F) :
      correctHooked dsp .none XHAT state kf = (state, (kf.correct dsp XHAT).1) := by
    cases hTakes : kf.takesMeasurement <;> simp only [correctHooked, correct, hTakes] <;> rfl
  have hPredict : predictHooked dsp .none XHAT U Z state kf =
      (state, (((kf.measure U Z).xhatMinusUpdate dsp XHAT U).1.pminusUpdate dsp).1) := rfl
  simp only [updateHooked, hPredict, hCorrect]
  rfl

end RmTest.Algorithms.KalmanFilter

import RmTest.Library.FloatModel

/-! The window `alg::OrdinaryLeastSquares` of at most sixteen samples, to which a line is
fitted. Each of the three ways to take a sample moves the window on and computes the
four sums; they differ in what they make of them. -/
namespace RmTest.Algorithms

open FloatModel

def kMaxOrder : Nat := 16

/-- `init` sets no order beyond the arrays. -/
structure OrdinaryLeastSquares (F : Type) where
  order : Nat
  count : Nat
  x : Vector F kMaxOrder
  y : Vector F kMaxOrder
  k : F
  b : F
  standardDeviation : F
  t : Vector F 4
  order_le : order ≤ kMaxOrder

variable {F : Type} [FloatModel F]

/-- The element of an array. -/
def cell (values : Vector F kMaxOrder) (i : Nat) : F := values.toArray.getD i 0

namespace OrdinaryLeastSquares

/-- `init` leaves nothing of what was there before. -/
def init (order : UInt16) : OrdinaryLeastSquares F where
  order := min order.toNat kMaxOrder
  count := 0
  x := Vector.replicate kMaxOrder 0
  y := Vector.replicate kMaxOrder 0
  k := 0
  b := 0
  standardDeviation := 0
  t := #v[0, 0, 0, 0]
  order_le := Nat.min_le_right _ _

/-- The loop that moves the cells down by one, the abscissas by `temp` as well. -/
def moveDown (order : Nat) (temp : F) (x y : Vector F kMaxOrder) :
    Vector F kMaxOrder × Vector F kMaxOrder :=
  (List.range (order - 1)).foldl
    (fun cells i =>
      (cells.1.setIfInBounds i (cell cells.1 (i + 1) - temp),
        cells.2.setIfInBounds i (cell cells.2 (i + 1))))
    (x, y)

/-- The indices of the cells in use. -/
def inUse (ols : OrdinaryLeastSquares F) : List Nat :=
  List.range' (ols.order - ols.count) ols.count

/-- The loop that adds up the sums. -/
def addUp (ols : OrdinaryLeastSquares F) : Vector F 4 :=
  ols.inUse.foldl
    (fun t i =>
      #v[t[0] + cell ols.x i * cell ols.x i, t[1] + cell ols.x i,
        t[2] + cell ols.x i * cell ols.y i, t[3] + cell ols.y i])
    #v[0, 0, 0, 0]

/-- The first half of each way to take a sample. -/
def takeSample (ols : OrdinaryLeastSquares F) (deltax ySample : F) : OrdinaryLeastSquares F :=
  let cells := moveDown ols.order (cell ols.x 1) ols.x ols.y
  let ols :=
    { ols with
      x := cells.1.setIfInBounds (ols.order - 1) (cell cells.1 (ols.order - 2) + deltax)
      y := cells.2.setIfInBounds (ols.order - 1) ySample
      count := if ols.count < ols.order then ols.count + 1 else ols.count }
  { ols with t := ols.addUp }

def denom (ols : OrdinaryLeastSquares F) : F := ols.t[0] * lit ols.order - ols.t[1] * ols.t[1]

def fittedK (ols : OrdinaryLeastSquares F) : F :=
  (ols.t[2] * lit ols.order - ols.t[1] * ols.t[3]) / ols.denom

def fittedB (ols : OrdinaryLeastSquares F) : F :=
  (ols.t[0] * ols.t[3] - ols.t[1] * ols.t[2]) / ols.denom

/-- The loop over the residuals of the stored line, divided by the order. -/
def deviation (ols : OrdinaryLeastSquares F) : F :=
  ols.inUse.foldl (fun sum i => sum + fabs (ols.k * cell ols.x i + ols.b - cell ols.y i)) 0 /
    lit ols.order

/-- The deviation is computed with the line that is stored by then. -/
def storeDeviation (ols : OrdinaryLeastSquares F) : OrdinaryLeastSquares F :=
  { ols with standardDeviation := ols.deviation }

def update (ols : OrdinaryLeastSquares F) (deltax ySample : F) : OrdinaryLeastSquares F :=
  if ols.order < 2 then ols
  else
    let ols := ols.takeSample deltax ySample
    if eq ols.denom 0 then { ols with k := 0, b := 0 }
    else storeDeviation { ols with k := ols.fittedK, b := ols.fittedB }

/-- `derivative`, with the slope it returns. It stores no intercept. -/
def derivative (ols : OrdinaryLeastSquares F) (deltax ySample : F) : OrdinaryLeastSquares F × F :=
  if ols.order < 2 then (ols, 0)
  else
    let ols := ols.takeSample deltax ySample
    if eq ols.denom 0 then ({ ols with k := 0 }, 0)
    else
      let ols := storeDeviation { ols with k := ols.fittedK }
      (ols, ols.k)

/-- `smooth`, with the value of the line at the last sample. -/
def smooth (ols : OrdinaryLeastSquares F) (deltax ySample : F) : OrdinaryLeastSquares F × F :=
  if ols.order < 2 then (ols, 0)
  else
    let ols := ols.takeSample deltax ySample
    if eq ols.denom 0 then ({ ols with k := 0, b := 0 }, 0)
    else
      let ols := storeDeviation { ols with k := ols.fittedK, b := ols.fittedB }
      (ols, ols.k * cell ols.x (ols.order - 1) + ols.b)

def lastDerivative (ols : OrdinaryLeastSquares F) : F := ols.k

def lastSmooth (ols : OrdinaryLeastSquares F) : F :=
  if ols.order ≥ 2 then ols.k * cell ols.x (ols.order - 1) + ols.b else 0

end OrdinaryLeastSquares

/-- `Get_OLS_Derivative`, where the pointer may be null. -/
def getOlsDerivative (ols : Option (OrdinaryLeastSquares F)) : F :=
  match ols with
  | none => 0
  | some ols => ols.k

/-- `Get_OLS_Smooth`, where the pointer may be null. -/
def getOlsSmooth (ols : Option (OrdinaryLeastSquares F)) : F :=
  match ols with
  | none => 0
  | some ols =>
      if ols.order < 2 then 0 else ols.k * cell ols.x (ols.order - 1) + ols.b

end RmTest.Algorithms

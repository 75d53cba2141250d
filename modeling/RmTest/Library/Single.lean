import Mathlib.Data.Int.Log
import RmTest.Library.FloatModel

/-! The IEEE 754 singles, by their bits, with signed zeros, infinities and the payloads of
NaNs. Arithmetic is that of the numbers that the operands stand for, rounded to nearest,
ties to even. -/

structure Single where
  bits : UInt32
  deriving DecidableEq

namespace Single

/-- The bits without the sign. -/
def magnitude (x : Single) : Nat := x.bits.toNat % 2 ^ 31

def negative (x : Single) : Bool := decide (2 ^ 31 ≤ x.bits.toNat)

def isNan (x : Single) : Bool := decide (0x7f800000 < x.magnitude)

/-- An integer that grows with the value, the same for both zeros. -/
def rank (x : Single) : Int := if x.negative then -x.magnitude else x.magnitude

/-- A comparison, which is false of a NaN. -/
def compare (f : Int → Int → Bool) (a b : Single) : Bool :=
  !a.isNan && !b.isNan && f a.rank b.rank

/-- The number that a magnitude stands for, as if there were exponents without end. -/
def valueOf (n : Nat) : ℚ :=
  if n < 2 ^ 23 then (n : ℚ) / 2 ^ 149
  else ((2 ^ 23 + n % 2 ^ 23 : Nat) : ℚ) * 2 ^ (n / 2 ^ 23) / 2 ^ 150

/-- What a single stands for. -/
inductive Reading where
  | num (value : ℚ)
  | infinite (negative : Bool)
  | nan
  deriving DecidableEq

def read (x : Single) : Reading :=
  if x.isNan then .nan
  else if x.magnitude = 0x7f800000 then .infinite x.negative
  else .num (if x.negative then -valueOf x.magnitude else valueOf x.magnitude)

/-- The nearest integer, the even one of two. -/
def roundHalfEven (q : ℚ) : Nat :=
  let floor := q.floor.toNat
  let rest := q - floor
  if rest < 1 / 2 ∨ rest = 1 / 2 ∧ floor % 2 = 0 then floor else floor + 1

/-- The exponent of the last place but 23, which is not below that of the subnormals. -/
def exponentOf (q : ℚ) : Int := max (Int.log 2 q) (-126)

/-- The magnitude nearest to a number that is not negative, as if there were exponents
without end. A fraction that is rounded up to the next power of two raises the exponent. -/
def nearestMagnitude (q : ℚ) : Nat :=
  if q = 0 then 0
  else (exponentOf q + 126).toNat * 2 ^ 23 + roundHalfEven (q / 2 ^ exponentOf q * 2 ^ 23)

/-- The single of a sign and a magnitude, where a large one becomes an infinity. -/
def pack (negative : Bool) (magnitude : Nat) : Single :=
  ⟨UInt32.ofNat (min magnitude 0x7f800000 + if negative then 2 ^ 31 else 0)⟩

def nan : Single := ⟨0x7fc00000⟩

def infinity (negative : Bool) : Single := pack negative 0x7f800000

def zero (negative : Bool) : Single := pack negative 0

/-- The nearest single to a rational. -/
def round (q : ℚ) : Single := pack (decide (q < 0)) (nearestMagnitude |q|)

/-- The sum is taken modulo `2 ^ 32`, so that it changes the sign bit only. -/
def neg (a : Single) : Single := ⟨a.bits + 0x80000000⟩

def add (a b : Single) : Single :=
  match a.read, b.read with
  | .num x, .num y => if x + y = 0 then zero (a.negative && b.negative) else round (x + y)
  | .infinite s, .infinite t => if s = t then infinity s else nan
  | .infinite s, .num _ => infinity s
  | .num _, .infinite s => infinity s
  | _, _ => nan

def mul (a b : Single) : Single :=
  let sign := a.negative ^^ b.negative
  match a.read, b.read with
  | .num x, .num y => pack sign (nearestMagnitude |x * y|)
  | .infinite _, .infinite _ => infinity sign
  | .infinite _, .num y => if y = 0 then nan else infinity sign
  | .num x, .infinite _ => if x = 0 then nan else infinity sign
  | _, _ => nan

def div (a b : Single) : Single :=
  let sign := a.negative ^^ b.negative
  match a.read, b.read with
  | .num x, .num y =>
      if y = 0 then if x = 0 then nan else infinity sign
      else pack sign (nearestMagnitude |x / y|)
  | .infinite _, .num _ => infinity sign
  | .num _, .infinite _ => zero sign
  | _, _ => nan

instance : FloatBits Single where
  zero := ⟨0⟩
  add := add
  sub a b := add a (neg b)
  mul := mul
  div := div
  neg := neg
  lit := round
  lt := compare fun a b => decide (a < b)
  eq := compare fun a b => decide (a = b)
  trunc a :=
    match a.read with
    | .num value => FloatModel.trunc value
    | _ => 0
  ofBits := Single.mk
  ofText | .finite value => round value
         | .infinity negative => infinity negative
         | .nan => nan
  toBits := bits
  toBits_ofBits _ := rfl
  ofBits_toBits _ := rfl

theorem trunc_num {a : Single} {x : ℚ} (num : a.read = .num x) :
    FloatModel.trunc a = FloatModel.trunc x := by
  show (match a.read with | .num value => FloatModel.trunc value | _ => 0) = _
  rw [num]

theorem trunc_nan {a : Single} (nan : a.read = .nan) : FloatModel.trunc a = 0 := by
  show (match a.read with | .num value => FloatModel.trunc value | _ => 0) = _
  rw [nan]

end Single

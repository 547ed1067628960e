import Wireframe.Double.Basic

/-! # Arithmetic on doubles

Each operation is exact on the rational values of its arguments and rounds once. The cases with an
infinity or with not-a-number follow IEEE 754; a comparison with not-a-number is false.
-/

namespace Wireframe.Double

/-- The sum. Two zeros of one sign keep the sign, any other exact zero is positive. -/
def add (x y : Double) : Double :=
  match x, y with
  | .nan, _ => .nan
  | _, .nan => .nan
  | .infinite s, .infinite t => if s = t then .infinite s else .nan
  | .infinite s, _ => .infinite s
  | _, .infinite t => .infinite t
  | .finite s .., .finite t .. =>
      match x.toRat?, y.toRat? with
      | some p, some q => ofRat (p + q) (s && t)
      | _, _ => .nan

def sub (x y : Double) : Double := add x (-y)

def mul (x y : Double) : Double :=
  match x, y with
  | .nan, _ => .nan
  | _, .nan => .nan
  | .infinite s, y => if y.isZero then .nan else .infinite (s != y.isNegative)
  | x, .infinite t => if x.isZero then .nan else .infinite (x.isNegative != t)
  | .finite s .., .finite t .. =>
      match x.toRat?, y.toRat? with
      | some p, some q => ofRat (p * q) (s != t)
      | _, _ => .nan

/-- The quotient. A nonzero number over zero is infinite, zero over zero is not a number. -/
def div (x y : Double) : Double :=
  match x, y with
  | .nan, _ => .nan
  | _, .nan => .nan
  | .infinite _, .infinite _ => .nan
  | .infinite s, y => .infinite (s != y.isNegative)
  | x, .infinite t => zero (x.isNegative != t)
  | .finite s .., .finite t .. =>
      match x.toRat?, y.toRat? with
      | some p, some q =>
          if q = 0 then (if p = 0 then .nan else .infinite (s != t)) else ofRat (p / q) (s != t)
      | _, _ => .nan

instance : Add Double := ⟨add⟩
instance : Sub Double := ⟨sub⟩
instance : Mul Double := ⟨mul⟩
instance : Div Double := ⟨div⟩

/-- The order of the values: zeros of both signs are equal, not-a-number is unordered. -/
def compare? (x y : Double) : Option Ordering :=
  match x, y with
  | .nan, _ => none
  | _, .nan => none
  | .infinite s, .infinite t => some (compare t s)
  | .infinite s, _ => some (if s then .lt else .gt)
  | _, .infinite t => some (if t then .gt else .lt)
  | .finite .., .finite .. =>
      match x.toRat?, y.toRat? with
      | some p, some q => some (if p < q then .lt else if p = q then .eq else .gt)
      | _, _ => none

def lt (x y : Double) : Bool := compare? x y == some .lt

def le (x y : Double) : Bool := compare? x y == some .lt || compare? x y == some .eq

def abs : Double → Double
  | .finite _ mantissa exponent stored => .finite false mantissa exponent stored
  | .infinite _ => .infinite false
  | .nan => .nan

/-- The square root of a rational, rounded once. The root is taken in units four times finer than
the last place of the result, and a remainder is marked by half a unit more, so that the final
rounding sees on which side of a tie the exact root lies. -/
def sqrtRat (q : Rat) : Double :=
  if q.num ≤ 0 then zero false
  else
    let unit : Int := (floorLog2 q.num.natAbs q.den) / 2 - 56
    let scaled : Rat := q / (twoPow unit * twoPow unit)
    let root := Nat.sqrt scaled.floor.toNat
    let exact : Bool := ((root * root : Nat) : Rat) = scaled
    ofRat (mkRat (2 * root + if exact then 0 else 1) 2 * twoPow unit)

/-- The length of the vector `(x, y)`; along an axis it is the magnitude of the other component. -/
def hypot (x y : Double) : Double :=
  match x, y with
  | .infinite _, _ => .infinite false
  | _, .infinite _ => .infinite false
  | .nan, _ => .nan
  | _, .nan => .nan
  | .finite .., .finite .. =>
      if y.isZero then x.abs
      else if x.isZero then y.abs
      else
        match x.toRat?, y.toRat? with
        | some p, some q => sqrtRat (p * p + q * q)
        | _, _ => .nan

example : ofRat (1 / 10) + ofRat (2 / 10) ≠ ofRat (3 / 10) := by decide +kernel
example : add (zero true) (zero true) = zero true := by decide +kernel
example : (1 : Double) / zero true = .infinite true := by decide +kernel
example : lt .nan 1 = false ∧ compare? (zero true) (zero false) = some .eq := by decide +kernel

end Wireframe.Double

import Wireframe.Number

/-! # Scalars and points

Canvas geometry is written once for every kind of coordinate: for the numbers of a document, and
for exact arithmetic where a law is about lengths and not about rounding. A `Scalar` has the four
operations, an order test, the length of a vector, and whole numbers. An operation may have no
result, and says why.
-/

namespace Wireframe

inductive ArithmeticError where
  | divisionByZero
  /-- An integer that meets a double lies beyond the range of the doubles. -/
  | beyondDoubles
  deriving DecidableEq

abbrev Calculation (α : Type) := Except ArithmeticError α

/-- The arithmetic that canvas geometry needs. -/
class Scalar (α : Type) where
  whole : Int → α
  /-- A whole number as a coordinate of a placed screen. -/
  coordinate : Int → α
  add : α → α → Calculation α
  sub : α → α → Calculation α
  mul : α → α → Calculation α
  div : α → α → Calculation α
  lt : α → α → Bool
  length : α → α → Calculation α
  isWritable : α → Bool

namespace Scalar

variable {α : Type} [Scalar α]

def half (x : α) : Calculation α := div x (whole 2)

def isFarther (x y : α) : Calculation Bool := do
  return lt (← magnitude y) (← magnitude x)
where
  magnitude (x : α) : Calculation α := if lt x (whole 0) then sub (whole 0) x else .ok x

end Scalar

namespace Number

/-- Whether two numbers combine: integers always do, and otherwise both need a double near them. -/
def meets : Number → Number → Bool
  | .int _, .int _ => true
  | x, y => x.inRange && y.inRange

def combine (f : Number → Number → Number) (x y : Number) : Calculation Number :=
  if x.meets y then .ok (f x y) else .error .beyondDoubles

/-- The quotient; that of two integers may be too large for a double. -/
def quotient (x y : Number) : Calculation Number :=
  if !x.meets y then .error .beyondDoubles
  else if y.isZero then .error .divisionByZero
  else
    match x, y with
    | .int m, .int n =>
        let result := Number.int m / Number.int n
        if result.toDouble.isFinite then .ok result else .error .beyondDoubles
    | x, y => .ok (x / y)

end Number

/-- Coordinates of documents: whole numbers stay exact, placed coordinates are doubles. -/
instance : Scalar Number where
  whole := .int
  coordinate n := .double (Double.ofInt n)
  add := Number.combine (· + ·)
  sub := Number.combine (· - ·)
  mul := Number.combine (· * ·)
  div := Number.quotient
  lt := Number.lt
  length x y :=
    if x.inRange && y.inRange then .ok (.double (Double.hypot x.toDouble y.toDouble))
    else .error .beyondDoubles
  isWritable := Number.inRange

structure Point (α : Type) where
  x : α
  y : α
  deriving DecidableEq

end Wireframe

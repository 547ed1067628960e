import Wireframe.Double.Style
import Wireframe.Double.Arithmetic

/-! # Numbers

A number of a document is an integer of any size or a double. The two stay apart, since they are
written differently, but they compare and combine by value: integers exactly, and as doubles once a
double takes part.
-/

namespace Wireframe

inductive Number where
  | int (n : Int)
  | double (x : Double)
  deriving DecidableEq

namespace Number

instance : Inhabited Number := ⟨.int 0⟩

instance (n : Nat) : OfNat Number n := ⟨.int n⟩

def toDouble : Number → Double
  | .int n => Double.ofInt n
  | .double x => x

/-- The text of a number: an integer in full, however many digits that takes, a double with the
fewest digits that read back. -/
def fullText : Number → String
  | .int n => toString n
  | .double x => x.text

def isZero : Number → Bool
  | .int n => n == 0
  | .double x => x.isZero

def isNaN : Number → Bool
  | .int _ => false
  | .double x => x.isNaN

/-- The order of the exact values; not-a-number is unordered. -/
def compare? : Number → Number → Option Ordering
  | .int m, .int n => some (compare m n)
  | .double x, .double y => x.compare? y
  | .int m, .double y => against m y
  | .double x, .int n => (against n x).map Ordering.swap
where
  against (m : Int) : Double → Option Ordering
    | .nan => none
    | .infinite negative => some (if negative then .gt else .lt)
    | y => y.toRat?.map fun q => if (m : Rat) < q then .lt else if (m : Rat) = q then .eq else .gt

def lt (x y : Number) : Bool := compare? x y == some .lt

/-- Equality of values: `1` and `1.0` are the same, not-a-number is not even itself. -/
def same (x y : Number) : Bool := compare? x y == some .eq

def add : Number → Number → Number
  | .int m, .int n => .int (m + n)
  | x, y => .double (x.toDouble + y.toDouble)

def sub : Number → Number → Number
  | .int m, .int n => .int (m - n)
  | x, y => .double (x.toDouble - y.toDouble)

def mul : Number → Number → Number
  | .int m, .int n => .int (m * n)
  | x, y => .double (x.toDouble * y.toDouble)

/-- The quotient is always a double; that of two integers is rounded once. -/
def div : Number → Number → Number
  | .int m, .int n =>
      if n = 0 then .double (Double.ofInt m / Double.ofInt n)
      else .double (Double.ofRat ((m : Rat) / n) (decide (n < 0)))
  | x, y => .double (x.toDouble / y.toDouble)

instance : Add Number := ⟨add⟩
instance : Sub Number := ⟨sub⟩
instance : Mul Number := ⟨mul⟩
instance : Div Number := ⟨div⟩

def inRange : Number → Bool
  | .int n => (Double.ofInt n).isFinite
  | .double _ => true

def compact : Number → String
  | .int n => toString n
  | .double x =>
      match x.toInt? with
      | some n => toString n
      | none => x.text

def compact? (x : Number) : Option String := if x.inRange then some x.compact else none

example : same (.int 1) (.double 1) = true := by decide +kernel
example : same (.int (10 ^ 16)) (.double (Double.ofDecimal false ⟨1, 16⟩)) = true := by
  decide +kernel
example : (Number.double (Double.ofDecimal true ⟨0, 0⟩)).compact = "0" := by decide +kernel

end Number

end Wireframe

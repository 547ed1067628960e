/-! # Double-precision numbers as exact data

A `Double` is one of the values of the IEEE 754 binary64 format, held as sign, mantissa and
exponent instead of as machine bits. Equality of values is decidable, the exact rational that a
finite value stands for is a function (`Double.toRat?`), and every operation is rational arithmetic
followed by one rounding (`Double.ofRat`), so a law about numbers is a law about rationals.
-/

namespace Wireframe

namespace Double

/-- A mantissa and an exponent in the one form the format stores: 53 bits at most, and fewer than
53 only at the smallest exponent. -/
def Stored (mantissa : Nat) (exponent : Int) : Prop :=
  mantissa < Nat.pow 2 53 ∧ -1074 ≤ exponent ∧ exponent ≤ 971
    ∧ (Nat.pow 2 52 ≤ mantissa ∨ exponent = -1074)

instance (mantissa : Nat) (exponent : Int) : Decidable (Stored mantissa exponent) :=
  inferInstanceAs (Decidable (_ ∧ _ ∧ _ ∧ _))

end Double

/-- A binary64 number: `± mantissa · 2 ^ exponent`, an infinity, or not a number. -/
inductive Double where
  | finite (negative : Bool) (mantissa : Nat) (exponent : Int)
      (stored : Double.Stored mantissa exponent)
  | infinite (negative : Bool)
  | nan
  deriving DecidableEq

namespace Double

def zero (negative : Bool) : Double := .finite negative 0 (-1074) (by decide)

instance : Inhabited Double := ⟨zero false⟩

def twoPow (exponent : Int) : Rat :=
  if 0 ≤ exponent then (Nat.pow 2 exponent.toNat : Rat) else mkRat 1 (Nat.pow 2 (-exponent).toNat)

def toRat? : Double → Option Rat
  | .finite negative mantissa exponent _ =>
      let magnitude := (mantissa : Rat) * twoPow exponent
      some (if negative then -magnitude else magnitude)
  | .infinite _ => none
  | .nan => none

def isFinite : Double → Bool
  | .finite .. => true
  | _ => false

def isNaN : Double → Bool
  | .nan => true
  | _ => false

def isNegative : Double → Bool
  | .finite negative .. => negative
  | .infinite negative => negative
  | .nan => false

def isZero : Double → Bool
  | .finite _ mantissa _ _ => mantissa == 0
  | _ => false

def neg : Double → Double
  | .finite negative mantissa exponent stored => .finite (!negative) mantissa exponent stored
  | .infinite negative => .infinite (!negative)
  | .nan => .nan

instance : Neg Double := ⟨neg⟩

/-- The integer part of a finite number: the fraction is dropped, toward zero. -/
def truncate? : Double → Option Int
  | .finite negative mantissa exponent _ =>
      let magnitude : Nat :=
        if 0 ≤ exponent then mantissa * Nat.pow 2 exponent.toNat
        else mantissa / Nat.pow 2 (-exponent).toNat
      some (if negative then -(magnitude : Int) else magnitude)
  | _ => none

def toInt? (x : Double) : Option Int := do
  let n ← x.truncate?
  let exact ← x.toRat?
  if exact = (n : Rat) then some n else none

theorem toRat?_isSome (x : Double) : x.toRat?.isSome = x.isFinite := by
  cases x <;> rfl

end Double

/-! ## Rounding

`Double.ofRat` gives the nearest value, a tie going to the even mantissa. It is the only place where
precision is lost; sums, products, quotients, lengths and decimal texts all end in it. -/

/-- The integer nearest to `n / d`; halfway between two, the even one. -/
def divNearest (n d : Nat) : Nat :=
  let quotient := n / d
  let rest := n % d
  if 2 * rest < d then quotient
  else if d < 2 * rest then quotient + 1
  else quotient + quotient % 2

namespace Double

/-- The number `± mantissa · 2 ^ exponent`, or an infinity where the exponent is too large. -/
def pack (negative : Bool) (mantissa : Nat) (exponent : Int) : Double :=
  if stored : Stored mantissa exponent then .finite negative mantissa exponent stored
  else .infinite negative

/-- The exponent `e` with `2 ^ e ≤ n / d < 2 ^ (e + 1)`, for positive `n` and `d`. -/
def floorLog2 (n d : Nat) : Int :=
  let guess : Int := (n.log2 : Int) - d.log2
  let reaches : Bool :=
    if 0 ≤ guess then d * Nat.pow 2 guess.toNat ≤ n else d ≤ n * Nat.pow 2 (-guess).toNat
  if reaches then guess else guess - 1

def unitsNearest (n d : Nat) (exponent : Int) : Nat :=
  if 0 ≤ exponent then divNearest n (d * Nat.pow 2 exponent.toNat)
  else divNearest (n * Nat.pow 2 (-exponent).toNat) d

def ofQuotient (negative : Bool) (n d : Nat) : Double :=
  if n = 0 then zero negative
  else
    let exponent := max (-1074) (floorLog2 n d - 52)
    let mantissa := unitsNearest n d exponent
    if mantissa = Nat.pow 2 53 then pack negative (Nat.pow 2 52) (exponent + 1)
    else pack negative mantissa exponent

def ofRat (q : Rat) (negativeZero : Bool := false) : Double :=
  ofQuotient (if q.num = 0 then negativeZero else decide (q.num < 0)) q.num.natAbs q.den

def ofInt (n : Int) : Double := ofQuotient (decide (n < 0)) n.natAbs 1

instance (n : Nat) : OfNat Double n := ⟨ofInt n⟩

example : ofRat (1 / 10) = .finite false 7205759403792794 (-56) (by decide) := by decide +kernel
example : ofInt (2 ^ 53 + 1) = ofInt (2 ^ 53) := by decide +kernel
example : ofInt (2 ^ 1024) = .infinite false := by decide +kernel
example : ofRat (twoPow (-1075)) = zero false := by decide +kernel

end Double

end Wireframe

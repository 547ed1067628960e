import Wireframe.Double.Basic

/-! # Decimal numerals

A `Decimal` is an integer of decimal digits scaled by a power of ten: what a numeral denotes before
it is rounded to a double. `Double.ofDecimal` reads one; it never builds a power of ten that the
format could not tell from infinity or from zero.
-/

namespace Wireframe

/-- The nonnegative number `digits · 10 ^ exponent`. -/
structure Decimal where
  digits : Nat
  exponent : Int
  deriving DecidableEq

namespace Decimal

def tenPow (exponent : Int) : Rat :=
  if 0 ≤ exponent then (Nat.pow 10 exponent.toNat : Rat)
  else mkRat 1 (Nat.pow 10 (-exponent).toNat)

def toRat (d : Decimal) : Rat := (d.digits : Rat) * tenPow d.exponent

def ofDigits (whole fraction : List Char) (exponent : Int) : Decimal :=
  ⟨Nat.ofDigitChars 10 (whole ++ fraction) 0, exponent - fraction.length⟩

/-- How many decimal places the integer part takes: the number is below `10 ^ places`. -/
def places (d : Decimal) : Int := (Nat.toDigits 10 d.digits).length + d.exponent

/-- The exponent `s` with `10 ^ s ≤ q < 10 ^ (s + 1)`, for positive `q`. -/
def floorLog10 (q : Rat) : Int :=
  let guess : Int :=
    ((Nat.toDigits 10 q.num.natAbs).length : Int) - (Nat.toDigits 10 q.den).length
  if tenPow guess ≤ q then guess else guess - 1

end Decimal

namespace Double

def ofDecimal (negative : Bool) (d : Decimal) : Double :=
  if d.digits = 0 then zero negative
  else if 310 < d.places then .infinite negative
  else if d.places < -330 then zero negative
  else
    let magnitude := d.toRat
    ofQuotient negative magnitude.num.natAbs magnitude.den

def magnitude (mantissa : Nat) (exponent : Int) : Rat := (mantissa : Rat) * twoPow exponent

/-- A finite number in full: every binary fraction is a decimal fraction. -/
def fullDecimal (mantissa : Nat) (exponent : Int) : Decimal :=
  if 0 ≤ exponent then ⟨mantissa * Nat.pow 2 exponent.toNat, 0⟩
  else ⟨mantissa * Nat.pow 5 (-exponent).toNat, exponent⟩

example : ofDecimal false ⟨1, -1⟩ = ofRat (1 / 10) := by decide +kernel
example : ofDecimal false ⟨1, 400⟩ = .infinite false := by decide +kernel
example : ofDecimal true ⟨5, -400⟩ = zero true := by decide +kernel
example : ofDecimal false ⟨5, -324⟩ = .finite false 1 (-1074) (by decide) := by decide +kernel

/-! ## The fewest digits that read back

`Double.shortest` looks, for one digit, two digits and so on, at the two decimals of that many
digits that enclose the number. The first count at which one of them reads back as the number wins;
of two that do, the nearer. Seventeen digits always suffice; should none be found the number is
given in full, so the result reads back in every case. -/

/-- Of the decimals with `count` significant digits next to `q` below and above, the one that reads
back as the number of magnitude `q`. -/
def enclosing? (q : Rat) (count : Nat) : Option Decimal :=
  let exponent := Decimal.floorLog10 q + 1 - count
  let below := (q / Decimal.tenPow exponent).floor.toNat
  let lower : Decimal := ⟨below, exponent⟩
  let upper : Decimal := ⟨below + 1, exponent⟩
  let target := ofQuotient false q.num.natAbs q.den
  let lowerReads := ofDecimal false lower == target
  let upperReads := ofDecimal false upper == target
  if lowerReads && upperReads then
    let low := q - lower.toRat
    let high := upper.toRat - q
    if low < high then some lower
    else if high < low then some upper
    else if below % 2 = 0 then some lower
    else some upper
  else if lowerReads then some lower
  else if upperReads then some upper
  else none

def shortest (mantissa : Nat) (exponent : Int) : Decimal :=
  if mantissa = 0 then ⟨0, 0⟩
  else
    ((List.range 17).findSome? fun i => enclosing? (magnitude mantissa exponent) (i + 1)).getD
      (fullDecimal mantissa exponent)

/-- A finite number rounded to `count` significant digits, a tie going to the even last digit. -/
def significant (count mantissa : Nat) (exponent : Int) : Decimal :=
  if mantissa = 0 then ⟨0, 0⟩
  else
    let q := magnitude mantissa exponent
    let unit := Decimal.floorLog10 q + 1 - count
    let scaled := q / Decimal.tenPow unit
    ⟨divNearest scaled.num.natAbs scaled.den, unit⟩

end Double

end Wireframe

import Wireframe.Double.Decimal

/-! # Number styles

Where a number is written, a `NumberStyle` says how: which magnitudes are written positionally, how
wide an exponent is, whether an integral value keeps a fraction, and the words for what is not
finite. The digits come from `Double.shortest` or `Double.significant`.
-/

namespace Wireframe

structure NumberStyle where
  /-- The least power of ten of the first digit that is written without an exponent. -/
  leastPositional : Int
  /-- The least power of ten of the first digit that is written with an exponent again. -/
  leastScientific : Int
  wholeSuffix : String
  exponentWidth : Nat
  infinity : String
  negativeInfinity : String
  notANumber : String

namespace NumberStyle

/-- The digits of a decimal without trailing zeros; zero keeps one digit. -/
def digitsOf (d : Decimal) : List Char :=
  let significant := ((Nat.toDigits 10 d.digits).reverse.dropWhile (· == '0')).reverse
  if significant.isEmpty then ['0'] else significant

def leadingPower (d : Decimal) : Int := if d.digits = 0 then 0 else d.places - 1

def exponentText (style : NumberStyle) (power : Int) : List Char :=
  let digits := Nat.toDigits 10 power.natAbs
  (if power < 0 then '-' else '+') :: List.replicate (style.exponentWidth - digits.length) '0'
    ++ digits

def decimalText (style : NumberStyle) (d : Decimal) : List Char :=
  let digits := digitsOf d
  let power := leadingPower d
  if style.leastPositional ≤ power ∧ power < style.leastScientific then
    if power < 0 then
      '0' :: '.' :: List.replicate ((-power).toNat - 1) '0' ++ digits
    else
      let whole := power.toNat + 1
      if digits.length ≤ whole then
        digits ++ List.replicate (whole - digits.length) '0' ++ style.wholeSuffix.toList
      else digits.take whole ++ '.' :: digits.drop whole
  else
    digits.take 1 ++ (if digits.length ≤ 1 then [] else '.' :: digits.drop 1)
      ++ 'e' :: style.exponentText power

/-- A number in a style, its finite magnitudes turned into digits by `digits`. -/
def textWith (style : NumberStyle) (digits : Nat → Int → Decimal) : Double → List Char
  | .finite negative mantissa exponent _ =>
      (if negative then ['-'] else []) ++ style.decimalText (digits mantissa exponent)
  | .infinite false => style.infinity.toList
  | .infinite true => style.negativeInfinity.toList
  | .nan => style.notANumber.toList

def chars (style : NumberStyle) (x : Double) : List Char := style.textWith Double.shortest x

def text (style : NumberStyle) (x : Double) : String := String.ofList (style.chars x)

end NumberStyle

/-- The plain form of a number shown as text: positional from `0.0001` up to below `10 ^ 16`, an
integral value with `.0`, an exponent with its sign and two digits. -/
def NumberStyle.plain : NumberStyle where
  leastPositional := -4
  leastScientific := 16
  wholeSuffix := ".0"
  exponentWidth := 2
  infinity := "inf"
  negativeInfinity := "-inf"
  notANumber := "nan"

/-- The form of a length in a style sheet: six significant digits, no fraction for an integral
value. -/
def NumberStyle.general : NumberStyle where
  leastPositional := -4
  leastScientific := 6
  wholeSuffix := ""
  exponentWidth := 2
  infinity := "inf"
  negativeInfinity := "-inf"
  notANumber := "nan"

namespace Double

def text (x : Double) : String := NumberStyle.plain.text x

def generalText (x : Double) : String :=
  String.ofList (NumberStyle.general.textWith (significant 6) x)

end Double

end Wireframe

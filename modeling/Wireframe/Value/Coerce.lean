import Wireframe.Checked
import Wireframe.Json.Decode
import Wireframe.Value.Display

/-! # Values read as a kind

A field of a document asks for a text, a double, an integer or a boolean. Each reader accepts what
plainly stands for such a thing (a numeral in a string, a whole double for an integer, `yes` for
true) and says what is wrong with everything else.
-/

namespace Wireframe

namespace Text

def readDecimal? (s : List Char) : Option Decimal :=
  let (whole, rest) := Json.spanDigits s
  let (fraction, rest) := match rest with
    | '.' :: rest => Json.spanDigits rest
    | rest => ([], rest)
  if whole.isEmpty && fraction.isEmpty then none
  else
    match Json.readExponent rest with
    | some (exponent, []) => some (Decimal.ofDigits whole fraction (exponent.getD 0))
    | _ => none

/-- A double without blanks around it: a numeral, an infinity or not-a-number, with a sign. -/
def readPlainDouble? (s : List Char) : Option Double :=
  let (negative, magnitude) := splitSign s
  match String.ofList (magnitude.map Char.toLower) with
  | "inf" => some (.infinite negative)
  | "infinity" => some (.infinite negative)
  | "nan" => some .nan
  | _ => (readDecimal? magnitude).map (Double.ofDecimal negative)

/-- A text without its underscores, refused where one stands at an end or beside another. -/
def withoutUnderscores? (s : List Char) : Option (List Char) :=
  let isMark (c : Char) : Bool := c == '_'
  let doubled : Bool := (s.zip (s.drop 1)).any fun (a, b) => isMark a && isMark b
  if s.head?.any isMark || s.getLast?.any isMark || doubled then none
  else some (s.filter fun c => !isMark c)

def readDouble? (s : String) : Option Double :=
  match readPlainDouble? (trimBy isSpace s.toList) with
  | some x => some x
  | none => (withoutUnderscores? s.toList).bind readPlainDouble?

def readInteger? (s : String) : Option Int := do
  let (negative, magnitude) := splitSign (trimBy isSpace s.toList)
  let whole := magnitude.takeWhile (· != '.')
  let fraction := (magnitude.dropWhile (· != '.')).drop 1
  if fraction.all (· == '0') then
    let digits ← groupedDigits? asciiDigit? whole
    let n : Int := ofDigitValues digits
    some (if negative then -n else n)
  else none

def readBoolean? (s : String) : Option Bool :=
  match String.ofList (s.toList.map Char.toLower) with
  | "0" | "off" | "f" | "false" | "n" | "no" => some false
  | "1" | "on" | "t" | "true" | "y" | "yes" => some true
  | _ => none

end Text

namespace Value

def asString : Value → Checked String
  | .string s => .ok s
  | _ => Checked.fault .notString

/-- A text; a number stands for its own text. -/
def asLooseString : Value → Checked String
  | .string s => .ok s
  | .number n => display [⟨[], .overlongInteger⟩] (.number n)
  | _ => Checked.fault .notString

def asOptionalString : Value → Checked (Option String)
  | .null => .ok none
  | v => v.asLooseString.map some

/-- A double: a number, a boolean as 0 or 1, or a string that holds one. -/
def asDouble : Value → Checked Double
  | .number (.double x) => .ok x
  | .number (.int n) =>
      if (Double.ofInt n).isFinite then .ok (Double.ofInt n) else Checked.fault .notNumber
  | .bool b => .ok (Double.ofInt (if b then 1 else 0))
  | .string s =>
      match Text.readDouble? s with
      | some x => .ok x
      | none => Checked.fault .unreadableNumber
  | _ => Checked.fault .notNumber

def isModerate (n : Int) : Bool := -9223372036854775808 < n && n < 9223372036854775808

/-- An integer: one, a whole double of moderate size, a boolean as 0 or 1, or a string that holds
one. -/
def asInteger : Value → Checked Int
  | .number (.int n) => .ok n
  | .number (.double x) =>
      if x.isFinite then
        match x.toInt? with
        | some n => if isModerate n then .ok n else Checked.fault .oversizedInteger
        | none => Checked.fault .fractionalInteger
      else Checked.fault .notFinite
  | .bool b => .ok (if b then 1 else 0)
  | .string s =>
      match Text.readInteger? s with
      | some n =>
          if (Nat.toDigits 10 n.natAbs).length ≤ Text.maxIntegerDigits then .ok n
          else Checked.fault .oversizedInteger
      | none => Checked.fault .unreadableInteger
  | _ => Checked.fault .notInteger

/-- Whether a number is whole and of moderate size: a signed 64-bit integer, or a double strictly
between those bounds. -/
def isModerateWhole : Number → Bool
  | .int n => isModerate n || n == -9223372036854775808
  | .double x => x.toInt?.any isModerate

/-- A boolean: one, the numbers 0 and 1, or a string that says so. Of the other numbers the whole
ones of moderate size cannot be read, and the rest are of the wrong kind. -/
def asBoolean : Value → Checked Bool
  | .bool b => .ok b
  | .number n =>
      if n.same 0 then .ok false
      else if n.same 1 then .ok true
      else if isModerateWhole n then Checked.fault .unreadableBoolean
      else Checked.fault .notBoolean
  | .string s =>
      match Text.readBoolean? s with
      | some b => .ok b
      | none => Checked.fault .unreadableBoolean
  | _ => Checked.fault .notBoolean

example : Text.readDouble? " -.5e1 " = some (Double.ofInt (-5)) := by decide +kernel
example : Text.readDouble? "1_0.0" = some 10 ∧ Text.readDouble? "1__0" = none := by decide +kernel
example : Text.readInteger? " 5 " = some 5 ∧ Text.readInteger? "1.5" = none := by decide +kernel

end Value

end Wireframe

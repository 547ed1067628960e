import Wireframe.Value.Display

/-! # Writing JSON

`encode` writes a value in a `Format`: where line breaks and blanks stand, and how a double is
written. `dump` picks the format from an indent: the compact one for 0, the indented one for 2, both
only for a value of 64-bit integers and moderate nesting, and otherwise the wide one, which bounds
only the digits of an integer.
-/

namespace Wireframe

/-- The shortest JSON form of a double: `0.00001`, `1e-6`, `1e+16`; what is not finite is null. -/
def NumberStyle.jsonShort : NumberStyle where
  leastPositional := -5
  leastScientific := 16
  wholeSuffix := ".0"
  exponentWidth := 1
  infinity := "null"
  negativeInfinity := "null"
  notANumber := "null"

/-- The wide JSON form of a double: `1e-05`, `1e+16`, and words for what is not finite. -/
def NumberStyle.jsonWide : NumberStyle where
  leastPositional := -4
  leastScientific := 16
  wholeSuffix := ".0"
  exponentWidth := 2
  infinity := "Infinity"
  negativeInfinity := "-Infinity"
  notANumber := "NaN"

namespace Json

structure Format where
  /-- Blanks per nesting level, each item on a line of its own; none for everything on one line. -/
  indent : Option Nat
  afterComma : List Char
  afterColon : List Char
  numbers : NumberStyle

namespace Format

def compact : Format := ⟨none, [], [], .jsonShort⟩

def indented : Format := ⟨some 2, [], [' '], .jsonShort⟩

def wide (indent : Option Nat) : Format := ⟨indent, [' '], [' '], .jsonWide⟩

def lineBreak (format : Format) (level : Nat) : List Char :=
  match format.indent with
  | none => []
  | some width => '\n' :: List.replicate (width * level) ' '

def separator (format : Format) (level : Nat) : List Char :=
  ',' :: match format.indent with
    | none => format.afterComma
    | some _ => format.lineBreak level

end Format

def hexDigit (n : Nat) : Char := (n % 16).digitChar

/-- A character inside a string: only the quote, the backslash and the controls are escaped. -/
def escapeChar (c : Char) : List Char :=
  if c = '"' then ['\\', '"']
  else if c = '\\' then ['\\', '\\']
  else if 0x20 ≤ c.toNat then [c]
  else if c = '\n' then ['\\', 'n']
  else if c = '\r' then ['\\', 'r']
  else if c = '\t' then ['\\', 't']
  else if c = '\x08' then ['\\', 'b']
  else if c = '\x0c' then ['\\', 'f']
  else ['\\', 'u', '0', '0', hexDigit (c.toNat / 16), hexDigit c.toNat]

def quote (s : String) : List Char := '"' :: s.toList.flatMap escapeChar ++ ['"']

def numberChars (style : NumberStyle) : Number → List Char
  | .int n => (toString n).toList
  | .double x => style.chars x

mutual

def encodeValue (format : Format) (level : Nat) : Value → List Char
  | .null => ['n', 'u', 'l', 'l']
  | .bool true => ['t', 'r', 'u', 'e']
  | .bool false => ['f', 'a', 'l', 's', 'e']
  | .number n => numberChars format.numbers n
  | .string s => quote s
  | .list [] => ['[', ']']
  | .list (item :: items) =>
      '[' :: format.lineBreak (level + 1) ++ encodeValue format (level + 1) item
        ++ encodeItems format (level + 1) items ++ format.lineBreak level ++ [']']
  | .object [] => ['{', '}']
  | .object ((key, value) :: entries) =>
      '{' :: format.lineBreak (level + 1) ++ quote key ++ ':' :: format.afterColon
        ++ encodeValue format (level + 1) value
        ++ encodeMembers format (level + 1) entries ++ format.lineBreak level ++ ['}']

def encodeItems (format : Format) (level : Nat) : List Value → List Char
  | [] => []
  | item :: items =>
      format.separator level ++ encodeValue format level item ++ encodeItems format level items

def encodeMembers (format : Format) (level : Nat) : List (String × Value) → List Char
  | [] => []
  | (key, value) :: entries =>
      format.separator level ++ quote key ++ ':' :: format.afterColon
        ++ encodeValue format level value ++ encodeMembers format level entries

end

def encode (format : Format) (value : Value) : String :=
  String.ofList (encodeValue format 0 value)

def fitsWord (n : Int) : Bool := -9223372036854775808 ≤ n && n < 18446744073709551616

mutual

/-- Whether the containers of a value are nested at most so many levels deep. An empty list needs no
level. -/
def nestsWithin (levels : Nat) : Value → Bool
  | .list [] => true
  | .list items => levels != 0 && nestsWithinAll (levels - 1) items
  | .object members => levels != 0 && nestsWithinMembers (levels - 1) members
  | _ => true

def nestsWithinAll (levels : Nat) : List Value → Bool
  | [] => true
  | item :: items => nestsWithin levels item && nestsWithinAll levels items

def nestsWithinMembers (levels : Nat) : List (String × Value) → Bool
  | [] => true
  | (_, value) :: entries => nestsWithin levels value && nestsWithinMembers levels entries

end

def maxNesting : Nat := 254

/-- Whether the compact and the indented format can write a value. -/
def isModest (value : Value) : Bool := value.allIntegers fitsWord && nestsWithin maxNesting value

def formatFor (indent : Int) (value : Value) : Format :=
  if indent = 0 ∧ isModest value then .compact
  else if indent = 2 ∧ isModest value then .indented
  else .wide (if 0 < indent then some indent.toNat else none)

inductive EncodeError where
  | overlong
  | notAnIndent (value : Value)

def EncodeError.message : EncodeError → String
  | overlong => Text.overlongMessage
  | notAnIndent _ => "The indent must be a number of blanks."

def dump (value : Value) (indent : Int) : Except EncodeError String :=
  if value.isWritable then .ok (encode (formatFor indent value) value)
  else .error .overlong

/-- The indent that a value stands for when something is to be written at it: an integer, or a
boolean as 0 or 1. A double counts only where no row of blanks is needed: for 0, below it, and for
the 2 of the indented format. -/
def indentOf (indent written : Value) : Except EncodeError Int :=
  match indent with
  | .number (.int n) => .ok n
  | .bool b => .ok (if b then 1 else 0)
  | .number (.double x) =>
      if x.isZero then .ok 0
      else if x.toInt? == some 2 && isModest written then .ok 2
      else if Double.lt 0 x then .error (.notAnIndent indent)
      else .ok (-1)
  | indent => .error (.notAnIndent indent)

end Json

end Wireframe

import Wireframe.Text.Basic
import Wireframe.Value.Basic

/-! # Reading JSON

A recursive-descent reader over characters. Every reader takes the characters that are left and
returns what it read with the characters after it. `decode` accepts exactly one value with blanks
around it; the dialect says whether words and magnitudes outside the finite doubles are read. An
integer of too many digits is an error of its own.
-/

namespace Wireframe.Json

/-- What may stand for a number besides the finite ones. In both dialects what is read are Unicode
texts: the escape of a lone surrogate stands for no character and is refused. -/
inductive Dialect where
  | strict
  /-- Also `NaN`, `Infinity`, `-Infinity`, and magnitudes beyond the range as infinities. -/
  | extended
  deriving DecidableEq

inductive DecodeError where
  | malformed
  | overlong
  deriving DecidableEq

abbrev Reading (α : Type) := Except DecodeError (α × List Char)

def required {α : Type} : Option α → Except DecodeError α
  | some a => .ok a
  | none => .error .malformed

def isBlank (c : Char) : Bool := c == ' ' || c == '\t' || c == '\n' || c == '\r'

def skipBlanks (s : List Char) : List Char := s.dropWhile isBlank

def hexValue? (c : Char) : Option Nat :=
  if '0' ≤ c ∧ c ≤ '9' then some (c.toNat - 48)
  else if 'a' ≤ c ∧ c ≤ 'f' then some (c.toNat - 87)
  else if 'A' ≤ c ∧ c ≤ 'F' then some (c.toNat - 55)
  else none

def readUnit : List Char → Option (Nat × List Char)
  | a :: b :: c :: d :: rest => do
      let a ← hexValue? a
      let b ← hexValue? b
      let c ← hexValue? c
      let d ← hexValue? d
      some (((a * 16 + b) * 16 + c) * 16 + d, rest)
  | _ => none

/-- One code unit, or a pair of surrogates, as a character; a lone surrogate is refused. -/
def readScalar (s : List Char) : Option (Char × List Char) := do
  let (unit, rest) ← readUnit s
  if 0xd800 ≤ unit ∧ unit < 0xdc00 then
    match rest with
    | '\\' :: 'u' :: rest =>
        let (low, rest) ← readUnit rest
        if 0xdc00 ≤ low ∧ low < 0xe000 then
          some (Char.ofNat (0x10000 + (unit - 0xd800) * 0x400 + (low - 0xdc00)), rest)
        else none
    | _ => none
  else if 0xdc00 ≤ unit ∧ unit < 0xe000 then none
  else some (Char.ofNat unit, rest)

def readEscape : List Char → Option (Char × List Char)
  | '"' :: rest => some ('"', rest)
  | '\\' :: rest => some ('\\', rest)
  | '/' :: rest => some ('/', rest)
  | 'b' :: rest => some ('\x08', rest)
  | 'f' :: rest => some ('\x0c', rest)
  | 'n' :: rest => some ('\n', rest)
  | 'r' :: rest => some ('\r', rest)
  | 't' :: rest => some ('\t', rest)
  | 'u' :: rest => readScalar rest
  | _ => none

/-- A string after its opening quote; `read` holds the characters so far, the last one first. A step
takes at least one character, so that as many steps as there are characters in `steps` are enough
when these are the characters of the text. -/
def readString (steps read s : List Char) : Option (String × List Char) :=
  match steps, s with
  | _ :: steps, '\\' :: rest =>
      match readEscape rest with
      | some (c, rest) => readString steps (c :: read) rest
      | none => none
  | _ :: steps, c :: rest =>
      if c = '"' then some (String.ofList read.reverse, rest)
      else if c.toNat < 0x20 then none
      else readString steps (c :: read) rest
  | _, _ => none

def readQuoted (s : List Char) : Option (String × List Char) := readString s [] s

def spanDigits (s : List Char) : List Char × List Char :=
  (s.takeWhile Char.isDigit, s.dropWhile Char.isDigit)

/-- A fraction part, when there is one: its digits. A point without digits is refused. -/
def readFraction : List Char → Option (Option (List Char) × List Char)
  | '.' :: rest =>
      let (digits, rest) := spanDigits rest
      if digits.isEmpty then none else some (some digits, rest)
  | s => some (none, s)

def readExponentDigits (s : List Char) : Option (Int × List Char) :=
  let (negative, s) := match s with
    | '-' :: rest => (true, rest)
    | '+' :: rest => (false, rest)
    | s => (false, s)
  let (digits, rest) := spanDigits s
  if digits.isEmpty then none
  else
    let magnitude : Int := Nat.ofDigitChars 10 digits 0
    some (if negative then -magnitude else magnitude, rest)

def readExponent : List Char → Option (Option Int × List Char)
  | 'e' :: rest => (readExponentDigits rest).map fun (n, rest) => (some n, rest)
  | 'E' :: rest => (readExponentDigits rest).map fun (n, rest) => (some n, rest)
  | s => some (none, s)

def wholeNumber (negative : Bool) (digits : List Char) : Number :=
  let magnitude : Int := Nat.ofDigitChars 10 digits 0
  .int (if negative then -magnitude else magnitude)

def fractionalNumber (negative : Bool) (digits fraction : List Char) (exponent : Int) : Number :=
  .double (Double.ofDecimal negative (Decimal.ofDigits digits fraction exponent))

def Dialect.admits (dialect : Dialect) : Number → Bool
  | .int _ => true
  | .double x => dialect = .extended || x.isFinite

def readTail (s : List Char) : Option ((Option (List Char) × Option Int) × List Char) := do
  let (fraction, rest) ← readFraction s
  let (exponent, rest) ← readExponent rest
  some ((fraction, exponent), rest)

/-- A number without its minus sign: an integer unless it has a fraction or an exponent. -/
def readMagnitude (dialect : Dialect) (negative : Bool) (s : List Char) : Reading Number :=
  let (digits, rest) := spanDigits s
  if digits.isEmpty || (digits.length != 1 && digits.head? == some '0') then .error .malformed
  else
    let isOverlong : Bool := Text.maxIntegerDigits < digits.length
    match readTail rest with
    | none => .error (if isOverlong then .overlong else .malformed)
    | some ((none, none), rest) =>
        if isOverlong then .error .overlong else .ok (wholeNumber negative digits, rest)
    | some ((fraction, exponent), rest) =>
        let number := fractionalNumber negative digits (fraction.getD []) (exponent.getD 0)
        if dialect.admits number then .ok (number, rest) else .error .malformed

def readNumber (dialect : Dialect) (s : List Char) : Reading Number :=
  match dialect, s with
  | .extended, 'N' :: 'a' :: 'N' :: rest => .ok (.double .nan, rest)
  | .extended, 'I' :: 'n' :: 'f' :: 'i' :: 'n' :: 'i' :: 't' :: 'y' :: rest =>
      .ok (.double (.infinite false), rest)
  | .extended, '-' :: 'I' :: 'n' :: 'f' :: 'i' :: 'n' :: 'i' :: 't' :: 'y' :: rest =>
      .ok (.double (.infinite true), rest)
  | dialect, '-' :: rest => readMagnitude dialect true rest
  | dialect, s => readMagnitude dialect false s

mutual

def readValue (dialect : Dialect) (fuel : Nat) (s : List Char) : Reading Value :=
  match fuel with
  | 0 => .error .malformed
  | fuel + 1 =>
      match s with
      | '{' :: rest =>
          match skipBlanks rest with
          | '}' :: rest => .ok (.object [], rest)
          | rest =>
              (readMembers dialect fuel rest).map fun (entries, rest) =>
                (.object (Members.ofEntries entries), rest)
      | '[' :: rest =>
          match skipBlanks rest with
          | ']' :: rest => .ok (.list [], rest)
          | rest =>
              (readItems dialect fuel rest).map fun (items, rest) => (.list items, rest)
      | '"' :: rest => (required (readQuoted rest)).map fun (s, rest) => (.string s, rest)
      | 'n' :: 'u' :: 'l' :: 'l' :: rest => .ok (.null, rest)
      | 't' :: 'r' :: 'u' :: 'e' :: rest => .ok (.bool true, rest)
      | 'f' :: 'a' :: 'l' :: 's' :: 'e' :: rest => .ok (.bool false, rest)
      | s => (readNumber dialect s).map fun (n, rest) => (.number n, rest)

def readItems (dialect : Dialect) (fuel : Nat) (s : List Char) : Reading (List Value) :=
  match fuel with
  | 0 => .error .malformed
  | fuel + 1 =>
      match readValue dialect fuel s with
      | .error e => .error e
      | .ok (item, rest) =>
          match skipBlanks rest with
          | ',' :: rest =>
              (readItems dialect fuel (skipBlanks rest)).map fun (items, rest) =>
                (item :: items, rest)
          | ']' :: rest => .ok ([item], rest)
          | _ => .error .malformed

def readMembers (dialect : Dialect) (fuel : Nat) (s : List Char) :
    Reading (List (String × Value)) :=
  match fuel, s with
  | fuel + 1, '"' :: rest =>
      match readQuoted rest with
      | none => .error .malformed
      | some (key, rest) =>
          match skipBlanks rest with
          | ':' :: rest =>
              match readValue dialect fuel (skipBlanks rest) with
              | .error e => .error e
              | .ok (value, rest) =>
                  match skipBlanks rest with
                  | ',' :: rest =>
                      (readMembers dialect fuel (skipBlanks rest)).map fun (entries, rest) =>
                        ((key, value) :: entries, rest)
                  | '}' :: rest => .ok ([(key, value)], rest)
                  | _ => .error .malformed
          | _ => .error .malformed
  | _, _ => .error .malformed

end

/-- Reads a text that holds one value and nothing else but blanks. -/
def decodeChars (dialect : Dialect) (s : List Char) : Except DecodeError Value :=
  match readValue dialect (2 * s.length + 2) (skipBlanks s) with
  | .error e => .error e
  | .ok (value, rest) => if (skipBlanks rest).isEmpty then .ok value else .error .malformed

def decode (dialect : Dialect) (s : String) : Except DecodeError Value :=
  decodeChars dialect s.toList

end Wireframe.Json

import Wireframe.Text.Basic
import Wireframe.Text.Printable
import Wireframe.Value.Basic

/-! # Values as text

`display` is how a value appears where a text is shown: a string as it is, the constants
capitalised, a list or an object in brackets. Inside brackets strings are quoted, in single quotes
unless only double ones keep the text free of escapes. A value has no text if an integer in it,
however deep, has more digits than are written; `fullText` would write it all the same.
-/

namespace Wireframe

namespace Text

def hexDigits (width code : Nat) : List Char :=
  let digits := Nat.toDigits 16 code
  List.replicate (width - digits.length) '0' ++ digits

def quoteChar (quote c : Char) : List Char :=
  if c = quote ∨ c = '\\' then ['\\', c]
  else if c = '\n' then ['\\', 'n']
  else if c = '\r' then ['\\', 'r']
  else if c = '\t' then ['\\', 't']
  else if isPrintable c then [c]
  else if c.toNat < 0x100 then '\\' :: 'x' :: hexDigits 2 c.toNat
  else if c.toNat < 0x10000 then '\\' :: 'u' :: hexDigits 4 c.toNat
  else '\\' :: 'U' :: hexDigits 8 c.toNat

def quote (s : String) : List Char :=
  let s := s.toList
  let mark := if s.contains '\x27' && !s.contains '"' then '"' else '\x27'
  mark :: s.flatMap (quoteChar mark) ++ [mark]

end Text

namespace Value

mutual

/-- A value inside brackets. -/
def quotedChars : Value → List Char
  | .null => "None".toList
  | .bool true => "True".toList
  | .bool false => "False".toList
  | .number n => n.fullText.toList
  | .string s => Text.quote s
  | .list [] => ['[', ']']
  | .list (item :: items) => '[' :: quotedChars item ++ quotedItems items ++ [']']
  | .object [] => ['{', '}']
  | .object ((key, value) :: entries) =>
      '{' :: Text.quote key ++ ':' :: ' ' :: quotedChars value ++ quotedMembers entries ++ ['}']

def quotedItems : List Value → List Char
  | [] => []
  | item :: items => ',' :: ' ' :: quotedChars item ++ quotedItems items

def quotedMembers : List (String × Value) → List Char
  | [] => []
  | (key, value) :: entries =>
      ',' :: ' ' :: Text.quote key ++ ':' :: ' ' :: quotedChars value ++ quotedMembers entries

end

def fullText : Value → String
  | .string s => s
  | value => String.ofList (quotedChars value)

theorem fullText_number (n : Number) : (number n).fullText = n.fullText := String.ofList_toList

/-- Whether every integer in the value has no more digits than are written. -/
def isWritable (value : Value) : Bool := value.allIntegers Text.isWritable

theorem isWritable_int (n : Int) : (int n).isWritable = Text.isWritable n := rfl

/-- The text of a value where it is shown, or the failure for an integer of too many digits. -/
def display {ε : Type} (overlong : ε) (value : Value) : Except ε String :=
  if value.isWritable then .ok value.fullText else .error overlong

theorem display_of_isWritable {ε : Type} {overlong : ε} {value : Value}
    (h : value.isWritable = true) : value.display overlong = .ok value.fullText := if_pos h

theorem display_ok_iff {ε : Type} {overlong : ε} {value : Value} {text : String} :
    value.display overlong = .ok text ↔ value.isWritable = true ∧ value.fullText = text := by
  unfold display
  split <;> simp_all

theorem display_isOk {ε : Type} {overlong : ε} {value : Value} :
    (value.display overlong).isOk = value.isWritable := by
  unfold display
  split <;> simp_all [Except.isOk, Except.toBool]

end Value

end Wireframe

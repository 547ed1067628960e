import Wireframe.Json.Decode
import Wireframe.Text.Basic

/-! # The JSON object of a response

A producer answers with prose around the document, or with a fenced code block. `candidate?` finds
the part of the text that should be the JSON object: inside the first fence if there is one, from
the first opening to the last closing brace. `extract` reads it: as it stands first and, unless that
is switched off, as a repairer gives it after that. What it returns is always an object.
-/

namespace Wireframe.Json

/-- Splits a text at the first place where a mark stands: what is before it and what follows. -/
def splitFirst (mark : List Char) (s : List Char) : Option (List Char × List Char) :=
  if mark.isPrefixOf s then some ([], s.drop mark.length)
  else
    match s with
    | [] => none
    | c :: rest => (splitFirst mark rest).map fun (before, after) => (c :: before, after)

def fence : List Char := ['\x60', '\x60', '\x60']

def dropLanguage : List Char → List Char
  | 'j' :: 's' :: 'o' :: 'n' :: rest => rest
  | s => s

def fenced? (s : List Char) : Option (List Char) := do
  let (_, opened) ← splitFirst fence s
  let (body, _) ← splitFirst fence (dropLanguage opened)
  some body

/-- The span from the first opening brace to the last closing brace. -/
def braced? (s : List Char) : Option (List Char) :=
  let opened := s.dropWhile (· != '{')
  let closed := (opened.reverse.dropWhile (· != '}')).reverse
  if closed.isEmpty then none else some closed

/-- The part of a response that should be the JSON object. -/
def candidateChars? (s : List Char) : Option (List Char) :=
  let s := Text.trim s
  braced? ((fenced? s).getD s)

def candidate? (s : String) : Option String := (candidateChars? s.toList).map String.ofList

example : candidate? "a \x7bb\x7d c\x7dd" = some "\x7bb\x7d c\x7d" := by decide +kernel

inductive ExtractError where
  | noCandidate
  /-- The candidate is no strict JSON, and slips are not allowed. -/
  | malformed
  /-- The candidate is no strict JSON, and neither is what it was repaired to. -/
  | unrepaired
  | notObject (kind : String)
  deriving DecidableEq

namespace ExtractError

def message : ExtractError → String
  | noCandidate => "No JSON object found in text"
  | malformed => "Invalid JSON"
  | unrepaired => "JSON repair failed"
  | notObject kind => "Expected object, got " ++ kind

end ExtractError

def kindName : Value → String
  | .null => "NoneType"
  | .bool _ => "bool"
  | .number (.int _) => "int"
  | .number (.double _) => "float"
  | .string _ => "str"
  | .list _ => "list"
  | .object _ => "dict"

def members : Value → Except ExtractError Members
  | .object members => .ok members
  | value => .error (.notObject (kindName value))

/-- Turns a text with slips into one that should be JSON, or gives up. -/
abbrev Repairer := String → Option String

/-- What a repaired text denotes, where a magnitude beyond the doubles and the words for what is not
finite are read as well. -/
def readRepaired (repaired : Option String) : Except ExtractError Value :=
  match repaired with
  | some text => (decode .extended text).mapError fun _ => .unrepaired
  | none => .error .unrepaired

/-- The JSON object of a response; `lenient` allows slips. -/
def extract (repair : Repairer) (text : String) (lenient : Bool) : Except ExtractError Members :=
  match candidate? text with
  | none => .error .noCandidate
  | some candidate =>
      match decode .strict candidate with
      | .ok value => members value
      | .error _ =>
          if lenient then readRepaired (repair candidate) >>= members else .error .malformed

end Wireframe.Json

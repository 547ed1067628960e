import Wireframe.Markup.Basic
import Wireframe.Text.Letter

/-! # Reading tags

`Tag.read?` reads an element of markup: its name, its attributes in double quotes, the text behind
the opening tag and the elements behind the text, up to a closing tag of the same name. An element
that is written as a single tag has none of these but attributes. Names are words of letters, digits
and hyphens; texts and values hold entities only where they hold an ampersand.
-/

namespace Wireframe.Tag

def isNameChar (c : Char) : Bool := Text.isLetter c || Text.isDigit c || c == '-'

def isName (name : String) : Bool := !name.isEmpty && name.toList.all isNameChar

def readName (s : List Char) : Option (String × List Char) :=
  let name := s.takeWhile isNameChar
  if name.isEmpty then none else some (String.ofList name, s.dropWhile isNameChar)

/-- What is written up to a mark, entities read, and what is left from the mark on. -/
def readUpTo (mark : Char) (s : List Char) : Option (String × List Char) := do
  let text ← Text.unescape? (s.takeWhile (· != mark))
  some (String.ofList text, s.dropWhile (· != mark))

def readAttribute (s : List Char) : Option ((String × String) × List Char) := do
  let (key, rest) ← readName s
  match rest with
  | '=' :: '"' :: rest =>
      match readUpTo '"' rest with
      | some (value, '"' :: rest) => some ((key, value), rest)
      | _ => none
  | _ => none

/-- The attributes of an opening tag, as long as there is a blank before the next one. -/
def readAttributes (fuel : Nat) (s : List Char) : Option (List (String × String) × List Char) :=
  match fuel, s with
  | fuel + 1, ' ' :: rest => do
      let (entry, rest) ← readAttribute rest
      let (entries, rest) ← readAttributes fuel rest
      some (entry :: entries, rest)
  | 0, ' ' :: _ => none
  | _, s => some ([], s)

/-- An opening tag without its last bracket: the name and the attributes. -/
def readOpening : List Char → Option ((String × List (String × String)) × List Char)
  | '<' :: rest => do
      let (name, rest) ← readName rest
      let (attributes, rest) ← readAttributes rest.length rest
      some ((name, attributes), rest)
  | _ => none

def readClosing (name : String) : List Char → Option (List Char)
  | '<' :: '/' :: rest => do
      let (found, rest) ← readName rest
      match rest with
      | '>' :: rest => if found = name then some rest else none
      | _ => none
  | _ => none

mutual

/-- An element, which begins at once, and what follows it. -/
def readElement (fuel : Nat) (s : List Char) : Option (Tag × List Char) :=
  match fuel with
  | 0 => none
  | fuel + 1 => do
      let ((name, attributes), rest) ← readOpening s
      match rest with
      | '/' :: '>' :: rest => some (.node { name, attributes, isVoid := true } [], rest)
      | '>' :: rest => do
          let (text, rest) ← readUpTo '<' rest
          let (elements, rest) ← readElements fuel rest
          let rest ← readClosing name rest
          some (.node { name, attributes, text } elements, rest)
      | _ => none

def readElements (fuel : Nat) (s : List Char) : Option (List Tag × List Char) :=
  match fuel, s with
  | 0, _ => none
  | _ + 1, '<' :: '/' :: rest => some ([], '<' :: '/' :: rest)
  | fuel + 1, s => do
      let (element, rest) ← readElement fuel s
      let (elements, rest) ← readElements fuel rest
      some (element :: elements, rest)

end

def read? (s : String) : Option Tag :=
  match readElement s.toList.length s.toList with
  | some (tag, []) => some tag
  | _ => none

end Wireframe.Tag

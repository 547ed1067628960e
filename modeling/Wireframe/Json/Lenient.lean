import Wireframe.Json.Encode
import Wireframe.Json.Extract
import Wireframe.Json.Lenient.Text

/-! # Reading JSON with slips

Producers write almost-JSON: a comma too many or too few, single quotes, bare keys, capitalised
constants, comments, brackets that are never closed. The lenient reader takes what it can: it never
refuses, passes over what it cannot use, and closes at the end of the text whatever is still open.
What a bracket or a quote means depends on the places the reader is in; a place that was not left
in order stays open. A text with several top-level values reads as the list of them, where a value
takes the place of an equally shaped one before it.
-/

namespace Wireframe.Json.Lenient

/-- Where the lenient reader stands: the places it is in, the innermost first, and the characters
that are left. -/
structure Position where
  places : List Place
  rest : List Char

namespace Position

def enter (position : Position) (place : Place) : Position :=
  { position with places := place :: position.places }

def leave (position : Position) : Position := { position with places := position.places.tail }

def drop (position : Position) (n : Nat) : Position :=
  { position with rest := position.rest.drop n }

def skipBlanks (position : Position) : Position :=
  { position with rest := Lenient.skipBlanks position.rest }

def beginsWith (position : Position) (marks : List Char) : Bool :=
  Lenient.beginsWith marks position.rest

def isAtBrace (position : Position) : Bool :=
  position.rest.isEmpty || position.beginsWith ['}']

def dropMark (position : Position) (marks : List Char) : Position :=
  if position.beginsWith marks then position.drop 1 else position

def withText (position : Position) (result : Value × List Char) : Value × Position :=
  (result.1, { position with rest := result.2 })

end Position

def isBlankValue : Value → Bool
  | .string s => s == ""
  | .list items => items.isEmpty
  | .object members => members.isEmpty
  | _ => false

/-- Whether an item is only the dots with which a list was cut short: three dots without quotes
around them, between two positions. -/
def isEllipsis (item : Value) (before after : List Char) : Bool :=
  item.is "..." && before[before.length - after.length - 1]? == some '.'

/-- A list that continues the value of the last member, which must be a list itself. -/
def continueList (members : Members) (more : List Value) : Members :=
  match members.reverse with
  | (key, .list items) :: rest =>
      let added := match more with
        | [.list inner] => inner
        | more => more
      ((key, .list (items ++ added)) :: rest).reverse
  | _ => members

def endsInList (members : Members) : Bool :=
  match members.getLast? with
  | some (key, .list _) => key != ""
  | _ => false

/-- The next key. In front of it, lists that continue the value of the last member are added to that
member. With the key comes the position at which it begins. -/
structure KeyReading where
  key : String
  members : Members
  start : List Char
  position : Position

mutual

/-- The next value; whatever cannot begin one is passed over, and at the end of the text it is the
empty text. Outside of every container only containers are values. -/
def readValue (fuel : Nat) (position : Position) : Value × Position :=
  match fuel, position.rest with
  | fuel + 1, c :: rest =>
      if c = '{' then readObject fuel { position with rest }
      else if c = '[' then readArray fuel { position with rest }
      else if !position.places.isEmpty && (isQuote c || Text.isLetter c) then
        position.withText (readText position.places (c :: rest))
      else if !position.places.isEmpty && (Text.isDigit c || c == '-' || c == '.') then
        position.withText (readNumeral position.places (c :: rest))
      else if c = '#' || c = '/' then
        let position := { position with rest := skipComment position.places (c :: rest) }
        if position.places.isEmpty then readValue fuel position else (.string "", position)
      else readValue fuel { position with rest }
  | _, _ => (.string "", position)

/-- A list after its opening bracket, up to and with its closing one; a brace closes it too. -/
def readArray (fuel : Nat) (position : Position) : Value × Position :=
  match fuel with
  | 0 => (.list [], position)
  | fuel + 1 =>
      let (items, position) := readItems fuel [] (position.enter .item)
      (.list items.reverse, (position.drop 1).leave)

/-- The items of a list before its closing bracket, the last one first; `read` holds those so far.
An item that is empty is dropped unless a comma or the bracket comes right after it. -/
def readItems (fuel : Nat) (read : List Value) (position : Position) : List Value × Position :=
  match fuel, position.rest with
  | fuel + 1, c :: rest =>
      if c = ']' || c = '}' then (read, position)
      else
        let start := position.skipBlanks
        let isMember : Bool :=
          isQuote c && beginsWith [':'] (skipBlanks ((seek [c] rest).drop 1))
        let (item, after) :=
          if isMember then readObject fuel start
          else if isQuote c then start.withText (readText start.places start.rest)
          else readValue fuel start
        let (read, after) :=
          if isBlankValue item && !after.beginsWith [']', ','] then (read, after.drop 1)
          else if isEllipsis item start.rest after.rest then (read, after)
          else (item :: read, after)
        readItems fuel read { after with
          rest := after.rest.dropWhile fun c => Text.isBlank c || c == ',' }
  | _, _ => (read, position)

def readKey (fuel : Nat) (members : Members) (position : Position) : KeyReading :=
  match fuel, position.rest with
  | fuel + 1, c :: rest =>
      if c = '[' && endsInList members then
        let (more, after) := readArray fuel { position with rest }
        let items := match more with
          | .list items => items
          | _ => []
        readKey fuel (continueList members items)
          (after.skipBlanks.dropMark [',']).skipBlanks
      else
        let (key, after) := position.withText (readText position.places (c :: rest))
        let key := key.string?.getD ""
        let next := if key = "" then after.skipBlanks else after
        if key != "" || next.beginsWith [':', '}'] then ⟨key, members, c :: rest, next⟩
        else readKey fuel members next
  | _, _ => ⟨"", members, position.rest, position⟩

/-- The members of an object before its closing brace; `read` holds those so far. Inside a list a
key that is there already begins the next object, as if `}{` stood before it. -/
def readMembers (fuel : Nat) (read : Members) (position : Position) : Members × Position :=
  match fuel with
  | 0 => (read, position)
  | fuel + 1 =>
      if position.isAtBrace then (read, position)
      else
        let found := readKey fuel read ((position.skipBlanks.dropMark [':']).enter .key)
        let key := found.key
        let read := found.members
        let after := found.position
        if after.places.contains .item && read.has key then
          (read, { after with rest := '}' :: '{' :: found.start })
        else
          let after := after.skipBlanks
          if after.isAtBrace then readMembers fuel read after
          else
            let start := ((after.drop 1).leave.enter .value).skipBlanks
            let (value, after) :=
              if start.beginsWith [',', '}'] then (.string "", start) else readValue fuel start
            readMembers fuel (read.put key value)
              (after.leave.dropMark [',', '\x27', '"']).skipBlanks

/-- An object after its opening brace, up to and with its closing one. Braces with no member between
them hold the items of a list. Outside of every container, members may follow the brace after a
comma. -/
def readObject (fuel : Nat) (position : Position) : Value × Position :=
  match fuel with
  | 0 => (.object [], position)
  | fuel + 1 =>
      let (members, after) := readMembers fuel [] position
      if members.isEmpty && 2 ≤ position.rest.length - after.rest.length then
        readArray fuel { after with rest := position.rest }
      else
        let after := after.drop 1
        if !after.places.isEmpty then (.object members, after)
        else
          let after := after.skipBlanks
          if !after.beginsWith [','] then (.object members, after)
          else
            let after := (after.drop 1).skipBlanks
            if !after.rest.head?.any isQuote then (.object members, after)
            else
              match readObject fuel after with
              | (.object more, after) => (.object (Members.ofEntries (members ++ more)), after)
              | (_, after) => (.object members, after)

end

mutual

/-- Whether two values have the same shape: the same kind, and where they are containers, the same
keys or the same length with the same shapes inside. -/
def sameShape : Value → Value → Bool
  | .null, .null => true
  | .bool _, .bool _ => true
  | .number (.int _), .number (.int _) => true
  | .number (.double _), .number (.double _) => true
  | .string _, .string _ => true
  | .list items, .list others => sameShapes items others
  | .object members, .object others =>
      members.length == others.length && sameMembers members others
  | _, _ => false

def sameShapes : List Value → List Value → Bool
  | [], [] => true
  | item :: items, other :: others => sameShape item other && sameShapes items others
  | _, _ => false

def sameMembers : List (String × Value) → Members → Bool
  | [], _ => true
  | (key, value) :: rest, others =>
      (others.value? key).any (sameShape value) && sameMembers rest others

end

def addValue (read : List Value) (value : Value) : List Value :=
  match read with
  | last :: before =>
      if sameShape last value || !last.truthy then value :: before else value :: read
  | [] => [value]

def readFurther (fuel : Nat) (read : List Value) (position : Position) : List Value :=
  match fuel with
  | 0 => read
  | fuel + 1 =>
      if position.rest.isEmpty then read
      else
        let (value, after) := readValue fuel position.leave
        if value.truthy then readFurther fuel (addValue read value) after
        else readFurther fuel read (after.drop 1)

/-- Room for every character to be looked at in each of the roles it can have. -/
def fuelFor (s : List Char) : Nat := 10 * (s.length + 10)

def decodeChars (s : List Char) : Value :=
  let (first, after) := readValue (fuelFor s) ⟨[], s⟩
  match readFurther (fuelFor s) [first] after with
  | [value] => value
  | values => .list values.reverse

def decode (s : String) : Value := decodeChars s.toList

/-- A text that can be read stays as it is, and one with slips is written anew. A text whose only
fault is an integer of too many digits cannot be repaired. -/
def repair : Repairer := fun text =>
  match Json.decode .extended text with
  | .ok _ => some text
  | .error .overlong => none
  | .error .malformed => (dump (decode text) (-1)).toOption

end Wireframe.Json.Lenient

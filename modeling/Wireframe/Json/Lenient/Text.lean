import Wireframe.Text.Basic
import Wireframe.Text.Letter
import Wireframe.Value.Coerce

/-! # Texts and numerals with slips

A text may stand in any quotes, in doubled ones, or in none; its closing quote may be missing, and
quotes may stand inside it. Whether a comma, a brace or a quote ends a text is decided by what
follows: what would read as the next member or item ends it, anything else belongs to it.

The lenient reader decides by what stands ahead. A suffix of the text is a position in it: `seek`
goes to the next mark that no backslash escapes, `skipBlanks` over blanks, and `skipComment` over a
comment. A position that is not there is the empty suffix.
-/

namespace Wireframe.Json.Lenient

inductive Place where
  | key
  | value
  | item
  deriving DecidableEq

def isQuote (c : Char) : Bool := c == '"' || c == '\x27' || c == '“' || c == '”'

def skipBlanks (s : List Char) : List Char := s.dropWhile Text.isBlank

def beginsWith (marks : List Char) (s : List Char) : Bool := s.head?.any marks.contains

/-- The text from the next mark on, backslashed characters passed over; `escaped` says whether a
backslash stands before the text. -/
def seekFrom (marks : List Char) (escaped : Bool) : List Char → List Char
  | [] => []
  | c :: rest =>
      if c = '\\' then seekFrom marks (!escaped) rest
      else if !escaped && marks.contains c then c :: rest
      else seekFrom marks false rest

def seek (marks : List Char) (s : List Char) : List Char := seekFrom marks false s

/-- The characters at which a comment in a line ends: the line breaks, and whatever closes a place
that the comment stands in. -/
def commentEnds (places : List Place) : List Char :=
  ['\n', '\r'] ++ (if places.contains .item then [']'] else [])
    ++ (if places.contains .value then ['}'] else [])
    ++ (if places.contains .key then [':'] else [])

def skipBlock (last : Char) : List Char → List Char
  | [] => []
  | c :: rest => if last = '*' && c = '/' then rest else skipBlock c rest

/-- What follows the comment that a text begins with; a stray slash is passed over alone. -/
def skipComment (places : List Place) (s : List Char) : List Char :=
  let inside (c : Char) : Bool := !(commentEnds places).contains c
  match s with
  | '#' :: rest => rest.dropWhile inside
  | '/' :: '/' :: rest => rest.dropWhile inside
  | '/' :: '*' :: rest => skipBlock '*' rest
  | '/' :: rest => rest
  | s => s

example : seek ['"'] "a\\\"b\"c".toList = "\"c".toList := by decide +kernel
example : skipComment [.item] "# x], 1".toList = "], 1".toList := by decide +kernel

/-- How a text is enclosed, and the places it stands in, the innermost first. -/
structure Enclosure where
  opening : Char
  closing : Char
  isBare : Bool := false
  isDoubled : Bool := false
  places : List Place

namespace Enclosure

def isA (enclosure : Enclosure) (place : Place) : Bool := enclosure.places.head? == some place

def isIn (enclosure : Enclosure) (place : Place) : Bool := enclosure.places.contains place

def seekClosing (enclosure : Enclosure) (s : List Char) : List Char := seek [enclosure.closing] s

def seekOpening (enclosure : Enclosure) (s : List Char) : List Char := seek [enclosure.opening] s

end Enclosure

/-! ## Constants -/

/-- What follows a word in any capitalisation, when the text begins with it. -/
def afterWord? : List Char → List Char → Option (List Char)
  | [], s => some s
  | _, [] => none
  | w :: word, c :: rest => if c.toLower = w then afterWord? word rest else none

def constants : List (List Char × Value) := [
  ("true".toList, .bool true), ("false".toList, .bool false), ("null".toList, .null),
  ("none".toList, .null)]

def readConstant? (s : List Char) : Option (Value × List Char) :=
  constants.findSome? fun (word, value) => (afterWord? word s).map fun rest => (value, rest)

/-! ## Escapes -/

/-- A character that an escape gave, with what follows it: after a backslash, further backslashes
and closing quotes take its place. -/
def settle (closing : Char) (given : Char) : List Char → Char × List Char
  | [] => (given, [])
  | c :: rest =>
      if given = '\\' && (c = closing || c = '\\') then settle closing c rest
      else (given, c :: rest)

def readShortScalar? : List Char → Option (Char × List Char)
  | a :: b :: rest => do
      let a ← hexValue? a
      let b ← hexValue? b
      some (Char.ofNat (16 * a + b), rest)
  | _ => none

/-- The character of an escape after its backslash; other backslashes stand for themselves. -/
def readEscape? (closing : Char) : List Char → Option (Char × List Char)
  | [] => none
  | c :: rest =>
      if c = closing || c = '\\' then some (settle closing c rest)
      else if c = 't' then some ('\t', rest)
      else if c = 'n' then some ('\n', rest)
      else if c = 'r' then some ('\r', rest)
      else if c = 'b' then some ('\x08', rest)
      else if c = 'u' then readScalar rest
      else if c = 'x' then readShortScalar? rest
      else if isQuote c then some (c, rest)
      else none

/-! ## What ends a text -/

/-- Whether a word and a colon come next: the key of a further member. -/
def bareKeyFollows (s : List Char) : Bool :=
  let isPart (c : Char) : Bool := Text.isLetterOrNumeral c || c == '_' || c == '-'
  let word := skipBlanks s
  !(word.takeWhile isPart).isEmpty && beginsWith [':'] (skipBlanks (word.dropWhile isPart))

/-- Whether a comma or a brace before `after` ends the value of a member whose closing quote was
not seen yet; `read` is the text so far. It does not where the closing quote comes later and closes
the value there, or where what follows is too much to be the end of the object. -/
def separatorEnds (enclosure : Enclosure) (read after : List Char) : Bool :=
  match enclosure.seekClosing after with
  | _ :: behind =>
      if beginsWith ['\\'] after then false
      else
        let next := skipBlanks behind
        if next.isEmpty || beginsWith [',', '}'] next then false
        else
          match enclosure.seekOpening next with
          | [] => false
          | _ :: behind =>
              let next := skipBlanks behind
              next.isEmpty || beginsWith [':'] next
  | [] =>
      if !(seek [':'] after).isEmpty then true
      else if beginsWith ['\\'] after then false
      else
        let next := skipBlanks after
        let brace := seek ['}'] next
        if 1 < next.length - brace.length then false
        else brace.isEmpty || !read.contains '{'

def endsBefore (enclosure : Enclosure) (read : List Char) (c : Char) (after : List Char) : Bool :=
  (enclosure.isBare && enclosure.isA .key && (c == ':' || Text.isBlank c))
    || (enclosure.isBare && enclosure.isA .item && (c == ']' || c == ','))
    || (enclosure.isBare && enclosure.isA .value && c == ',' && bareKeyFollows after)
    || (enclosure.isA .value && (c == ',' || c == '}') && separatorEnds enclosure read after)
    || (c == ']' && enclosure.isIn .item && read.head? != some enclosure.closing
      && (enclosure.seekClosing after).isEmpty)

/-- Whether a colon before `after` ends a key whose closing quote is missing: there is no further
text in quotes, or the next one is a whole value. -/
def colonEnds (enclosure : Enclosure) (after : List Char) : Bool :=
  match enclosure.seekOpening after with
  | [] => true
  | _ :: value =>
      match enclosure.seekClosing value with
      | [] => false
      | _ :: behind => beginsWith [',', '}'] (skipBlanks behind)

inductive QuoteRole where
  | closes
  /-- It is the first of the two that close the text. -/
  | closesDoubled
  /-- It opens the key of the next member, and the text ends before the character in front. -/
  | opensKey
  /-- It belongs to the text; `isOwed` says whether another one has to follow that does too. -/
  | belongs (isOwed : Bool)

def keyFollows (enclosure : Enclosure) (after : List Char) : Bool :=
  let outside (c : Char) : Bool := c != enclosure.closing && c != enclosure.opening
  match after.dropWhile outside with
  | [] => false
  | _ :: behind => beginsWith [':'] (skipBlanks behind)

/-- The text from the next quote on, or from the first character on that ends a place around the
text. A comma ends a value as long as no letter was passed. -/
def nextBoundary (enclosure : Enclosure) (letterless : Bool) : List Char → List Char
  | [] => []
  | c :: rest =>
      let letterless := letterless && !Text.isLetter c
      if c == enclosure.closing || c == enclosure.opening
          || (enclosure.isIn .key && (c == ':' || c == '}'))
          || (enclosure.isIn .value && c == '}')
          || (enclosure.isIn .item && (c == ']' || c == ','))
          || (enclosure.isA .value && letterless && c == ',') then c :: rest
      else nextBoundary enclosure letterless rest

def reachesColon (closing last : Char) : List Char → Bool
  | [] => false
  | c :: rest =>
      if c = ':' then true
      else if c == ',' || c == ']' || c == '}' || (c = closing && last ≠ '\\') then false
      else reachesColon closing c rest

/-- Whether a quote in a value belongs to it, when the next quote stands before `behind`. -/
def roleInValue (enclosure : Enclosure) (behind : List Char) : QuoteRole :=
  let next := skipBlanks behind
  let key := match next with
    | ',' :: rest =>
        let opened := (enclosure.seekOpening rest).drop 2
        skipBlanks ((enclosure.seekClosing opened).drop 1)
    | next => next
  if beginsWith [','] next && beginsWith [':'] key then .belongs false
  else
    let text := (enclosure.seekClosing (key.drop 1)).drop 1
    if reachesColon enclosure.closing enclosure.closing text then .closes else .belongs true

/-- Whether the closing quotes before the end of the list, with those seen so far, are even in
number; `escaped` says whether a backslash stands before the text. -/
def evenlyQuoted (closing : Char) (even : Bool) (escaped : Bool) : List Char → Bool
  | [] => even
  | c :: rest =>
      if c = '\\' then evenlyQuoted closing even (!escaped) rest
      else if !escaped && c = ']' then even
      else if !escaped && c = closing then evenlyQuoted closing (!even) false rest
      else evenlyQuoted closing even false rest

def isFilled (gap : List Char) : Bool := gap.getLast? != some '\\' && !gap.all Text.isBlank

def pairedRole (enclosure : Enclosure) (after : List Char) : QuoteRole :=
  match nextBoundary enclosure true after with
  | [] => .closes
  | c :: behind =>
      if c = ',' && enclosure.isA .value then
        match enclosure.seekClosing behind with
        | [] => .closes
        | _ :: behind =>
            if beginsWith [',', '}'] (skipBlanks behind) then .belongs false else .closes
      else if c = enclosure.closing && isFilled (after.take (after.length - behind.length - 1)) then
        if enclosure.isA .value then roleInValue enclosure behind
        else if enclosure.isA .item then
          if evenlyQuoted enclosure.closing false false behind then .belongs true else .closes
        else if enclosure.isA .key then .belongs false
        else .closes
      else .closes

/-- What a closing quote before `after` means; `isOwed` says whether one that belongs to the text is
due. -/
def quoteRole (enclosure : Enclosure) (isOwed : Bool) (after : List Char) : QuoteRole :=
  if enclosure.isDoubled && beginsWith [enclosure.closing] after then .closesDoubled
  else if enclosure.isBare && enclosure.isA .value then
    if keyFollows enclosure after then .opensKey else .closes
  else if isOwed then .belongs false
  else pairedRole enclosure after

/-! ## Reading a text -/

/-- The characters of a text up to its end, the last one first, and what follows them. A step takes
at least one character, so that as many steps as there are characters in the text are enough. -/
def readBody (enclosure : Enclosure) (isOwed : Bool) (steps read s : List Char) :
    List Char × List Char :=
  match steps, s with
  | _ :: steps, c :: rest =>
      if c = enclosure.closing || endsBefore enclosure read c rest then (read, c :: rest)
      else
        match if c = '\\' then readEscape? enclosure.closing rest else none with
        | some (given, rest) => readBody enclosure isOwed steps (given :: read) rest
        | none =>
            match rest with
            | [] => (c :: read, [])
            | next :: after =>
                if next = ':' && !enclosure.isBare && enclosure.isA .key
                    && colonEnds enclosure after then (c :: read, rest)
                else if next = enclosure.closing && c ≠ '\\' then
                  match quoteRole enclosure isOwed after with
                  | .closes => (c :: read, rest)
                  | .closesDoubled => (c :: read, after)
                  | .opensKey => (c :: read, c :: rest)
                  | .belongs isOwed =>
                      readBody enclosure isOwed steps (next :: c :: read) after
                else readBody enclosure isOwed steps (c :: read) rest
  | _, s => (read, s)

def trimRead (read : List Char) : List Char := read.dropWhile Text.isBlank

/-- A text from its first character on. A key without quotes that no colon follows is no key. Blanks
at the end are dropped where the text is bare, was not closed, or ends with its line. -/
def readEnclosed (enclosure : Enclosure) (s : List Char) : Value × List Char :=
  let (read, left) := readBody enclosure false s [] s
  let isKeyBeforeBlank := enclosure.isBare && enclosure.isA .key && left.head?.any Text.isBlank
  let next := if isKeyBeforeBlank then skipBlanks left else left
  if isKeyBeforeBlank && !beginsWith [':', ','] next then (.string "", next)
  else
    let isClosed := !isKeyBeforeBlank && beginsWith [enclosure.closing] left
    let isTrimmed := enclosure.isBare || !isClosed || read.head? == some '\n'
    (.string (String.ofList (if isTrimmed then trimRead read else read).reverse),
      if isClosed then next.drop 1 else next)

/-- A text whose opening quote is followed by another one before `after`: it is empty, or doubly
quoted, or the second quote was a slip. -/
def readTwiceOpened (enclosure : Enclosure) (after : List Char) : Value × List Char :=
  let empty := (Value.string "", after)
  if (enclosure.isA .key && beginsWith [':'] after)
      || (enclosure.isA .value && beginsWith [',', '}'] after)
      || (enclosure.isA .item && beginsWith [',', ']'] after) then empty
  else if beginsWith [enclosure.opening] after then (.string "", enclosure.opening :: after)
  else if beginsWith [enclosure.closing] ((enclosure.seekClosing after).drop 1) then
    readEnclosed { enclosure with isDoubled := true } after
  else
    let next := skipBlanks after
    if next.head?.any isQuote || beginsWith ['{', '['] next then empty
    else if beginsWith [',', ']', '}'] next then
      readEnclosed enclosure (enclosure.opening :: after)
    else readEnclosed enclosure after

def Enclosure.ofQuote (places : List Place) (quote : Char) : Enclosure :=
  if quote = '\x27' then { opening := '\x27', closing := '\x27', places }
  else if quote = '“' then { opening := '“', closing := '”', places }
  else { opening := '"', closing := '"', places }

/-- The next text, whatever stands before it passed over; a bare word that is no key may be a
constant. Instead of a comment or of nothing the empty text is read. -/
def readText (places : List Place) (s : List Char) : Value × List Char :=
  if beginsWith ['#', '/'] s then (.string "", skipComment places s)
  else
    match s.dropWhile fun c => !(isQuote c || Text.isLetterOrNumeral c) with
    | [] => (.string "", [])
    | c :: rest =>
        if isQuote c then
          let enclosure := Enclosure.ofQuote places c
          match rest with
          | next :: after =>
              if next = enclosure.opening then readTwiceOpened enclosure after
              else readEnclosed enclosure rest
          | [] => readEnclosed enclosure []
        else
          match if places.head? == some .key then none else readConstant? (c :: rest) with
          | some result => result
          | none =>
              let enclosure := Enclosure.ofQuote places '"'
              readEnclosed { enclosure with isBare := true } (c :: rest)

/-! ## Numerals -/

def isNumeralPart (c : Char) : Bool := c.isDigit || "-.eE/,_".toList.contains c

def numeralValue (numeral : List Char) : Value :=
  let spelled := Value.string (String.ofList numeral)
  if numeral.contains ',' then spelled
  else if numeral.any fun c => c == '.' || c == 'e' || c == 'E' then
    ((Text.readPlainDouble? numeral).map fun x => Value.number (.double x)).getD spelled
  else
    let (negative, digits) := Text.splitSign numeral
    if digits.isEmpty || !digits.all Char.isDigit || Text.maxIntegerDigits < digits.length then
      spelled
    else .number (wholeNumber negative digits)

/-- The next numeral; underscores in it are passed over, and a comma ends it inside a list. -/
def readNumeral (places : List Place) (s : List Char) : Value × List Char :=
  let isPart (c : Char) : Bool := isNumeralPart c && !(c == ',' && places.head? == some .item)
  let taken := s.takeWhile isPart
  let numeral := taken.filter (· != '_')
  let rest := s.drop taken.length
  if rest.head?.any Text.isLetter then readText places (s.drop (taken.length - numeral.length))
  else if numeral.getLast?.any "-eE/,".toList.contains then
    (numeralValue numeral.dropLast, s.drop (taken.length - 1))
  else (numeralValue numeral, rest)

end Wireframe.Json.Lenient

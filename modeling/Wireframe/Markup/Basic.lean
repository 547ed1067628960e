import Wireframe.Text.Entity
import Wireframe.Tree
import Wireframe.Value.Display

/-! # Tags and markup

Previews and overlays share one written form: elements with attributes in double quotes, a text, and
nested elements. Attribute values and texts are escaped; trusted markup is written as it is.
-/

namespace Wireframe

structure TagHead where
  name : String
  attributes : List (String × String) := []
  /-- Trusted markup, written before the text. -/
  raw : String := ""
  text : String := ""
  /-- Whether the element has nothing inside and is written as a single tag. -/
  isVoid : Bool := false
  deriving DecidableEq

abbrev Tag := Tree TagHead

namespace TagHead

def attribute? (head : TagHead) (key : String) : Option String := head.attributes.lookup key

def attributeChars (entry : String × String) : List Char :=
  ' ' :: entry.1.toList ++ '=' :: '"' :: Text.escapeChars entry.2.toList ++ ['"']

def openingChars (head : TagHead) : List Char :=
  '<' :: head.name.toList ++ head.attributes.flatMap attributeChars

def closingChars (head : TagHead) : List Char := '<' :: '/' :: head.name.toList ++ ['>']

def innerChars (head : TagHead) : List Char :=
  head.raw.toList ++ Text.escapeChars head.text.toList

end TagHead

namespace Tag

mutual

def chars : Tag → List Char
  | .node head children =>
      if head.isVoid then head.openingChars ++ ['/', '>']
      else
        head.openingChars ++ '>' :: head.innerChars ++ charsAll children ++ head.closingChars

def charsAll : List Tag → List Char
  | [] => []
  | tag :: tags => chars tag ++ charsAll tags

end

def html (tag : Tag) : String := String.ofList (chars tag)

end Tag

/-! ## Markup

A markup node is one element: a tag, classes, attributes in order, a text of its own, inline markup
that is trusted, and child nodes. `Markup.html` writes it. A node can be written when every text is
a string or nothing and every attribute has a text (`Markup.isWritable`). -/

structure MarkupHead where
  tag : String := "div"
  classes : List String := []
  attributes : Members := []
  /-- The text of its own; a value that counts as false is none. -/
  text : Value := .null
  raw : Option String := none

abbrev Markup := Tree MarkupHead

namespace MarkupHead

def hasClass (head : MarkupHead) (name : String) : Bool := head.classes.contains name

def addClass (head : MarkupHead) (name : String) : MarkupHead :=
  { head with classes := head.classes ++ [name] }

def setAttribute (head : MarkupHead) (key value : String) : MarkupHead :=
  { head with attributes := head.attributes.put key (.string value) }

theorem value?_setAttribute (head : MarkupHead) (key value key' : String) :
    (head.setAttribute key value).attributes.value? key' =
      if key = key' then some (.string value) else head.attributes.value? key' :=
  Members.value?_put _ _ _ _

def shownText (head : MarkupHead) : String := head.text.string?.getD ""

/-- Whether the text is a string, or nothing, and every attribute has a text. -/
def isWritable (head : MarkupHead) : Bool :=
  (head.text.string?.isSome || !head.text.truthy)
    && head.attributes.all fun (_, value) => value.isWritable

/-- The attributes of the written tag: the classes first, where there are any. -/
def tagAttributes (head : MarkupHead) : List (String × String) :=
  (if head.classes.isEmpty then [] else [("class", " ".intercalate head.classes)])
    ++ head.attributes.map fun (key, value) => (key, value.fullText)

def toTagHead (head : MarkupHead) : TagHead where
  name := head.tag
  attributes := head.tagAttributes
  raw := head.raw.getD ""
  text := head.shownText

end MarkupHead

namespace Markup

def leaf (head : MarkupHead) : Markup := .node head []

def toTag (node : Markup) : Tag := node.map MarkupHead.toTagHead

def isWritable (node : Markup) : Bool := node.preorder.all MarkupHead.isWritable

def html (node : Markup) : String := node.toTag.html

def textContent (node : Markup) : String :=
  String.join (node.preorder.map MarkupHead.shownText)

def findAll (node : Markup) (name : String) : List Markup :=
  node.subtrees.filter fun n => n.label.hasClass name

def find? (node : Markup) (name : String) : Option Markup :=
  node.subtrees.find? fun n => n.label.hasClass name

end Markup

end Wireframe

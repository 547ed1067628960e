import Wireframe.Plan.Basic
import Wireframe.Plan.Token
import Wireframe.Text.Basic
import Wireframe.Value.Display

/-! # Building plans

The primitives that the element rules put together: texts, buttons, images, icons, containers. A
value that is looked up by name must be able to be a key; a name that is not in the table gets the
entry of the default.
-/

namespace Wireframe

inductive ResolveError where
  | notAKey (value : Value)
  | infiniteIndex
  /-- An integer with too many digits stands where a text is shown. -/
  | overlong

/-- The entry of a value in a table: only a string can have one. -/
def Table.find? {α : Type} (table : Table α) (key : Value) : Except ResolveError (Option α) :=
  match key with
  | .string name => .ok (table.entry? name)
  | key => if key.isKey then .ok none else .error (.notAKey key)

def Table.findOr {α : Type} (table : Table α) (key : Value) (default : α) :
    Except ResolveError α :=
  (table.find? key).map (·.getD default)

/-- The index that a value stands for: a number without its fraction, a boolean as 0 or 1, a string
that holds an integer; 0 for anything else. -/
def Value.index : Value → Except ResolveError Int
  | .number (.int n) => .ok n
  | .number (.double (.infinite _)) => .error .infiniteIndex
  | .number (.double x) => .ok (x.truncate?.getD 0)
  | .bool b => .ok (if b then 1 else 0)
  | .string s => .ok ((Text.readIndex? s).getD 0)
  | _ => .ok 0

/-- The texts of the items of a list, or the default for any other value. -/
def Value.texts (v : Value) (default : List String) : Except ResolveError (List String) :=
  match v with
  | .list items => items.mapM (Value.display .overlong)
  | _ => .ok default

namespace Plan

/-- A text style of the tables; an unknown name keeps its name and gets the body's size. -/
def textStyle (style : Value) (color weight : Option String) : Except ResolveError TextStyle := do
  let (size, usualWeight) ← Table.findOr Token.textStyles style (14, "Regular")
  let usualColor := if Token.mutedStyles.any style.is then "textMuted" else "text"
  return { style, size, weight := weight.getD usualWeight, color := color.getD usualColor }

def knownStyle (style : String) (color weight : Option String) : TextStyle :=
  let (size, usualWeight) := (Token.textStyles.entry? style).getD (14, "Regular")
  let usualColor := if Token.mutedStyles.contains style then "textMuted" else "text"
  { style := .string style, size, weight := weight.getD usualWeight
    color := color.getD usualColor }

structure TextOptions where
  color : Option String := none
  weight : Option String := none
  sizing : Sizing := .fill
  extra : Members := []

private def textNode (content : String) (style : TextStyle) (role : String) (sizing : Sizing)
    (extra : Members) : Plan :=
  leaf {
    kind := .text
    elementType := "text"
    role
    props := ("content", .string content) :: ("style", style.style) :: extra
    textStyle := some style
    layout := { widthSizing := sizing } }

def text (content style role : String) (options : TextOptions) : Plan :=
  textNode content (knownStyle style options.color options.weight) role options.sizing
    options.extra

def styledText (content : String) (style : Value) (role : String) : Except ResolveError Plan := do
  return textNode content (← textStyle style none none) role .fill []

def buttonPaint (variant : Value) : Paint :=
  if variant.is "primary" then
    { fill := some "primary", cornerRadius := Token.radiusMedium }
  else if variant.is "outline" then
    { stroke := some "primary", strokeWeight := 2, cornerRadius := Token.radiusMedium }
  else { fill := some "surface", cornerRadius := Token.radiusMedium }

def button (content : String) (variant : Value) (role : String) (sizing : Sizing)
    (extra : Members) : Plan :=
  leaf {
    kind := .button
    elementType := "button"
    role
    props := ("content", .string content) :: ("variant", variant) :: extra
    textStyle := some {
      style := .string "button", size := 15, weight := "Semi Bold", color := "text"
      align := .center }
    paint := buttonPaint variant
    layout := {
      direction := some .horizontal, padding := (14, 24), align := .center, crossAlign := .center
      widthSizing := sizing } }

def imageRadius (shape : Value) (isBanner : Bool) (width height : Nat) : Number :=
  if shape.is "circle" then .double (Double.ofRat (mkRat (min width height) 2))
  else if shape.is "square" then 0
  else if isBanner then Token.radiusLarge
  else Token.radiusMedium

def image (size : Value) (role label : String) (shape : Value) : Except ResolveError Plan := do
  let (width, height) ← Table.findOr Token.imageSizes size (72, 72)
  let isBanner := size.is "banner"
  return leaf {
    kind := .image
    elementType := "image"
    role
    props := [("size", size), ("label", .string label), ("shape", shape)]
    paint := {
      gradient := some ("primary", "secondary")
      gradientAlpha := (Token.thousandths 300, Token.thousandths 200)
      cornerRadius := imageRadius shape isBanner width height }
    layout := {
      widthSizing := if isBanner then .fill else .fixed
      heightSizing := .fixed
      width := some (.int width)
      height := some (.int height) } }

private def iconNode (name : Value) (role : String) (label size : Value) (color : String)
    (edge : Number) : Plan :=
  leaf {
    kind := .icon
    elementType := "icon"
    role
    props := [("name", name), ("label", label), ("size", size)]
    textStyle := some (knownStyle "label" (some color) none)
    layout := {
      direction := some .horizontal
      gap := Token.spacingExtraSmall
      crossAlign := .center
      widthSizing := if label.truthy then .hug else .fixed
      heightSizing := .fixed
      width := if label.truthy then none else some edge
      height := some edge } }

def icon (name : String) (role color : String) : Plan :=
  iconNode (.string name) role .null (.string "medium") color 20

def labelledIcon (name label size : Value) : Except ResolveError Plan := do
  return iconNode name "icon" label size "text" (← Table.findOr Token.iconSizes size 20)

def container (role : String) (elementType : String) (children : List Plan) (paint : Paint)
    (layout : Layout) (props : Members) : Plan :=
  .node { kind := .container, elementType, role, props, paint, layout } children

end Plan

end Wireframe

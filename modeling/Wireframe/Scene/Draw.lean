import Wireframe.Plan.Basic
import Wireframe.Scene.Basic
import Wireframe.Text.Case
import Wireframe.Value.Display

/-! # The scene target

Plans drawn as nodes of a scene. A text can be drawn only once the fonts are there; colours are
looked up in the palette.
-/

namespace Wireframe

inductive SceneError where
  | fontsNotLoaded
  | unknownColor (token : String)
  | noLeaf
  /-- An integer with too many digits stands where a text is shown. -/
  | overlong

def SceneError.message : SceneError → String
  | fontsNotLoaded => "load_fonts() must complete before text nodes are created"
  | unknownColor token => "Unknown colour: " ++ token
  | noLeaf => "No native leaf for plan kind PlanKind.CONTAINER"
  | overlong => Text.overlongMessage

namespace Scene

/-- What drawing depends on besides the plan. -/
structure Pen where
  fontFamily : String
  fontsLoaded : Bool

def color (token : String) : Except SceneError Token.Color :=
  match Token.colors.entry? token with
  | some color => .ok color
  | none => .error (.unknownColor token)

def solid (token : String) (opacity : Number) : Except SceneError ScenePaint :=
  (color token).map (ScenePaint.solid · opacity)

/-- The fills of a paint: a gradient, or else a solid fill. -/
def fills (paint : Paint) : Except SceneError (List ScenePaint) :=
  match paint.gradient, paint.fill with
  | some (first, last), _ => do
      let first ← color first
      let last ← color last
      return [.gradient [⟨0, first, paint.gradientAlpha.1⟩, ⟨1, last, paint.gradientAlpha.2⟩]]
  | none, some fill => return [← solid fill paint.fillOpacity]
  | none, none => return []

def strokes (paint : Paint) : Except SceneError (List ScenePaint) :=
  match paint.stroke with
  | some stroke => return [← solid stroke 1]
  | none => return []

def painted (name : Value) (paint : Paint) (children : List Scene) : Except SceneError Scene := do
  let fills ← fills paint
  let strokes ← strokes paint
  let strokeWeight := if paint.stroke.isSome then paint.strokeWeight else 0
  return .frame { name, fills, strokes, strokeWeight } { cornerRadius := paint.cornerRadius }
    children

def usualStyle : TextStyle where
  style := .string "body"
  size := 14
  weight := "Regular"
  color := "text"

def textNode (pen : Pen) (characters : Value) (style : Option TextStyle) :
    Except SceneError Scene := do
  if !pen.fontsLoaded then throw .fontsNotLoaded
  let style := style.getD usualStyle
  return .text { name := characters, fills := [← solid style.color 1] }
    { characters, fontSize := style.size, font := ⟨pen.fontFamily, style.weight⟩
      align := style.align }

def button (pen : Pen) (head : PlanHead) : Except SceneError Scene := do
  let paint : Paint :=
    if head.role = "card-action" then
      { fill := some "primary", cornerRadius := Token.radiusMedium }
    else head.paint
  let frame ← painted (.string "Button") paint []
  let text ← textNode pen (head.propOr "content" (.string "Button")) head.textStyle
  return match frame with
    | .frame box style _ => .frame box style [text]
    | node => node

def input (pen : Pen) (head : PlanHead) : Except SceneError Scene := do
  let frame ← painted (.string "Input") head.paint []
  let text ← textNode pen (head.propOr "placeholder" (.string "")) head.textStyle
  let text := text.mapBox ({ · with sizingHorizontal := .fill })
  return match frame with
    | .frame box style _ => .frame box style [text]
    | node => node

def image (head : PlanHead) : Except SceneError Scene :=
  let label := head.prop "label"
  painted (if label.truthy then label else .string "Image") head.paint []

/-- A given edge; none or zero gives the usual one. -/
def iconEdge (height : Option Number) : Number :=
  match height with
  | some edge => if edge.isZero then 20 else edge
  | none => 20

def icon (pen : Pen) (head : PlanHead) : Except SceneError Scene := do
  let edge := iconEdge head.layout.height
  let name ← (head.prop "name").display .overlong
  let stroke ← solid ((head.textStyle.map (·.color)).getD "text") 1
  let glyph : Scene :=
    .frame {
      name := .string ("Icon/" ++ name)
      strokes := [stroke], strokeWeight := 2, width := edge, height := edge } {} []
  let label := head.prop "label"
  if label.truthy then
    let shown ← label.display .overlong
    let text ← textNode pen (.string shown) head.textStyle
    return .frame { name := .string "Icon" } {} [glyph, text]
  else return glyph

def divider : Except SceneError Scene :=
  return .line { name := .string "Divider", strokes := [← solid "border" 1], strokeWeight := 1 }

def switch (head : PlanHead) : Except SceneError Scene := do
  let frame ← painted (.string "Switch") head.paint []
  let knob : Scene :=
    .frame { name := .string "Knob", fills := [← solid "text" 1], width := 20, height := 20 }
      { cornerRadius := 10 } []
  return match frame with
    | .frame box style _ =>
        .frame box
          { style.pad 2 2 with
            direction := some .horizontal
            primaryAlign := if (head.prop "checked").truthy then .max else .min
            counterAlign := .center }
          [knob]
    | node => node

def leaf (pen : Pen) (head : PlanHead) : Except SceneError Scene :=
  match head.kind with
  | .text => textNode pen (head.propOr "content" (.string "")) head.textStyle
  | .button => button pen head
  | .input => input pen head
  | .image => image head
  | .icon => icon pen head
  | .divider => divider
  | .spacer => .ok (.frame { name := .string "Spacer" } {} [])
  | .switch => switch head
  | .container => .error .noLeaf

def frameNames : Table String := [
  ("box", "Box"),
  ("card", "Card"),
  ("card-content", "Content"),
  ("list-item", "List Item"),
  ("list-content", "Content"),
  ("stat", "Stat"),
  ("navbar", "Navigation Bar"),
  ("nav-item", "Nav Item"),
  ("header", "Header"),
  ("tabs", "Tabs"),
  ("toggle", "Toggle")]

/-- The name of a container's frame: its role in title case where it has none of its own. -/
def frameName (role : String) : String :=
  (frameNames.entry? role).getD
    (Text.titleCase (role.map fun c => if c = '-' then ' ' else c))

/-- A size that a layout asks for; none or zero keeps what the node has. -/
def sizeOr (asked : Option Number) (current : Number) : Number :=
  match asked with
  | some size => if size.isZero then current else size
  | none => current

def arrange (layout : Layout) (style : FrameStyle) : FrameStyle :=
  match layout.direction with
  | none => style
  | some direction =>
      { style.pad layout.padding.1 layout.padding.2 with
        direction := some direction
        primaryAlign := .ofAlign layout.align
        counterAlign := .ofAlign layout.crossAlign
        itemSpacing := layout.gap }

def measure (layout : Layout) (box : SceneBox) : SceneBox :=
  { box with
    width := sizeOr layout.width box.width
    height := sizeOr layout.height box.height
    sizingHorizontal := layout.widthSizing
    sizingVertical := layout.heightSizing }

def target (pen : Pen) : Target SceneError Scene where
  leaf := leaf pen
  container head nodes := painted (.string (frameName head.role)) head.paint nodes
  layout head node := (node.mapStyle (arrange head.layout)).mapBox (measure head.layout)

end Scene

end Wireframe

import Wireframe.Flow.Path
import Wireframe.Spec.Normal

/-! # Routes

Every edge whose two ends name a screen becomes a path; the others are dropped. Where several
screens share an id the last one is meant. A label stands beside the middle of its edge.
-/

namespace Wireframe.Flow

structure LabelBox (α : Type) where
  x : α
  y : α
  width : α
  height : α
  cornerRadius : α

structure Label (α : Type) where
  x : α
  y : α
  text : String
  box : LabelBox α

structure Path (α : Type) where
  commands : List (Command α)
  source : String
  target : String
  direction : FlowDirection
  points : List (Point α)
  label : Option (Label α)

def startMarker : String := "arrow-start-dot"

def endMarker : String := "arrow-head"

variable {α : Type} [Scalar α]

/-- Places a text beside an edge, its width estimated from the width of a character. -/
def placeLabel (text : String) (start finish : Point α) (direction : FlowDirection)
    (charWidth : α) : Calculation (Label α) := do
  let x ← if direction.isVertical then Scalar.add start.x (Scalar.whole 10)
    else midpoint start.x finish.x
  let y ← if direction.isVertical then midpoint start.y finish.y
    else Scalar.sub start.y (Scalar.whole 10)
  let left ← Scalar.sub x (Scalar.whole 4)
  let top ← Scalar.sub y (Scalar.whole 14)
  let textWidth ← Scalar.mul (Scalar.whole text.length) charWidth
  let width ← Scalar.add textWidth (Scalar.whole 8)
  let box : LabelBox α := ⟨left, top, width, Scalar.whole 20, Scalar.whole 4⟩
  return ⟨x, y, text, box⟩

/-- The screen that an id names: the last one with it. -/
def rect? (rects : List (Rect α)) (id : Option String) : Option (Rect α) :=
  id.bind fun id => rects.reverse.find? fun r => r.id == id

structure Style (α : Type) where
  radius : α
  charWidth : α

def path (style : Style α) (edge : FlowEdge) (source target : Rect α) :
    Calculation (Path α) := do
  let ends ← anchors source target
  let points ← bends ends.start ends.finish ends.direction
  let label ← (nonempty? edge.label).mapM fun text =>
    placeLabel text ends.start ends.finish ends.direction style.charWidth
  return {
    commands := ← roundedPath style.radius points
    source := source.id
    target := target.id
    direction := ends.direction
    points
    label }

/-- The paths of the edges whose ends both name a screen, in edge order. -/
def route (style : Style α) (rects : List (Rect α)) :
    List FlowEdge → Calculation (List (Path α))
  | [] => .ok []
  | edge :: edges =>
      match rect? rects edge.source, rect? rects edge.target with
      | some source, some target => do
          let here ← path style edge source target
          let more ← route style rects edges
          return here :: more
      | _, _ => route style rects edges

/-- The rectangles of the screens that have an id; a screen without a place takes its grid slot. -/
def screenRects (spec : Spec α) (width height : α) : List (Rect α) :=
  (spec.screens.mapIdx fun i screen =>
    (nonempty? screen.id).map fun id =>
      let place := screen.position.getD (Grid.place α i)
      { id, x := place.x, y := place.y, width, height }).filterMap (fun rect => rect)

end Wireframe.Flow

import Wireframe.Scalar

/-! # Screens on the canvas

Screens are axis-aligned rectangles. An edge leaves one on the side that faces the other, enters the
other on the opposite side, and bends halfway between. Everything here is written for any `Scalar`,
and fails only where an operation on the coordinates does.
-/

namespace Wireframe

structure Rect (α : Type) where
  id : String
  x : α
  y : α
  width : α
  height : α

inductive FlowDirection where
  | right
  | left
  | down
  | up
  deriving DecidableEq

namespace FlowDirection

def name : FlowDirection → String
  | right => "right"
  | left => "left"
  | down => "down"
  | up => "up"

def named? (name : String) : Option FlowDirection :=
  [right, left, down, up].find? fun direction => direction.name == name

def isVertical : FlowDirection → Bool
  | down => true
  | up => true
  | _ => false

def opposite : FlowDirection → FlowDirection
  | right => left
  | left => right
  | down => up
  | up => down

end FlowDirection

variable {α : Type} [Scalar α]

namespace Rect

def centerX (r : Rect α) : Calculation α := do Scalar.add r.x (← Scalar.half r.width)

def centerY (r : Rect α) : Calculation α := do Scalar.add r.y (← Scalar.half r.height)

def right (r : Rect α) : Calculation α := Scalar.add r.x r.width

def bottom (r : Rect α) : Calculation α := Scalar.add r.y r.height

def side (r : Rect α) : FlowDirection → Calculation (Point α)
  | .right => do return ⟨← r.right, ← r.centerY⟩
  | .left => do return ⟨r.x, ← r.centerY⟩
  | .down => do return ⟨← r.centerX, ← r.bottom⟩
  | .up => do return ⟨← r.centerX, r.y⟩

end Rect

namespace Flow

/-- The direction from one screen to another: along the axis on which their centres are farther
apart, vertical when they are equally far. -/
def direction (source target : Rect α) : Calculation FlowDirection := do
  let dx ← Scalar.sub (← target.centerX) (← source.centerX)
  let dy ← Scalar.sub (← target.centerY) (← source.centerY)
  if ← Scalar.isFarther dx dy then
    return if Scalar.lt (Scalar.whole 0) dx then .right else .left
  else return if Scalar.lt (Scalar.whole 0) dy then .down else .up

structure Anchors (α : Type) where
  start : Point α
  finish : Point α
  direction : FlowDirection

/-- An edge leaves the middle of the side that faces the target and enters the middle of the
opposite side. -/
def anchors (source target : Rect α) : Calculation (Anchors α) := do
  let direction ← direction source target
  return ⟨← source.side direction, ← target.side direction.opposite, direction⟩

def midpoint (a b : α) : Calculation α := do Scalar.half (← Scalar.add a b)

/-- The four points of an edge: it bends twice, halfway along its direction. -/
def bends (start finish : Point α) (direction : FlowDirection) : Calculation (List (Point α)) := do
  if direction.isVertical then
    let y ← midpoint start.y finish.y
    return [start, ⟨start.x, y⟩, ⟨finish.x, y⟩, finish]
  else
    let x ← midpoint start.x finish.x
    return [start, ⟨x, start.y⟩, ⟨x, finish.y⟩, finish]

end Flow

end Wireframe

import Wireframe.Flow.Geometry

/-! # Path data

A polyline with its corners rounded, as drawing commands and as the text of an SVG path. A corner
is rounded by a curve that begins and ends one radius away from it, when both segments that meet
there are at least twice the radius long; otherwise it stays sharp.
-/

namespace Wireframe.Flow

inductive Command (α : Type) where
  | move (target : Point α)
  | line (target : Point α)
  | curve (control target : Point α)

variable {α : Type} [Scalar α]

def written (p : Point α) : Calculation (Point α) :=
  if Scalar.isWritable p.x && Scalar.isWritable p.y then .ok p else .error .beyondDoubles

/-- How far to go along one component of a vector of some length to cover a distance. -/
def advance (component length distance : α) : Calculation α := do
  Scalar.mul (← Scalar.div component length) distance

/-- The point at a distance from `corner` on the way that a vector of some length points. -/
def along (corner : Point α) (dx dy length distance : α) : Calculation (Point α) := do
  let x ← Scalar.add corner.x (← advance dx length distance)
  let y ← Scalar.add corner.y (← advance dy length distance)
  return ⟨x, y⟩

def before (corner : Point α) (dx dy length distance : α) : Calculation (Point α) := do
  let x ← Scalar.sub corner.x (← advance dx length distance)
  let y ← Scalar.sub corner.y (← advance dy length distance)
  return ⟨x, y⟩

/-- The commands at a corner between its neighbours. Next to a segment without length there is no
direction to follow, so a rounded corner there has no commands. -/
def corner (radius : α) (previous corner next : Point α) : Calculation (List (Command α)) := do
  let dx₁ ← Scalar.sub corner.x previous.x
  let dy₁ ← Scalar.sub corner.y previous.y
  let dx₂ ← Scalar.sub next.x corner.x
  let dy₂ ← Scalar.sub next.y corner.y
  let length₁ ← Scalar.length dx₁ dy₁
  let length₂ ← Scalar.length dx₂ dy₂
  let needed ← Scalar.mul radius (Scalar.whole 2)
  if Scalar.lt length₁ needed || Scalar.lt length₂ needed then return [.line (← written corner)]
  else
    let start ← before corner dx₁ dy₁ length₁ radius
    let finish ← along corner dx₂ dy₂ length₂ radius
    return [.line (← written start), .curve (← written corner) (← written finish)]

def rest (radius : α) : Point α → List (Point α) → Calculation (List (Command α))
  | _, [] => .ok []
  | _, [last] => do return [.line (← written last)]
  | previous, point :: next :: points => do
      let here ← corner radius previous point next
      let more ← rest radius point (next :: points)
      return here ++ more

/-- The commands through a list of points. A single point is a line to itself. -/
def roundedPath (radius : α) : List (Point α) → Calculation (List (Command α))
  | [] => .ok []
  | [only] => do
      let only ← written only
      return [.move only, .line only]
  | first :: points => do
      let first ← written first
      let more ← rest radius first points
      return .move first :: more

def pointWords (p : Point Number) : List String := [p.x.compact, p.y.compact]

def Command.words : Command Number → List String
  | .move target => "M" :: pointWords target
  | .line target => "L" :: pointWords target
  | .curve control target => "Q" :: pointWords control ++ pointWords target

def pathText (commands : List (Command Number)) : String :=
  " ".intercalate (commands.flatMap Command.words)

end Wireframe.Flow

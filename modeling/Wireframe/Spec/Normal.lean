import Wireframe.Spec.Basic

/-! # Normal specs

`Spec.ensureIds` fills in what a producer left out: screen ids, positions on a grid, and the ids of
top-level elements. `Spec.mergeUpdate` applies an edit: a screen that comes without a position stays
where the current document has it.
-/

namespace Wireframe

/-! ## The default grid: three columns from an origin, counted row by row -/

namespace Grid

/-- The slot of the screen at an index, in whole units. -/
def slot (index : Int) : Int × Int :=
  (100 + (index.fmod 3) * 400, 100 + (index.fdiv 3) * 700)

def place (α : Type) [Scalar α] (index : Int) : Point α :=
  ⟨Scalar.coordinate (slot index).1, Scalar.coordinate (slot index).2⟩

end Grid

/-- The id of the element at a 1-based number on a screen that gives it none. -/
def elementId (screenId : String) (number : Nat) : String := s!"{screenId}-el-{number}"

variable {α : Type}

def Element.ensureId (screenId : String) (index : Nat) (e : Element) : Element :=
  match nonempty? e.id with
  | some _ => e
  | none => e.withId (elementId screenId (index + 1))

namespace Screen

/-- The id of a screen, or the one for its place in the document. -/
def idAt (index : Nat) (s : Screen α) : String :=
  (nonempty? s.id).getD s!"screen-{index + 1}"

def ensureIds [Scalar α] (index : Nat) (s : Screen α) : Screen α where
  id := some (s.idAt index)
  name := s.name
  position := some (s.position.getD (Grid.place α index))
  elements := s.elements.mapIdx fun i e => e.ensureId (s.idAt index) i

end Screen

namespace Spec

/-- The spec with ids and positions filled in; nested elements are left as they are. -/
def ensureIds [Scalar α] (spec : Spec α) : Spec α :=
  { spec with screens := spec.screens.mapIdx fun i s => s.ensureIds i }

/-- Where the current document has the screen of an update: found by id, else by index. -/
def currentScreen? (current : Spec α) (index : Nat) (s : Screen α) : Option (Screen α) :=
  match (nonempty? s.id).bind current.screen? with
  | some found => some found
  | none => current.screens[index]?

def keepPosition (current : Spec α) (index : Nat) (s : Screen α) : Screen α :=
  match s.position with
  | some _ => s
  | none => { s with position := (current.currentScreen? index s).bind Screen.position }

/-- The update with the positions of the current document, normalised. -/
def mergeUpdate [Scalar α] (current : Option (Spec α)) (updated : Spec α) : Spec α :=
  match current with
  | none => updated.ensureIds
  | some current =>
      { updated with screens := updated.screens.mapIdx current.keepPosition }.ensureIds

end Spec

example : Grid.slot 4 = (500, 800) ∧ Grid.slot (-4) = (900, -1300) := by decide

end Wireframe

import Wireframe.Tree
import Wireframe.Value.Basic
import Wireframe.Scalar

/-! # Specs

A spec is a wireframe document: screens that hold trees of elements, and flow edges between screens.
What an element is made of is open: besides type, id and children it carries whatever props its
producer wrote, in their order. Screens are placed by points over any scalar; the documents that
are read and written have `Number` coordinates.
-/

namespace Wireframe

/-- An id that says something: the empty string is no id. -/
def nonempty? (id : Option String) : Option String := id.filter (· != "")

structure ElementHead where
  type : String
  id : Option String
  props : Members

abbrev Element := Tree ElementHead

structure Screen (α : Type) where
  id : Option String
  name : String
  position : Option (Point α)
  elements : List Element

structure FlowEdge where
  source : Option String
  target : Option String
  label : Option String
  type : Option String
  deriving DecidableEq

structure Spec (α : Type) where
  appName : String
  screens : List (Screen α)
  flows : List FlowEdge

namespace Element

def type (e : Element) : String := e.label.type

def id (e : Element) : Option String := e.label.id

def props (e : Element) : Members := e.label.props

def withId (e : Element) (id : String) : Element := e.mapRoot ({ · with id := some id })

mutual

def toValue : Element → Value
  | .node head children =>
      .object (("type", .string head.type) :: ("id", (head.id.map Value.string).getD .null)
        :: ("children", .list (toValues children)) :: head.props)

def toValues : List Element → List Value
  | [] => []
  | e :: es => toValue e :: toValues es

end

def toMembers (e : Element) : Members :=
  ("type", .string e.type) :: ("id", (e.id.map Value.string).getD .null)
    :: ("children", .list (toValues e.children)) :: e.props

def prop (e : Element) (name : String) : Value := e.toMembers.value name

/-- The value of a prop, or a default where it is absent or null. -/
def propOr (e : Element) (name : String) (default : Value) : Value :=
  if (e.prop name).isNull then default else e.prop name

end Element

namespace Spec

variable {α : Type}

/-- The first screen whose id field is as given. -/
def screenWith? (spec : Spec α) (id : Option String) : Option (Screen α) :=
  spec.screens.find? fun screen => screen.id == id

def screen? (spec : Spec α) (id : String) : Option (Screen α) := spec.screenWith? (some id)

/-- How many top-level elements the screens hold. -/
def elementCount (spec : Spec α) : Nat := (spec.screens.flatMap (·.elements)).length

end Spec

@[simp] theorem nonempty?_none : nonempty? none = none := rfl

theorem nonempty?_some (s : String) : nonempty? (some s) = if s = "" then none else some s := by
  by_cases h : s = "" <;> simp [nonempty?, h]

end Wireframe

import Wireframe.Spec.Normal
import Wireframe.Value.Coerce

/-! # Reading specs

A spec is read from the object that a document holds. Numbers stand for texts where a name or an id
is asked for, null stands for an empty collection, keys that a screen or the spec does not know are
passed over, and keys that an element does not know become its props. All faults are listed, fields
in the order of the type and items by index.
-/

namespace Wireframe

def Value.asMembers : Value → Checked Members
  | .object members => .ok members
  | _ => Checked.fault .notObject

/-- A field: absent gives the default, a fault is located by the key. -/
def Members.field {α : Type} (members : Members) (key : String) (default : α)
    (read : Value → Checked α) : Checked α :=
  match members.value? key with
  | some value => Checked.under (.key key) (read value)
  | none => .ok default

/-- A field with a second name; the first name wins where both are present. -/
def Members.fieldNamed {α : Type} (members : Members) (key other : String) (default : α)
    (read : Value → Checked α) : Checked α :=
  if members.has key then members.field key default read
  else members.field other default read

def Value.asList : Value → Checked (List Value)
  | .null => .ok []
  | .list items => .ok items
  | _ => Checked.fault .notList

def Value.asListOf {α : Type} (read : Value → Checked α) (v : Value) : Checked (List α) :=
  match v.asList with
  | .ok items => Checked.each read 0 items
  | .error faults => .error faults

namespace Element

def propsOf (members : Members) : Members :=
  members.filter fun entry => !(entry.1 == "type" || entry.1 == "id" || entry.1 == "children")

def readHead (members : Members) : Checked ElementHead :=
  Checked.both (fun type id => ⟨type, id, propsOf members⟩)
    (members.field "type" "" Value.asLooseString)
    (members.field "id" none Value.asOptionalString)

mutual

def read : Value → Checked Element
  | .object members =>
      Checked.both Tree.node (readHead members) (Checked.under (.key "children")
        (readChildren members))
  | _ => Checked.fault .notObject

def readChildren : List (String × Value) → Checked (List Element)
  | [] => .ok []
  | (key, value) :: rest => if key = "children" then readCollection value else readChildren rest

def readCollection : Value → Checked (List Element)
  | .null => .ok []
  | .list items => readItems 0 items
  | _ => Checked.fault .notList

def readItems (index : Nat) : List Value → Checked (List Element)
  | [] => .ok []
  | item :: items =>
      Checked.both List.cons (Checked.under (.index index) (read item))
        (readItems (index + 1) items)

end

end Element

/-- A place on the canvas; a coordinate that is left out is 0. -/
def Point.read (v : Value) : Checked (Point Number) := do
  let members ← v.asMembers
  Checked.both Point.mk
    (members.field "x" (.int 0) fun v => v.asDouble.map Number.double)
    (members.field "y" (.int 0) fun v => v.asDouble.map Number.double)

/-- The place of the screen at any index; a slot beyond the range of the doubles is none. -/
def Grid.position (index : Int) : Checked (Point Number) :=
  let (x, y) := slot index
  Point.read (.object [("x", .int x), ("y", .int y)])

def Point.readOptional : Value → Checked (Option (Point Number))
  | .null => .ok none
  | v => (Point.read v).map some

def Screen.read (v : Value) : Checked (Screen Number) := do
  let members ← v.asMembers
  Checked.ap (Checked.ap (Checked.both (fun id name position elements =>
      ⟨id, name, position, elements⟩)
    (members.field "id" none Value.asOptionalString)
    (members.field "name" "" Value.asLooseString))
    (members.field "position" none Point.readOptional))
    (members.field "elements" [] Element.readCollection)

def FlowEdge.read (v : Value) : Checked FlowEdge := do
  let members ← v.asMembers
  Checked.ap (Checked.ap (Checked.both (fun source target label type =>
      ⟨source, target, label, type⟩)
    (members.fieldNamed "from" "from_" none Value.asOptionalString)
    (members.field "to" none Value.asOptionalString))
    (members.field "label" none Value.asOptionalString))
    (members.field "type" none Value.asOptionalString)

def Spec.read (v : Value) : Checked (Spec Number) := do
  let members ← v.asMembers
  Checked.ap (Checked.both (fun appName screens flows => ⟨appName, screens, flows⟩)
    (members.fieldNamed "appName" "app_name" "" Value.asString)
    (members.field "screens" [] (Value.asListOf Screen.read)))
    (members.field "flows" [] (Value.asListOf FlowEdge.read))

end Wireframe

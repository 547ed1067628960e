import Wireframe.Spec.Basic
import Wireframe.Json.Encode

/-! # Writing specs

A spec is written as the object that producers write: the fields in the order of the types under
their producer-facing names, then the props of an element. A field or prop without a value is left
out; a null inside a prop's value stays.
-/

namespace Wireframe

/-- A field that is written only when it has a value. -/
def optionalField (key : String) (value : Option String) : Members :=
  match value with
  | some s => [(key, .string s)]
  | none => []

namespace Element

mutual

def write : Element → Value
  | .node head children =>
      .object (("type", .string head.type) :: optionalField "id" head.id
        ++ ("children", .list (writeAll children))
          :: head.props.filter fun entry => !entry.2.isNull)

def writeAll : List Element → List Value
  | [] => []
  | e :: es => write e :: writeAll es

end

end Element

def Point.write (p : Point Number) : Value := .object [("x", .number p.x), ("y", .number p.y)]

def Screen.write (s : Screen Number) : Value :=
  .object (optionalField "id" s.id ++ [("name", .string s.name)]
    ++ (match s.position with | some p => [("position", p.write)] | none => [])
    ++ [("elements", .list (Element.writeAll s.elements))])

def FlowEdge.write (f : FlowEdge) : Value :=
  .object (optionalField "from" f.source ++ optionalField "to" f.target
    ++ optionalField "label" f.label ++ optionalField "type" f.type)

def Spec.write (spec : Spec Number) : Value :=
  .object [("appName", .string spec.appName), ("screens", .list (spec.screens.map Screen.write)),
    ("flows", .list (spec.flows.map FlowEdge.write))]

def Spec.dump (spec : Spec Number) (indent : Int) : Except Json.EncodeError String :=
  Json.dump spec.write indent

end Wireframe

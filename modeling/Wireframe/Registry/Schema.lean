import Wireframe.Spec.Basic
import Wireframe.Value.Display

/-! # Component schemas

The documented contract of an element type: which props it has, of which kind, and which of them
must be present. Defaults are documentation; what an element resolves to has defaults of its own.
-/

namespace Wireframe

inductive PropKind where
  | string
  | enum
  | boolean
  | number
  | array
  deriving DecidableEq

def PropKind.name : PropKind → String
  | string => "string"
  | enum => "enum"
  | boolean => "boolean"
  | number => "number"
  | array => "array"

structure PropSchema where
  name : String
  kind : PropKind
  required : Bool := false
  choices : Option (List String) := none
  default : Value := .null
  description : String := ""

/-- The values of an enumeration between bars, or the kind, in parentheses. -/
def PropSchema.summary (prop : PropSchema) : String :=
  match prop.kind, prop.choices with
  | .enum, some (choice :: choices) => "(" ++ "|".intercalate (choice :: choices) ++ ")"
  | kind, _ => "(" ++ kind.name ++ ")"

structure ComponentSchema where
  typeName : String
  name : String
  description : String
  props : List PropSchema

/-- The names of the props that must be present, in schema order. -/
def ComponentSchema.requiredProps (schema : ComponentSchema) : List String :=
  (schema.props.filter (·.required)).map (·.name)

abbrev Registry := List ComponentSchema

namespace Registry

def types (registry : Registry) : List String := registry.map (·.typeName)

def schema? (registry : Registry) (typeName : String) : Option ComponentSchema :=
  registry.find? fun schema => schema.typeName == typeName

/-- The part of the registry with some type tags, in the order in which they are listed. -/
def only (registry : Registry) (typeNames : List String) : Registry :=
  typeNames.eraseDups.filterMap registry.schema?

def propLine (prop : PropSchema) : String :=
  prop.name ++ " " ++ prop.summary ++ (if prop.required then " *required*" else "")

def paragraph (schema : ComponentSchema) : String :=
  let props := ", ".intercalate (schema.props.map propLine)
  "\n" ++ schema.typeName.toUpper ++ ": " ++ schema.description ++ "\n"
    ++ "Props: " ++ (if props = "" then "none" else props) ++ "\n"

def describe (registry : Registry) : String := String.join (registry.map paragraph)

end Registry

end Wireframe

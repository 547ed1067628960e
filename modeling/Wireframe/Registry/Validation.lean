import Wireframe.Json.Encode
import Wireframe.Registry.Schema

/-! # Advisory validation

An element is valid when its type is registered and every required prop is present. A verdict is
advice: nothing that is drawn depends on it. `Registry.validate` puts a verdict into words, and
`Registry.inspect` gives the schema that a valid element satisfies. `Registry.audit` collects the
verdicts on every element of a spec, nested ones included, with the path that leads to each.
-/

namespace Wireframe

inductive Finding where
  | missingType
  | unknownType (type : Value)
  | missingProp (name : String)

def Finding.message : Finding → String
  | missingType => "Component missing type"
  | unknownType type => "Unknown component type: " ++ type.fullText
  | missingProp name => "Missing required prop: " ++ name

inductive VerdictError where
  /-- A list or an object stands where a type tag should, so that no schema can be looked up. -/
  | typeNotAKey (type : Value)
  /-- An integer beyond the range of the doubles cannot be tested for not-a-number. -/
  | beyondDoubles (n : Number)
  | overlongType (n : Int)
  | unregistered (type : Value)

/-- What a validation answers: whether an element is valid, and if it is not, why. -/
structure Validation where
  isValid : Bool
  error : Option String
  deriving DecidableEq

namespace Validation

def valid : Validation := ⟨true, none⟩

def invalid (error : String) : Validation := ⟨false, some error⟩

/-- A verdict in words. An integer of too many digits cannot be put into them. -/
def ofVerdict : Except Finding ComponentSchema → Except VerdictError Validation
  | .ok _ => .ok valid
  | .error (.unknownType (.number (.int n))) =>
      if Text.isWritable n then .ok (invalid (Finding.unknownType (.int n)).message)
      else .error (.overlongType n)
  | .error finding => .ok (invalid finding.message)

end Validation

/-- Whether a required prop counts as present. Null, false, the empty string and not-a-number are
missing; zero, and collections even when empty, are present. -/
def Value.isPresent : Value → Except VerdictError Bool
  | .null => .ok false
  | .bool b => .ok b
  | .number n => if n.inRange then .ok (!n.isNaN) else .error (.beyondDoubles n)
  | .string s => .ok (s != "")
  | _ => .ok true

/-- The type that a value gives; what is no object gives none. -/
def Value.typeTag : Value → Value
  | .object members => Members.value members "type"
  | _ => .null

namespace Registry

/-- The schema of a type value; only a string can be registered. -/
def schemaOf? (registry : Registry) (type : Value) :
    Except VerdictError (Option ComponentSchema) :=
  match type with
  | .string name => .ok (registry.schema? name)
  | type => if type.isKey then .ok none else .error (.typeNotAKey type)

def missingProp? (members : Members) : List String → Except VerdictError (Option String)
  | [] => .ok none
  | name :: names => do
      if ← (members.value name).isPresent then missingProp? members names else return some name

/-- The schema that an element's members satisfy, or what is wrong with them. -/
def verdict (registry : Registry) (members : Members) :
    Except VerdictError (Except Finding ComponentSchema) := do
  let type := members.value "type"
  if !type.truthy then return .error .missingType
  match ← registry.schemaOf? type with
  | none => return .error (.unknownType type)
  | some schema =>
      match ← missingProp? members schema.requiredProps with
      | some name => return .error (.missingProp name)
      | none => return .ok schema

def check (registry : Registry) (v : Value) :
    Except VerdictError (Except Finding ComponentSchema) :=
  match v with
  | .object members => registry.verdict members
  | _ => .ok (.error .missingType)

def checkElement (registry : Registry) (e : Element) :
    Except VerdictError (Except Finding ComponentSchema) :=
  registry.verdict e.toMembers

def validate (registry : Registry) (v : Value) : Except VerdictError Validation :=
  registry.check v >>= Validation.ofVerdict

def validateElement (registry : Registry) (e : Element) : Except VerdictError Validation :=
  registry.checkElement e >>= Validation.ofVerdict

/-- What follows from a validation of something with a type: its schema if it is valid, else the
error. -/
def conclude (registry : Registry) (type : Value) (validation : Validation) :
    Except VerdictError (Except String ComponentSchema) := do
  if !validation.isValid then return .error ((nonempty? validation.error).getD "invalid")
  match ← registry.schemaOf? type with
  | some schema => return .ok schema
  | none => throw (.unregistered type)

def inspect (registry : Registry) (v : Value) :
    Except VerdictError (Except String ComponentSchema) :=
  registry.validate v >>= registry.conclude v.typeTag

def inspectElement (registry : Registry) (e : Element) :
    Except VerdictError (Except String ComponentSchema) :=
  registry.validateElement e >>= registry.conclude (.string e.type)

structure Issue where
  screenId : Option String
  path : String
  elementType : String
  finding : Finding

def itemPath (collection : String) (index : Nat) : String := s!"{collection}[{index}]"

def issues (screenId : Option String) (path : String) (head : ElementHead) :
    Except Finding ComponentSchema → List Issue
  | .ok _ => []
  | .error finding => [⟨screenId, path, head.type, finding⟩]

mutual

/-- The findings on an element and on everything below it, the element itself first. -/
def auditElement (registry : Registry) (screenId : Option String) (path : String) :
    Element → Except VerdictError (List Issue)
  | .node head children => do
      let verdict ← registry.checkElement (.node head children)
      let below ← auditItems registry screenId (path ++ ".children") 0 children
      return issues screenId path head verdict ++ below

def auditItems (registry : Registry) (screenId : Option String) (collection : String)
    (index : Nat) : List Element → Except VerdictError (List Issue)
  | [] => .ok []
  | e :: es => do
      let here ← auditElement registry screenId (itemPath collection index) e
      let more ← auditItems registry screenId collection (index + 1) es
      return here ++ more

end

def auditScreens {α : Type} (registry : Registry) :
    List (Screen α) → Except VerdictError (List Issue)
  | [] => .ok []
  | screen :: screens => do
      let here ← registry.auditItems screen.id "elements" 0 screen.elements
      let more ← registry.auditScreens screens
      return here ++ more

def audit {α : Type} (registry : Registry) (spec : Spec α) : Except VerdictError (List Issue) :=
  registry.auditScreens spec.screens

end Registry

end Wireframe

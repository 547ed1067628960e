import Wireframe.Value.Display

/-! # The outer shape of a document

Before a document is read into a spec its outer shape is checked: the size of the text, the nesting
depth, that the collections are lists, that screens are objects, and that no two screens share an
id. The first violation ends the check.
-/

namespace Wireframe

def defaultMaxSize : Int := 524288

def defaultMaxDepth : Int := 20

inductive EnvelopeError where
  | tooLarge (name : String) (size : Nat) (limit : Int)
  | tooDeep (depth limit : Int)
  | notAnObject
  | notAList (field : String)
  | screenNotAnObject (index : Nat)
  | elementsNotAList (index : Nat)
  | duplicateId (id : Value)
  | idNotAKey (id : Value)

namespace EnvelopeError

def message : EnvelopeError → String
  | tooLarge name size limit => s!"{name} size {size} bytes exceeds maximum {limit} bytes"
  | tooDeep depth limit => s!"JSON nesting depth {depth} exceeds maximum {limit}"
  | notAnObject => "Spec document must be a JSON object"
  | notAList field => s!"Spec '{field}' must be a list"
  | screenNotAnObject index => s!"Screen {index} must be an object"
  | elementsNotAList index => s!"Screen {index} 'elements' must be a list"
  | duplicateId id => "Duplicate screen id: " ++ id.fullText
  | idNotAKey _ => "A screen id is not a key"

/-- Whether the check reports the error as a violation. An id is looked up as it stands, and one
that is there twice is written into the report: where that cannot be done, the check itself fails. -/
def isViolation : EnvelopeError → Bool
  | idNotAKey _ => false
  | duplicateId (.number (.int n)) => Text.isWritable n
  | _ => true

end EnvelopeError

/-- A violation as a value: the message, and the field and its value where they are named. -/
structure Violation where
  message : String
  field : Option String := none
  value : Option Value := none

namespace Envelope

def checkSize (data : String) (limit : Int) (name : String) : Except EnvelopeError Unit :=
  if limit < data.utf8ByteSize then .error (.tooLarge name data.utf8ByteSize limit) else .ok ()

mutual

/-- The first depth beyond the limit at which a value stands, its root standing at `depth`. -/
def excess? (limit depth : Int) : Value → Option Int
  | .list items => if limit < depth then some depth else excessItems? limit (depth + 1) items
  | .object members =>
      if limit < depth then some depth else excessMembers? limit (depth + 1) members
  | _ => if limit < depth then some depth else none

def excessItems? (limit depth : Int) : List Value → Option Int
  | [] => none
  | item :: items =>
      match excess? limit depth item with
      | some found => some found
      | none => excessItems? limit depth items

def excessMembers? (limit depth : Int) : List (String × Value) → Option Int
  | [] => none
  | (_, value) :: entries =>
      match excess? limit depth value with
      | some found => some found
      | none => excessMembers? limit depth entries

end

def checkDepth (v : Value) (limit depth : Int) : Except EnvelopeError Unit :=
  match excess? limit depth v with
  | some found => .error (.tooDeep found limit)
  | none => .ok ()

def checkList (members : Members) (field : String) : Except EnvelopeError Unit :=
  match members.value field with
  | .null => .ok ()
  | .list _ => .ok ()
  | _ => .error (.notAList field)

def screens (members : Members) : List Value :=
  match members.value "screens" with
  | .list items => items
  | _ => []

def checkScreens (index : Nat) : List Value → Except EnvelopeError Unit
  | [] => .ok ()
  | .object members :: rest =>
      match Members.value members "elements" with
      | .null => checkScreens (index + 1) rest
      | .list _ => checkScreens (index + 1) rest
      | _ => .error (.elementsNotAList index)
  | _ :: _ => .error (.screenNotAnObject index)

def screenIds (screens : List Value) : List Value :=
  (screens.map fun
    | .object members => Members.value members "id"
    | _ => .null).filter fun id => !id.isNull

def checkIds (seen : List Value) : List Value → Except EnvelopeError Unit
  | [] => .ok ()
  | id :: rest =>
      if !id.isKey then .error (.idNotAKey id)
      else if seen.any fun other => other.sameKey id then .error (.duplicateId id)
      else checkIds (id :: seen) rest

/-- Checks a document against the limits; the size only where its text is given. -/
def check (document : Value) (text : Option String) (maxSize maxDepth : Int) :
    Except EnvelopeError Unit := do
  match text with
  | some text => checkSize text maxSize "Spec document"
  | none => pure ()
  match document with
  | .object members =>
      checkDepth document maxDepth 0
      checkList members "screens"
      checkList members "flows"
      checkScreens 0 (screens members)
      checkIds [] (screenIds (screens members))
  | _ => .error .notAnObject

/-- The check within the usual limits, with what it reports as a value: nothing or a violation. -/
def validate (document : Value) (text : Option String) :
    Except EnvelopeError (Option Violation) :=
  match check document text defaultMaxSize defaultMaxDepth with
  | .ok () => .ok none
  | .error cause =>
      if cause.isViolation then .ok (some { message := cause.message }) else .error cause

end Envelope

end Wireframe

import Wireframe.Json.Extract
import Wireframe.Spec.Envelope
import Wireframe.Spec.Normal
import Wireframe.Spec.Read

/-! # Loading a response

From the text of a producer's response to a normal spec: find the JSON object, check its outer
shape, read it, fill in what is missing.
-/

namespace Wireframe

inductive LoadError where
  | noObject (cause : Json.ExtractError)
  | envelope (cause : EnvelopeError)
  | faulty (faults : List Fault)

namespace LoadError

def message : LoadError → String
  | noObject cause => "Invalid spec JSON: " ++ cause.message
  | envelope cause => cause.message
  | faulty _ => "Invalid spec document"

/-- Whether the response is refused, with a message that says why. -/
def isRefusal : LoadError → Bool
  | noObject _ => true
  | envelope cause => cause.isViolation
  | faulty faults => faults.all Fault.isReported

end LoadError

def Spec.ofDocument (document : Value) (text : Option String) (maxSize maxDepth : Int) :
    Except LoadError (Spec Number) :=
  match Envelope.check document text maxSize maxDepth with
  | .error cause => .error (.envelope cause)
  | .ok () =>
      match Spec.read document with
      | .error faults => .error (.faulty faults)
      | .ok spec => .ok spec.ensureIds

def Spec.load (repair : Json.Repairer) (text : String) (maxSize maxDepth : Int) :
    Except LoadError (Spec Number) :=
  match Json.extract repair text true with
  | .error cause => .error (.noObject cause)
  | .ok members => Spec.ofDocument (.object members) (some text) maxSize maxDepth

end Wireframe

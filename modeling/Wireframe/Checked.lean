/-! # Checks that list every fault

Reading a document into a spec does not stop at the first fault. A `Checked` value is the result or
the list of all faults, each with the path to the place where it was found; combining checks joins
their faults in order.
-/

namespace Wireframe

inductive Step where
  | key (name : String)
  | index (i : Nat)
  deriving DecidableEq

inductive FaultKind where
  | notString
  | notNumber
  | unreadableNumber
  | notInteger
  | fractionalInteger
  | unreadableInteger
  | oversizedInteger
  | notFinite
  | notBoolean
  | unreadableBoolean
  | notList
  | notObject
  | notAboveBound
  | belowBound
  | tooShort
  /-- The text of an integer with too many digits is asked for. This is not reported as a fault: it
  ends the reading itself. -/
  | overlongInteger
  deriving DecidableEq

namespace FaultKind

def code? : FaultKind → Option String
  | notString => some "string_type"
  | notNumber => some "float_type"
  | unreadableNumber => some "float_parsing"
  | notInteger => some "int_type"
  | fractionalInteger => some "int_from_float"
  | unreadableInteger => some "int_parsing"
  | oversizedInteger => some "int_parsing_size"
  | notFinite => some "finite_number"
  | notBoolean => some "bool_type"
  | unreadableBoolean => some "bool_parsing"
  | notList => some "list_type"
  | notObject => some "model_type"
  | notAboveBound => some "greater_than"
  | belowBound => some "greater_than_equal"
  | tooShort => some "string_too_short"
  | overlongInteger => none

end FaultKind

structure Fault where
  path : List Step
  kind : FaultKind
  deriving DecidableEq

def Fault.isReported (fault : Fault) : Bool := fault.kind.code?.isSome

/-- A result, or all the faults that stand in its way. -/
abbrev Checked (α : Type) := Except (List Fault) α

namespace Checked

variable {α β γ : Type}

def fault (kind : FaultKind) : Checked α := .error [⟨[], kind⟩]

def faults : Checked α → List Fault
  | .ok _ => []
  | .error fs => fs

/-- A check of something that lies one step further in. -/
def under (step : Step) : Checked α → Checked α
  | .ok a => .ok a
  | .error fs => .error (fs.map fun f => { f with path := step :: f.path })

/-- Both checks; the faults of the first come first. -/
def both (f : α → β → γ) (x : Checked α) (y : Checked β) : Checked γ :=
  match x, y with
  | .ok a, .ok b => .ok (f a b)
  | x, y => .error (x.faults ++ y.faults)

def ap (f : Checked (α → β)) (x : Checked α) : Checked β := both (fun g a => g a) f x

def each (check : α → Checked β) (start : Nat) : List α → Checked (List β)
  | [] => .ok []
  | a :: rest => both List.cons (under (.index start) (check a)) (each check (start + 1) rest)

theorem both_ok_iff {f : α → β → γ} {x : Checked α} {y : Checked β} {c : γ} :
    both f x y = .ok c ↔ ∃ a b, x = .ok a ∧ y = .ok b ∧ f a b = c := by
  cases x <;> cases y <;> simp [both]

theorem under_ok_iff {step : Step} {x : Checked α} {a : α} :
    under step x = .ok a ↔ x = .ok a := by
  cases x <;> simp [under]

end Checked

end Wireframe

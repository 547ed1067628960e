import Wireframe.Plan.Rule
import Wireframe.Spec.Normal

/-! # Resolving elements

`Rules.resolve` walks an element tree and gives one plan per element. An element without an id gets
the one that its place gives it. An element whose type has no rule becomes body text.
-/

namespace Wireframe

/-- The plan of an element whose type is unknown: its content as body text, or its type. -/
def Plan.fallback (head : ElementHead) : Except ResolveError Plan := do
  let content := head.props.value "content"
  let shown ← Value.display .overlong (if content.isSupplied then content else .string head.type)
  return Plan.text shown "body" "text" {}

/-- The id of an element: its own, or the one that its place gives it. -/
def resolvedId (own inherited : Option String) : Option String :=
  match nonempty? own with
  | some id => some id
  | none => inherited

def childId (parent : Option String) (index : Nat) : Option String :=
  (nonempty? parent).map fun id => s!"{id}-{index}"

def topLevelId (screenId : Option String) (index : Nat) : Option String :=
  (nonempty? screenId).map fun id => elementId id (index + 1)

namespace Rules

mutual

/-- The plan of an element; `inherited` is the id that its place gives it. -/
def resolve (rules : Rules) (inherited : Option String) : Element → Except ResolveError Plan
  | .node head children =>
      let id := resolvedId head.id inherited
      match rules.rule? head.type with
      | none => (Plan.fallback head).map (Plan.asElement id head.type true)
      | some rule =>
          let nested := resolveChildren rules id 0 children
          (rule.expand ⟨head.props, rule.defaults, nested⟩).map
            (Plan.asElement id head.type false)

def resolveChildren (rules : Rules) (parent : Option String) (index : Nat) :
    List Element → Except ResolveError (List Plan)
  | [] => .ok []
  | e :: es =>
      match resolve rules (childId parent index) e with
      | .error cause => .error cause
      | .ok plan => (resolveChildren rules parent (index + 1) es).map (plan :: ·)

end

def resolveItems (rules : Rules) (screenId : Option String) (index : Nat) :
    List Element → Except ResolveError (List Plan)
  | [] => .ok []
  | e :: es =>
      match rules.resolve (topLevelId screenId index) e with
      | .error cause => .error cause
      | .ok plan => (resolveItems rules screenId (index + 1) es).map (plan :: ·)

/-- The plans of the top-level elements of a screen, in paint order. -/
def resolveScreen {α : Type} (rules : Rules) (screen : Screen α) :
    Except ResolveError (List Plan) :=
  rules.resolveItems screen.id 0 screen.elements

end Rules

end Wireframe

import Wireframe.Proofs.Plan.Resolved

/-! # Shown elements and the roots in plans

`Screen.placed` lists the elements that a preview shows: the elements of a screen in preorder, those
below an element only when it is a box, each with the id that it has where it stands. The plans of
the screen hold one root for each of them, in the same order.
-/

namespace Wireframe

/-- An element where it stands, with the id that it has there; the empty text is no id. -/
structure PlacedElement where
  id : String
  element : Element

namespace PlacedElement

def ownId (own : Option String) (place : String) : String :=
  match own with
  | some id => if id = "" then place else id
  | none => place

/-- The id that a place below a box gives: none below a box without one. -/
def idBelow (parent : String) (index : Nat) : String :=
  if parent = "" then "" else parent ++ "-" ++ toString index

/-- The id that a place on a screen gives, counted from 1: none on a screen without one. -/
def idOn (screenId : Option String) (number : Nat) : String :=
  match screenId with
  | some id => if id = "" then "" else id ++ "-el-" ++ toString number
  | none => ""

mutual

/-- An element and, below a box, the elements below it; `place` is the id that its place gives. -/
def within (place : String) : Element → List PlacedElement
  | .node head children =>
      let id := ownId head.id place
      ⟨id, .node head children⟩ :: if head.type = "box" then below id 0 children else []

def below (parent : String) (index : Nat) : List Element → List PlacedElement
  | [] => []
  | e :: es => within (idBelow parent index) e ++ below parent (index + 1) es

end

def on (screenId : Option String) (number : Nat) : List Element → List PlacedElement
  | [] => []
  | e :: es => within (idOn screenId number) e ++ on screenId (number + 1) es

end PlacedElement

/-- The elements that the preview of a screen shows, in document order. -/
def Screen.placed {α : Type} (screen : Screen α) : List PlacedElement :=
  PlacedElement.on screen.id 1 screen.elements

namespace PlacedElement

theorem below_eq_flatMap (parent : String) (index : Nat) (es : List Element) :
    below parent index es =
      (es.zipIdx index).flatMap fun e => within (idBelow parent e.2) e.1 := by
  induction es generalizing index with
  | nil => rfl
  | cons e es ih => simp [below, ih]

theorem on_eq_flatMap (screenId : Option String) (index : Nat) (es : List Element) :
    on screenId (index + 1) es =
      (es.zipIdx index).flatMap fun e => within (idOn screenId (e.2 + 1)) e.1 := by
  induction es generalizing index with
  | nil => rfl
  | cons e es ih => simp [on, ih]

end PlacedElement

private theorem getD_resolvedId (own inherited : Option String) :
    (resolvedId own inherited).getD "" = PlacedElement.ownId own (inherited.getD "") := by
  cases own with
  | none => simp [resolvedId, PlacedElement.ownId]
  | some id =>
      by_cases h : id = "" <;> simp [resolvedId, PlacedElement.ownId, nonempty?_some, h]

private theorem getD_childId (parent : Option String) (index : Nat) :
    (childId parent index).getD "" = PlacedElement.idBelow (parent.getD "") index := by
  cases parent with
  | none => simp [childId, PlacedElement.idBelow]
  | some id =>
      by_cases h : id = ""
      · simp [childId, PlacedElement.idBelow, nonempty?_some, h]
      · simp [childId, PlacedElement.idBelow, nonempty?_some, h, toString]

private theorem getD_topLevelId (screenId : Option String) (index : Nat) :
    (topLevelId screenId index).getD "" = PlacedElement.idOn screenId (index + 1) := by
  cases screenId with
  | none => simp [topLevelId, PlacedElement.idOn]
  | some id =>
      by_cases h : id = ""
      · simp [topLevelId, PlacedElement.idOn, nonempty?_some, h]
      · simp [topLevelId, PlacedElement.idOn, nonempty?_some, h, elementId, toString]

def Plan.roots (plan : Plan) : List PlanHead := plan.walk.filter (·.isElement)

structure PlanHead.IsRootOf (head : PlanHead) (placed : PlacedElement) : Prop where
  id : head.elementId.getD "" = placed.id
  type : head.elementType = placed.element.type

namespace Plan

theorem roots_node (head : PlanHead) (parts : List Plan) :
    roots (.node head parts) =
      (if head.isElement then [head] else []) ++ parts.flatMap roots := by
  simp only [roots, walk, Tree.preorder_node, List.filter_cons, List.filter_flatMap]
  split <;> rfl

theorem roots_asElement (id : Option String) (type : String) (isFallback : Bool)
    (head : PlanHead) (parts : List Plan) :
    roots (asElement id type isFallback (.node head parts)) =
      { head with elementId := id, elementType := type, isElement := true, isFallback }
        :: parts.flatMap roots := by
  simp [asElement, Tree.mapRoot, roots_node]

/-- What a rule draws itself holds no root. -/
theorem Built.roots_eq_nil {plan : Plan} (built : plan.Built PlanHead.IsOwn) :
    plan.roots = [] := by
  rw [roots, List.filter_eq_nil_iff]
  intro head hhead
  simp [(built.of_mem_walk head hhead).notElement]

theorem Drawn.flatMap_roots_children {plan : Plan} (drawn : plan.Drawn) :
    plan.children.flatMap roots = [] := by
  rw [List.flatMap_eq_nil_iff]
  intro part hpart
  exact (drawn.built.of_mem_children hpart).roots_eq_nil

end Plan

namespace Rules

variable {rules : Rules}

/-- The root of an element's plan is the element's at its place. -/
theorem resolve_isRootOf {e : Element} {inherited : Option String} {plan : Plan}
    (h : resolve rules inherited e = .ok plan) :
    plan.label.IsRootOf ⟨PlacedElement.ownId e.label.id (inherited.getD ""), e⟩ := by
  obtain ⟨head, children⟩ := e
  rcases resolve_expands h with ⟨drawn, -, -, rfl⟩ | ⟨rule, drawn, -, -, rfl⟩
  all_goals
    rw [Plan.asElement, Tree.label_mapRoot]
    exact ⟨getD_resolvedId _ _, rfl⟩

section Roots

variable {R : PlanHead → PlacedElement → Prop}

/-- The plan of an element holds one root for the element and for each element shown below it. What
relates the root of every plan to its element relates each of these roots to its own. -/
theorem forall₂_resolve_roots (hrules : rules ⊆ builtin) (hbox : Rule.boxRule ∈ rules)
    (root : ∀ {inherited e plan}, resolve rules inherited e = .ok plan →
      R plan.label ⟨PlacedElement.ownId e.label.id (inherited.getD ""), e⟩)
    {e : Element} {inherited : Option String} {plan : Plan}
    (h : resolve rules inherited e = .ok plan) :
    List.Forall₂ R plan.roots (PlacedElement.within (inherited.getD "") e) := by
  induction e using Tree.induct generalizing inherited plan with
  | node head children ih =>
      have hroot := root h
      rw [PlacedElement.within]
      rcases resolve_cases hrules h with ⟨drawn, isFallback, hdrawn, rfl, hnobox⟩ |
        ⟨box, nested, htype, rfl, hnested, -⟩
      · have hleaf : head.type ≠ "box" := by
          intro htype
          have hsome := rule?_isSome_of_mem hbox
          rw [show Rule.boxRule.typeName = "box" from rfl, hnobox htype] at hsome
          cases hsome
        have hparts := hdrawn.flatMap_roots_children
        obtain ⟨drawnHead, parts⟩ := drawn
        rw [Tree.children_node] at hparts
        rw [Plan.roots_asElement, hparts, if_neg hleaf]
        exact .cons hroot .nil
      · rw [Plan.roots_asElement, if_pos htype, PlacedElement.below_eq_flatMap]
        refine .cons hroot ?_
        refine (forall₂_flatMap (resolveChildren_ok_iff.mp hnested) ?_).flip
        intro e he part hpart
        have hroots := ih e.1 (List.fst_mem_of_mem_zipIdx he) hpart
        rw [getD_childId, getD_resolvedId] at hroots
        exact hroots.flip

/-- The plans of a screen hold one root for each shown element, in order. What relates the root of
every plan to its element relates each of these roots to its own. -/
theorem forall₂_resolveScreen_roots {α : Type} (hrules : rules ⊆ builtin)
    (hbox : Rule.boxRule ∈ rules)
    (root : ∀ {inherited e plan}, resolve rules inherited e = .ok plan →
      R plan.label ⟨PlacedElement.ownId e.label.id (inherited.getD ""), e⟩)
    {screen : Screen α} {plans : List Plan} (h : rules.resolveScreen screen = .ok plans) :
    List.Forall₂ R (plans.flatMap Plan.roots) screen.placed := by
  rw [Screen.placed, PlacedElement.on_eq_flatMap]
  refine (forall₂_flatMap (resolveItems_ok_iff.mp h) ?_).flip
  intro e _ plan hplan
  have hroots := forall₂_resolve_roots hrules hbox root hplan
  rw [getD_topLevelId] at hroots
  exact hroots.flip

end Roots

theorem resolveScreen_roots {α : Type} (hrules : rules ⊆ builtin) (hbox : Rule.boxRule ∈ rules)
    {screen : Screen α} {plans : List Plan} (h : rules.resolveScreen screen = .ok plans) :
    List.Forall₂ PlanHead.IsRootOf (plans.flatMap Plan.roots) screen.placed :=
  forall₂_resolveScreen_roots hrules hbox resolve_isRootOf h

end Rules

end Wireframe

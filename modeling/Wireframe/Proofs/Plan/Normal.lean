import Wireframe.Proofs.Plan.Places
import Wireframe.Proofs.Spec.Loaded

/-! # Plans of normal specs

Ids are given in two ways: normalising writes them into the elements of a screen, and resolving
gives each element the id of its place where it has none. A rule reads the props of an element and
not its id, so the two ways differ in nothing: a screen and its normal form have the same plans.
-/

namespace Wireframe

variable {rules : Rules} {inherited inherited' : Option String}

theorem resolvedId_of_nonempty {own : Option String} {id : String} (h : nonempty? own = some id)
    (inherited : Option String) : resolvedId own inherited = some id := by
  rw [resolvedId, h]

theorem resolvedId_of_empty {own : Option String} (h : nonempty? own = none)
    (inherited : Option String) : resolvedId own inherited = inherited := by
  rw [resolvedId, h]

namespace Rules

/-- The id that an element comes to have is all that its plan depends on, wherever the id is
from. -/
theorem resolve_congr_id {type : String} {props : Members} {own own' : Option String}
    (h : resolvedId own inherited = resolvedId own' inherited') (children : List Element) :
    rules.resolve inherited (.node ⟨type, own, props⟩ children) =
      rules.resolve inherited' (.node ⟨type, own', props⟩ children) := by
  have hfallback : Plan.fallback ⟨type, own, props⟩ = Plan.fallback ⟨type, own', props⟩ := rfl
  rw [resolve, resolve, h, hfallback]

/-- The id that normalising writes into an element is the one that its place gives it. -/
theorem resolve_ensureId {screenId : String} (hne : screenId ≠ "") (index : Nat) (e : Element) :
    rules.resolve (topLevelId (some screenId) index) (e.ensureId screenId index) =
      rules.resolve (topLevelId (some screenId) index) e := by
  obtain ⟨⟨type, own, props⟩, children⟩ := e
  cases hown : nonempty? own with
  | some id =>
      have hkept : Element.ensureId screenId index (.node ⟨type, own, props⟩ children) =
          .node ⟨type, own, props⟩ children := by
        simp [Element.ensureId, Element.id, hown]
      rw [hkept]
  | none =>
      have hgiven : Element.ensureId screenId index (.node ⟨type, own, props⟩ children) =
          .node ⟨type, some (elementId screenId (index + 1)), props⟩ children := by
        simp [Element.ensureId, Element.id, hown, Element.withId, Tree.mapRoot]
      have hplace : topLevelId (some screenId) index = some (elementId screenId (index + 1)) := by
        rw [topLevelId, nonempty?_some, if_neg hne, Option.map_some]
      have hid : nonempty? (some (elementId screenId (index + 1))) =
          some (elementId screenId (index + 1)) :=
        nonempty?_eq_some.mpr ⟨rfl, elementId_ne_empty _ _⟩
      rw [hgiven, hplace]
      apply resolve_congr_id
      rw [resolvedId_of_nonempty hid, resolvedId_of_empty hown]

theorem resolveItems_ensureId {screenId : String} (hne : screenId ≠ "") (es : List Element)
    (index : Nat) :
    rules.resolveItems (some screenId) index
        (es.mapIdx fun i e => e.ensureId screenId (index + i)) =
      rules.resolveItems (some screenId) index es := by
  induction es generalizing index with
  | nil => rfl
  | cons e es ih =>
      have hrest := ih (index + 1)
      simp only [Nat.add_right_comm index 1, Nat.add_assoc] at hrest
      rw [List.mapIdx_cons, resolveItems, resolveItems, Nat.add_zero, resolve_ensureId hne, hrest]

variable {α : Type} [Scalar α]

/-- A screen that has an id has the same plans as the screen at its place in the normalised spec, or
fails to resolve for the same cause. It does with all rules, built-in or not, whose expansions read
the props of an element, the defaults and the plans of the children alone. -/
theorem resolveScreen_ensureIds (rules : Rules) (spec : Spec α) {index : Nat} {screen : Screen α}
    (hscreen : spec.screens[index]? = some screen) {id : String} (hid : screen.id = some id)
    (hne : id ≠ "") :
    ∃ normal, spec.ensureIds.screens[index]? = some normal ∧ normal.id = some id ∧
      rules.resolveScreen normal = rules.resolveScreen screen := by
  have hat : screen.idAt index = id := by
    simp [Screen.idAt, hid, nonempty?_some, hne]
  refine ⟨screen.ensureIds index, ?_, congrArg some hat, ?_⟩
  · rw [Spec.ensureIds, List.getElem?_mapIdx, hscreen, Option.map_some]
  · rw [resolveScreen, resolveScreen, hid]
    simp only [Screen.ensureIds, hat]
    simpa only [Nat.zero_add] using resolveItems_ensureId hne screen.elements 0

/-- Behind a screen without an id, one with elements that have an id, an empty one or none, and with
boxes whose nested elements are named after them. -/
theorem resolveScreen_ensureIds_nested :
    let text (id : Option String) : Element := .node ⟨"text", id, []⟩ []
    let screen : Screen Number := ⟨some "home", "", none, [
      .node ⟨"box", none, []⟩ [text none, text (some "own")],
      .node ⟨"box", some "", []⟩ [text (some "")],
      .node ⟨"box", some "b", []⟩ [text none]]⟩
    let spec : Spec Number := ⟨"", [⟨none, "", none, []⟩, screen], []⟩
    (∃ plans, builtin.resolveScreen screen = .ok plans ∧
        plans.flatMap Plan.rootIds = [some "home-el-1", some "home-el-1-0", some "own",
          some "home-el-2", some "home-el-2-0", some "b", some "b-0"]) ∧
      ∃ normal, spec.ensureIds.screens[1]? = some normal ∧ normal.id = some "home" ∧
        builtin.resolveScreen normal = builtin.resolveScreen screen := by
  intro text screen spec
  have hrun : ∃ plans, builtin.resolveScreen screen = .ok plans := ⟨_, rfl⟩
  obtain ⟨plans, hplans⟩ := hrun
  refine ⟨⟨plans, hplans, ?_⟩, resolveScreen_ensureIds builtin spec rfl rfl (by decide)⟩
  cases hplans
  decide +kernel

end Rules

end Wireframe

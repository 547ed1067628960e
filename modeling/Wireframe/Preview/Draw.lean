import Wireframe.Markup.Basic
import Wireframe.Markup.Glyph
import Wireframe.Plan.Basic

/-! # The preview target

Plans drawn as markup with `wf-` classes. The root of every element carries the element's id and
type and, where a host's predicate says so, the class `selected`.
-/

namespace Wireframe

/-- Whether the element with an id on the screen with an id is selected. -/
abbrev Selection := String → String → Bool

def Selection.none : Selection := fun _ _ => false

inductive PreviewError where
  | noLeaf
  | glyph (cause : GlyphError)
  /-- An integer with too many digits stands where a text is shown. -/
  | overlong

def PreviewError.message : PreviewError → String
  | noLeaf => "No DOM leaf for plan kind PlanKind.CONTAINER"
  | glyph _ => "No glyph for the icon"
  | overlong => Text.overlongMessage

namespace Preview

def glyph (name : Value) (fallback : String) : Except PreviewError String :=
  (Glyph.svg name fallback).mapError .glyph

def span (className : String) (text : Value) : Markup :=
  Markup.leaf { tag := "span", classes := [className], text }

def namedClasses (fixed stem : String) (name : Value) : Except PreviewError (List String) :=
  (name.display .overlong).map fun text => [fixed, stem ++ text]

theorem namedClasses_ok_iff {fixed stem : String} {name : Value} {classes : List String} :
    namedClasses fixed stem name = .ok classes ↔
      name.isWritable = true ∧ classes = [fixed, stem ++ name.fullText] := by
  unfold namedClasses Value.display
  split
  · next h => simp [Except.map, h, eq_comm]
  · next h => simp [Except.map, h]

def roleClasses (head : PlanHead) : Except PreviewError (List String) :=
  if head.role = "text" then
    namedClasses "wf-text" "wf-text-" (head.propOr "style" (.string "body"))
  else if head.role = "badge" then
    namedClasses "wf-badge" "wf-badge-" (head.propOr "variant" (.string "neutral"))
  else .ok ["wf-" ++ head.role]

def textClasses (head : PlanHead) : Except PreviewError (List String) := do
  let classes ← roleClasses head
  let trend := match head.prop "trend" with
    | .string "up" => ["positive"]
    | .string "down" => ["negative"]
    | _ => []
  return classes ++ trend ++ if (head.prop "active").truthy then ["active"] else []

def inlineRoles : List String := ["nav-label", "list-trailing", "card-badge"]

def text (head : PlanHead) : Except PreviewError Markup := do
  let classes ← textClasses head
  return Markup.leaf {
    tag := if inlineRoles.contains head.role then "span" else "div"
    classes
    text := head.propOr "content" (.string "") }

def button (head : PlanHead) : Except PreviewError Markup := do
  let text := head.prop "content"
  if head.role = "card-action" then
    return Markup.leaf { tag := "button", classes := ["wf-card-action"], text }
  else
    let classes ← namedClasses "wf-button" "wf-button-"
      (head.propOr "variant" (.string "primary"))
    return Markup.leaf { classes, text }

def labels (tag className : String) (head : PlanHead) : Except PreviewError (List Markup) := do
  let label := head.prop "label"
  if label.truthy then
    let text ← label.display .overlong
    return [Markup.leaf { tag, classes := [className], text := .string text }]
  else return []

def input (head : PlanHead) : Except PreviewError Markup := do
  let labels ← labels "label" "wf-input-label" head
  let drawing ← glyph (head.prop "icon") "search"
  return .node { classes := ["wf-input"] } (labels ++ [
    Markup.leaf { tag := "span", classes := ["wf-input-icon"], raw := some drawing },
    span "wf-input-placeholder" (head.prop "placeholder")])

def image (head : PlanHead) : Except PreviewError Markup := do
  if head.role = "card-image" then return Markup.leaf { classes := ["wf-card-image"] }
  else
    let classes ← namedClasses "wf-image" "wf-image-" (head.propOr "size" (.string "medium"))
    if head.role = "image" then
      return .node { classes }
        [span "wf-image-label" (head.propOr "label" (.string "Image"))]
    else return Markup.leaf { classes := classes ++ ["wf-" ++ head.role] }

def icon (head : PlanHead) : Except PreviewError Markup := do
  let drawing ← glyph (head.prop "name") "star"
  let labels ← labels "span" "wf-icon-label" head
  return .node { classes := ["wf-" ++ head.role], raw := some drawing } labels

def spacer (head : PlanHead) : Except PreviewError Markup := do
  let classes ← namedClasses "wf-spacer" "wf-spacer-" (head.propOr "size" (.string "medium"))
  return Markup.leaf { classes }

def switch (head : PlanHead) : Markup :=
  let checked := if (head.prop "checked").truthy then ["checked"] else []
  .node { classes := "wf-toggle-switch" :: checked }
    [Markup.leaf { classes := ["wf-toggle-knob"] }]

def containerClasses (head : PlanHead) : Except PreviewError (List String) :=
  if head.role = "box" then
    namedClasses "wf-box" "wf-box-" (head.propOr "variant" (.string "card"))
  else if head.role = "card" then
    namedClasses "wf-card" "wf-card-image-" (head.propOr "imagePosition" (.string "left"))
  else if head.role = "nav-item" && (head.prop "active").truthy then .ok ["wf-nav-item", "active"]
  else .ok ["wf-" ++ head.role]

/-- The head of an element's root: marked, with its id and type, and selected if it is. -/
def markHead (screenId : String) (selection : Selection) (plan : PlanHead) (head : MarkupHead) :
    MarkupHead :=
  if plan.isElement then
    let id := plan.elementId.getD ""
    let selected := if selection screenId id then ["selected"] else []
    (({ head with classes := "wf-element" :: head.classes ++ selected }).setAttribute
      "data-element-id" id).setAttribute "data-element-type" plan.elementType
  else head

def bareLeaf (head : PlanHead) : Except PreviewError Markup :=
  match head.kind with
  | .text => text head
  | .button => button head
  | .input => input head
  | .image => image head
  | .icon => icon head
  | .divider => .ok (Markup.leaf { classes := ["wf-divider"] })
  | .spacer => spacer head
  | .switch => .ok (switch head)
  | .container => .error .noLeaf

/-- Containers show their direction, hugging leaves a class. -/
def layoutHead (plan : PlanHead) (head : MarkupHead) : MarkupHead :=
  if plan.isContainer then
    match plan.layout.direction with
    | some direction => head.setAttribute "data-direction" direction.name
    | none => head
  else if plan.layout.widthSizing = .hug then head.addClass "wf-hug"
  else head

def target (screenId : String) (selection : Selection) : Target PreviewError Markup where
  leaf plan := (bareLeaf plan).map (Tree.mapRoot (markHead screenId selection plan))
  container plan nodes :=
    (containerClasses plan).map fun classes =>
      .node (markHead screenId selection plan { classes }) nodes
  layout plan node := node.mapRoot (layoutHead plan)

end Preview

end Wireframe

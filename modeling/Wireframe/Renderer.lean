import Wireframe.Flow.Overlay
import Wireframe.Metrics.Basic
import Wireframe.Preview.Draw
import Wireframe.Registry.Validation
import Wireframe.Scene.Document
import Wireframe.Settings.Basic

/-! # The renderer

Every call is a pass of its own: from a spec to preview markup or to a scene document. A spec is
audited first; what the registry finds keeps no element from being drawn. A pass counts what it does
in a collector, also when it fails on the way.
-/

namespace Wireframe

inductive RenderError where
  | audit (cause : VerdictError)
  | resolve (cause : ResolveError)
  | preview (cause : PreviewError)
  | document (cause : DocumentError)
  | path (cause : ArithmeticError)

/-- A pass: it may fail, and what it counted until then stays counted. -/
abbrev Pass (α : Type) := ExceptT RenderError (StateM Collector) α

structure Renderer where
  registry : Registry
  rules : Rules
  settings : Settings

def Settings.device (settings : Settings) : Device :=
  ⟨settings.deviceWidth, settings.deviceHeight, settings.fontFamily⟩

namespace Renderer

/-- A renderer; an empty registry stands for the built-in one. -/
def create (registry : Registry) (rules : Rules) (settings : Settings) : Renderer :=
  ⟨if registry.isEmpty then Registry.builtin else registry, rules, settings⟩

def attempt {ε α : Type} (cause : ε → RenderError) : Except ε α → Pass α
  | .ok a => pure a
  | .error e => throw (cause e)

def record (renderer : Renderer) (f : Collector → Collector) : Pass Unit :=
  if renderer.settings.enableMetrics then modify f else pure ()

def countPlan (target : String) (collector : Collector) (head : PlanHead) : Collector :=
  let collector := collector.recordPlan target head.kind.name
  if head.isFallback then collector.recordFallback head.elementType else collector

def countPlans (target : String) (plans : List Plan) (collector : Collector) : Collector :=
  (plans.flatMap Plan.walk).foldl (countPlan target) collector

def flowStyle (renderer : Renderer) : Flow.Style Number :=
  ⟨.double renderer.settings.cornerRadius, .double renderer.settings.labelCharWidth⟩

def rects (renderer : Renderer) (spec : Spec Number) : List (Rect Number) :=
  Flow.screenRects spec (.double renderer.settings.screenWidth)
    (.double renderer.settings.screenHeight)

def route (renderer : Renderer) (spec : Spec Number) : Pass (List (Flow.Path Number)) := do
  let paths ← attempt .path (Flow.route renderer.flowStyle (renderer.rects spec) spec.flows)
  renderer.record fun collector =>
    collector.recordEdges paths.length (spec.flows.length - paths.length)
  return paths

def audit (renderer : Renderer) (spec : Spec Number) : Pass (List Registry.Issue) :=
  attempt .audit (renderer.registry.audit spec)

/-- The preview of one element; `selected` marks its root alone. -/
def renderElement (renderer : Renderer) (element : Element) (selected : Bool)
    (screenId : String) : Pass Markup := do
  let plan ← attempt .resolve (renderer.rules.resolve none element)
  let node ← attempt .preview ((Preview.target screenId Selection.none).materialize plan)
  renderer.record (countPlans "dom" [plan])
  return if selected then node.mapRoot (·.addClass "selected") else node

def screenNode (screenId name : String) (nodes : List Markup) : Markup :=
  let header := Tree.node { classes := ["wf-screen-header"] } [
    Markup.leaf {
      tag := "span", classes := ["wf-screen-name"]
      text := .string (if name = "" then screenId else name) }]
  .node {
    classes := ["wf-screen"]
    attributes := [("data-screen-id", .string screenId)] } [
    header, .node { classes := ["wf-screen-content"] } nodes]

def renderScreen {α : Type} (renderer : Renderer) (screen : Screen α) (selection : Selection) :
    Pass Markup := do
  let screenId := screen.id.getD ""
  let plans ← attempt .resolve (renderer.rules.resolveScreen screen)
  let nodes ← attempt .preview ((Preview.target screenId selection).materializeAll plans)
  renderer.record (countPlans "dom" plans)
  return screenNode screenId screen.name nodes

def placeStyle (renderer : Renderer) (place : Point Number) : String :=
  let length (x : Double) : String := x.generalText ++ "px"
  let left := length place.x.toDouble
  let top := length place.y.toDouble
  let width := length renderer.settings.screenWidth
  let height := length renderer.settings.screenHeight
  s!"left: {left}; top: {top}; width: {width}; height: {height};"

def renderScreens (renderer : Renderer) (selection : Selection) (index : Nat) :
    List (Screen Number) → Pass (List Markup)
  | [] => return []
  | screen :: screens => do
      let node ← renderer.renderScreen screen selection
      let place := screen.position.getD (Grid.place Number index)
      let placed := node.mapRoot (·.setAttribute "style" (renderer.placeStyle place))
      let more ← renderer.renderScreens selection (index + 1) screens
      return placed :: more

/-- The whole preview: every screen in its place below the flow overlay. -/
def renderCanvas (renderer : Renderer) (spec : Spec Number) (selection : Selection) :
    Pass Markup := do
  let spec := spec.ensureIds
  let _ ← renderer.audit spec
  let screens ← renderer.renderScreens selection 0 spec.screens
  let paths ← renderer.route spec
  let overlay ← attempt .path (Flow.overlay paths)
  renderer.record (·.recordPass "dom" "success")
  return .node { classes := ["wf-canvas"], raw := nonempty? (some overlay) } screens

/-- What a pass counts and gives once a document is built, or is not. -/
def conclude (renderer : Renderer) : Except DocumentError SceneDocument → Pass SceneDocument
  | .ok document => do
      renderer.record (·.recordPass "native" "success")
      return document
  | .error (.font cause) => do
      renderer.record fun collector =>
        (collector.recordError "FontLoadError" "native").recordPass "native" "error"
      throw (.document (.font cause))
  | .error cause => throw (.document cause)

/-- The scene document of a spec, its fonts acquired from any host. -/
def buildScenesFrom {σ : Type} (renderer : Renderer) (spec : Spec Number) (host : FontHost σ)
    (state : σ) : Pass SceneDocument := do
  let _ ← renderer.audit spec
  renderer.conclude (renderer.settings.device.build renderer.rules host state spec)

def buildScenes (renderer : Renderer) (spec : Spec Number) (provider : FontProvider) :
    Pass SceneDocument :=
  renderer.buildScenesFrom spec FontProvider.host provider

end Renderer

end Wireframe

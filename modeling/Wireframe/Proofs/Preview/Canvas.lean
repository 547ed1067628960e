import Wireframe.Proofs.Outcome
import Wireframe.Proofs.Pointwise
import Wireframe.Renderer

/-! # Canvases

A pass that renders a whole preview, taken apart: the screens of the normal spec are drawn one by
one, each in its place, and the overlay above them is drawn from the paths between them. What a pass
counts has no part in what it gives.
-/

namespace Wireframe.Renderer

variable {renderer : Renderer} {selection : Selection} {collector : Collector}

/-! ## Steps of a pass -/

section

variable {α β : Type} {after : Collector} {x : Pass α} {f : α → Pass β} {a : α} {b : β}

theorem run_bind (x : Pass α) (f : α → Pass β) (collector : Collector) :
    (x >>= f).run.run collector =
      (ExceptT.bindCont f (x.run.run collector).1).run (x.run.run collector).2 := rfl

theorem run_bind_of_ok (h : x.run.run collector = (.ok a, after)) :
    (x >>= f).run.run collector = (f a).run.run after := by
  rw [run_bind, h]
  rfl

theorem run_bind_of_error {cause : RenderError} (h : x.run.run collector = (.error cause, after)) :
    (x >>= f).run.run collector = (.error cause, after) := by
  rw [run_bind, h]
  rfl

/-- A pass of two steps gives a result when both do, the second after what the first counted. -/
theorem run_bind_eq_ok_iff :
    (x >>= f).run.run collector = (.ok b, after) ↔
      ∃ a middle, x.run.run collector = (.ok a, middle) ∧ (f a).run.run middle = (.ok b, after) := by
  cases hx : x.run.run collector with
  | mk result middle =>
      cases result with
      | error cause =>
          rw [run_bind_of_error hx]
          refine iff_of_false nofun ?_
          rintro ⟨_, _, ⟨⟩, -⟩
      | ok a =>
          rw [run_bind_of_ok hx]
          constructor
          · intro h
            exact ⟨a, middle, rfl, h⟩
          · rintro ⟨_, _, ⟨⟩, h⟩
            exact h

theorem run_bind_ok_iff :
    ((x >>= f).run.run collector).1 = .ok b ↔
      ∃ a, (x.run.run collector).1 = .ok a ∧
        ((f a).run.run (x.run.run collector).2).1 = .ok b := by
  constructor
  · intro h
    obtain ⟨a, middle, hx, hf⟩ := run_bind_eq_ok_iff.mp (Prod.ext h rfl)
    exact ⟨a, congrArg Prod.fst hx, by rw [hx, hf]⟩
  · rintro ⟨a, hx, hf⟩
    rw [run_bind_of_ok (Prod.ext hx rfl), hf]

theorem attempt_run_ok_iff {ε : Type} {cause : ε → RenderError} {x : Except ε α} :
    (attempt cause x).run.run collector = (.ok a, after) ↔ x = .ok a ∧ after = collector := by
  cases x with
  | error e => exact iff_of_false nofun fun h => nomatch h.1
  | ok b =>
      constructor
      · intro h
        obtain ⟨hb, hafter⟩ := Prod.mk.inj h
        exact ⟨congrArg _ (Except.ok.inj hb), hafter.symm⟩
      · rintro ⟨⟨⟩, rfl⟩
        rfl

theorem attempt_ok_iff {ε : Type} {cause : ε → RenderError} {x : Except ε α} :
    ((attempt cause x).run.run collector).1 = .ok a ↔ x = .ok a := by
  constructor
  · intro h
    exact (attempt_run_ok_iff.mp (Prod.ext h rfl)).1
  · intro h
    exact congrArg Prod.fst (attempt_run_ok_iff.mpr ⟨h, rfl⟩)

theorem record_run (henabled : renderer.settings.enableMetrics = true) (g : Collector → Collector)
    (collector : Collector) : (renderer.record g).run.run collector = (.ok (), g collector) := by
  rw [record, if_pos henabled]
  rfl

end

/-! ## Screens in their places -/

/-- A node is the preview of a screen with the style of its place. -/
def DrawnAt (renderer : Renderer) (selection : Selection) (index : Nat) (screen : Screen Number)
    (node : Markup) : Prop :=
  ∃ drawn collector, ((renderer.renderScreen screen selection).run.run collector).1 = .ok drawn ∧
    node = drawn.mapRoot (·.setAttribute "style"
      (renderer.placeStyle (screen.position.getD (Grid.place Number index))))

theorem DrawnAt.style {index : Nat} {screen : Screen Number} {node : Markup}
    (drawn : DrawnAt renderer selection index screen node) {place : Point Number}
    (hplace : screen.position = some place) :
    node.label.attributes.value? "style" = some (.string (renderer.placeStyle place)) := by
  obtain ⟨bare, _, -, rfl⟩ := drawn
  rw [hplace, Option.getD_some, Tree.label_mapRoot, MarkupHead.value?_setAttribute, if_pos rfl]

theorem renderScreens_ok {index : Nat} {screens : List (Screen Number)} {nodes : List Markup}
    (h : ((renderer.renderScreens selection index screens).run.run collector).1 = .ok nodes) :
    List.Forall₂ (fun screen node => DrawnAt renderer selection screen.2 screen.1 node)
      (screens.zipIdx index) nodes := by
  induction screens generalizing index collector nodes with
  | nil =>
      cases Except.ok.inj h
      exact .nil
  | cons screen screens ih =>
      rw [renderScreens, run_bind_ok_iff] at h
      obtain ⟨drawn, hdrawn, h⟩ := h
      dsimp only at h
      rw [run_bind_ok_iff] at h
      obtain ⟨more, hmore, h⟩ := h
      cases Except.ok.inj h
      exact .cons ⟨drawn, _, hdrawn, rfl⟩ (ih hmore)

/-! ## The whole preview -/

def ShowsPaths (page : Markup) (paths : List (Flow.Path Number)) : Prop :=
  ∃ overlay, Flow.overlay paths = .ok overlay ∧ page.label.raw = nonempty? (some overlay)

/-- A page has the screens of the normal spec in their places, and shows the paths between them. -/
theorem renderCanvas_ok {spec : Spec Number} {page : Markup}
    (h : ((renderer.renderCanvas spec selection).run.run collector).1 = .ok page) :
    List.Forall₂ (fun screen node => DrawnAt renderer selection screen.2 screen.1 node)
        spec.ensureIds.screens.zipIdx page.children ∧
      ∃ paths, Flow.route renderer.flowStyle (renderer.rects spec.ensureIds) spec.ensureIds.flows =
          .ok paths ∧ ShowsPaths page paths := by
  unfold renderCanvas at h
  dsimp only at h
  obtain ⟨issues, _, h⟩ := run_bind_ok_iff.mp h
  obtain ⟨screens, hscreens, h⟩ := run_bind_ok_iff.mp h
  obtain ⟨paths, hpaths, h⟩ := run_bind_ok_iff.mp h
  obtain ⟨overlay, hoverlay, h⟩ := run_bind_ok_iff.mp h
  obtain ⟨_, _, h⟩ := run_bind_ok_iff.mp h
  cases Except.ok.inj h
  obtain ⟨routed, hrouted, hpaths⟩ := run_bind_ok_iff.mp hpaths
  obtain ⟨_, _, hpaths⟩ := run_bind_ok_iff.mp hpaths
  cases Except.ok.inj hpaths
  exact ⟨renderScreens_ok hscreens, paths, attempt_ok_iff.mp hrouted, overlay,
    attempt_ok_iff.mp hoverlay, rfl⟩

end Wireframe.Renderer

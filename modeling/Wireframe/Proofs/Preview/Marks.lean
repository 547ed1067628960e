import Wireframe.Proofs.Plan.Roots
import Wireframe.Proofs.Preview.Sketch
import Wireframe.Renderer

/-! # Element marks in a preview

The roots of elements are the only nodes of a preview that carry an element id, and the class
`wf-element` stands on them alone, in front. `renderScreen_elementNodes` says it of a whole screen:
no element is lost, doubled or moved on the way to the preview.
-/

namespace Wireframe

def Markup.elementNodes (node : Markup) : List MarkupHead :=
  node.preorder.filter fun head => head.attributes.has "data-element-id"

namespace MarkupHead

/-- Marked as an element: the class in front and nowhere else, and two attributes. -/
structure IsMarked (head : MarkupHead) (id type : String) : Prop where
  classes : ∃ others, head.classes = "wf-element" :: others ∧ "wf-element" ∉ others
  id : head.attributes.value? "data-element-id" = some (.string id)
  type : head.attributes.value? "data-element-type" = some (.string type)

def StandsFor (head : MarkupHead) (placed : PlacedElement) : Prop :=
  head.IsMarked placed.id placed.element.type

end MarkupHead

namespace Markup

theorem elementNodes_node (head : MarkupHead) (nodes : List Markup) :
    elementNodes (.node head nodes) =
      (if head.attributes.has "data-element-id" then [head] else []) ++
        nodes.flatMap elementNodes := by
  simp only [elementNodes, Tree.preorder_node, List.filter_cons, List.filter_flatMap]
  split <;> rfl

theorem elementNodes_eq_nil {node : Markup} (h : ∀ head ∈ node.preorder, head.attributes = []) :
    node.elementNodes = [] := by
  rw [elementNodes, List.filter_eq_nil_iff]
  intro head hhead
  simp [h head hhead, Members.has]

end Markup

namespace Preview

variable {plan : PlanHead} {screenId : String} {selection : Selection}

/-! ## Class names -/

theorem append_ne_element {s : String} (h : ¬ s.toList <+: "wf-element".toList)
    (rest : String) : s ++ rest ≠ "wf-element" := by
  intro heq
  apply h
  rw [← heq, String.toList_append]
  exact List.prefix_append _ _

theorem role_ne_element (hrole : plan.role ≠ "element") : "wf-" ++ plan.role ≠ "wf-element" := by
  intro heq
  apply hrole
  have h := congrArg String.toList heq
  simpa [String.toList_append, String.ext_iff] using h

/-- A node before it is marked: no class is that of elements, and nothing in it has attributes. -/
structure IsBare (node : Markup) : Prop where
  classes : "wf-element" ∉ node.label.classes
  attributes : ∀ head ∈ node.preorder, head.attributes = []

theorem namedClasses_bare {fixed stem : String} {name : Value} {classes : List String}
    (hfixed : fixed ≠ "wf-element") (hstem : ¬ stem.toList <+: "wf-element".toList)
    (h : namedClasses fixed stem name = .ok classes) : "wf-element" ∉ classes := by
  obtain ⟨-, rfl⟩ := namedClasses_ok_iff.mp h
  simpa using ⟨hfixed.symm, (append_ne_element hstem _).symm⟩

theorem roleClasses_bare {classes : List String} (hrole : plan.role ≠ "element")
    (h : roleClasses plan = .ok classes) : "wf-element" ∉ classes := by
  unfold roleClasses at h
  split at h
  · exact namedClasses_bare (by decide) (by decide) h
  · split at h
    · exact namedClasses_bare (by decide) (by decide) h
    · cases h
      simpa using (role_ne_element hrole).symm

theorem textClasses_bare {classes : List String} (hrole : plan.role ≠ "element")
    (h : textClasses plan = .ok classes) : "wf-element" ∉ classes := by
  obtain ⟨named, hnamed, h⟩ := Except.bind_ok_iff.mp h
  cases h
  simp only [List.mem_append, not_or]
  refine ⟨⟨roleClasses_bare hrole hnamed, ?_⟩, ?_⟩
  · split <;> simp
  · split <;> simp

theorem containerClasses_bare {classes : List String} (hrole : plan.role ≠ "element")
    (h : containerClasses plan = .ok classes) : "wf-element" ∉ classes := by
  unfold containerClasses at h
  split at h
  · exact namedClasses_bare (by decide) (by decide) h
  · split at h
    · exact namedClasses_bare (by decide) (by decide) h
    · split at h
      · cases h
        simp
      · cases h
        simpa using (role_ne_element hrole).symm

/-! ## Sketches -/

variable {node : Markup}

theorem IsBare.leaf {head : MarkupHead} (hclasses : "wf-element" ∉ head.classes)
    (hattributes : head.attributes = []) : IsBare (Markup.leaf head) :=
  ⟨hclasses, by simpa [Markup.leaf, Tree.preorder_node] using hattributes⟩

theorem IsBare.parent {head : MarkupHead} {nodes : List Markup}
    (hclasses : "wf-element" ∉ head.classes) (hattributes : head.attributes = [])
    (hnodes : ∀ node ∈ nodes, ∀ inner ∈ node.preorder, inner.attributes = []) :
    IsBare (.node head nodes) := by
  refine ⟨hclasses, ?_⟩
  intro inner hinner
  simp only [Tree.preorder_node, List.mem_cons, List.mem_flatMap] at hinner
  rcases hinner with rfl | ⟨node, hnode, hinner⟩
  · exact hattributes
  · exact hnodes node hnode inner hinner

theorem labels_plain {tag className : String} {labels : List Markup}
    (h : ShowsLabel tag className plan labels) :
    ∀ label ∈ labels, ∀ inner ∈ label.preorder, inner.attributes = [] := by
  cases h with
  | missing => simp
  | present => simp [Markup.leaf, Tree.preorder_node]

theorem SketchForm.isBare (h : SketchForm plan node) (hrole : plan.role ≠ "element") :
    IsBare node := by
  cases h with
  | container kind named => exact .leaf (containerClasses_bare hrole named) rfl
  | text kind named => exact .leaf (textClasses_bare hrole named) rfl
  | cardAction => exact .leaf (by simp) rfl
  | button kind role named => exact .leaf (namedClasses_bare (by decide) (by decide) named) rfl
  | input kind labelled =>
      refine .parent (by simp) rfl ?_
      rw [List.forall_mem_append]
      exact ⟨labels_plain labelled, by simp [span, Markup.leaf, Tree.preorder_node]⟩
  | cardImage => exact .leaf (by simp) rfl
  | image kind role named =>
      exact .parent (namedClasses_bare (by decide) (by decide) named) rfl
        (by simp [span, Markup.leaf, Tree.preorder_node])
  | thumbnail kind role named =>
      have hsize := namedClasses_bare (by decide) (by decide) named
      exact .leaf (by simpa using ⟨hsize, (role_ne_element hrole).symm⟩) rfl
  | icon kind drawn labelled =>
      exact .parent (by simpa using (role_ne_element hrole).symm) rfl (labels_plain labelled)
  | divider => exact .leaf (by simp) rfl
  | spacer kind named => exact .leaf (namedClasses_bare (by decide) (by decide) named) rfl
  | switch =>
      refine .parent ?_ rfl (by simp [Markup.leaf, Tree.preorder_node])
      split <;> simp

theorem sketch_bare (hrole : plan.role ≠ "element") (h : sketch plan = .ok node) : IsBare node :=
  (sketchForm_of_sketch h).isBare hrole

/-! ## Marked roots -/

theorem markHead_marked {head : MarkupHead} (hroot : plan.isElement = true)
    (hclasses : "wf-element" ∉ head.classes) :
    (markHead screenId selection plan head).IsMarked (plan.elementId.getD "")
      plan.elementType := by
  simp only [markHead, hroot, if_true]
  refine ⟨⟨head.classes ++ if selection screenId (plan.elementId.getD "") then ["selected"] else [],
    rfl, ?_⟩, ?_, ?_⟩
  · rw [List.mem_append, not_or]
    exact ⟨hclasses, by split <;> simp⟩
  · simp [MarkupHead.value?_setAttribute]
  · simp [MarkupHead.value?_setAttribute]

theorem layoutHead_marked {head : MarkupHead} {id type : String} (h : head.IsMarked id type) :
    (layoutHead plan head).IsMarked id type := by
  obtain ⟨⟨others, hfirst, hothers⟩, hid, htype⟩ := h
  unfold layoutHead
  split
  · split
    · refine ⟨⟨others, hfirst, hothers⟩, ?_, ?_⟩
      · simpa [MarkupHead.value?_setAttribute] using hid
      · simpa [MarkupHead.value?_setAttribute] using htype
    · exact ⟨⟨others, hfirst, hothers⟩, hid, htype⟩
  · split
    · refine ⟨⟨others ++ ["wf-hug"], ?_, by simpa using hothers⟩, hid, htype⟩
      simp [MarkupHead.addClass, hfirst]
    · exact ⟨⟨others, hfirst, hothers⟩, hid, htype⟩

theorem layoutHead_unmarked {head : MarkupHead} (hattributes : head.attributes = []) :
    (layoutHead plan head).attributes.has "data-element-id" = false := by
  unfold layoutHead Members.has
  split
  · split
    · simp [MarkupHead.value?_setAttribute, hattributes]
    · simp [hattributes]
  · split <;> simp [MarkupHead.addClass, hattributes]

/-- The finished root of a sketch is marked where the plan's node is an element's root, and carries
no element id elsewhere. -/
theorem finish_marked {head : MarkupHead} (hroot : plan.isElement = true)
    (hclasses : "wf-element" ∉ head.classes) :
    (finish screenId selection plan head).IsMarked (plan.elementId.getD "") plan.elementType :=
  layoutHead_marked (markHead_marked hroot hclasses)

theorem finish_unmarked {head : MarkupHead} (hroot : plan.isElement = false)
    (hattributes : head.attributes = []) :
    (finish screenId selection plan head).attributes.has "data-element-id" = false := by
  rw [finish, markHead, if_neg (by simp [hroot])]
  exact layoutHead_unmarked hattributes

/-- The element nodes of a drawn plan are the finished sketches of its roots, in order. -/
theorem forall₂_elementNodes {P : PlanHead → Prop} (hP : ∀ plan, P plan → plan.role ≠ "element")
    {R : MarkupHead → PlanHead → Prop}
    (finished : ∀ plan drawn, P plan → plan.isElement = true → sketch plan = .ok drawn →
      R (finish screenId selection plan drawn.label) plan)
    {tree : Plan} (built : tree.Built P)
    (h : (target screenId selection).materialize tree = .ok node) :
    List.Forall₂ R node.elementNodes tree.roots := by
  induction tree using Tree.induct generalizing node with
  | node plan parts ih =>
      obtain ⟨⟨head, inner⟩, below, hdrawn, hbelow, rfl⟩ := exists_sketch built h
      have hbare := sketch_bare (hP plan built.holds) hdrawn
      have hattributes := hbare.attributes
      rw [Tree.preorder_node, List.forall_mem_cons, List.forall_mem_flatMap] at hattributes
      have hinner : inner.flatMap Markup.elementNodes = [] :=
        List.flatMap_eq_nil_iff.mpr fun part hpart =>
          Markup.elementNodes_eq_nil (hattributes.2 part hpart)
      have hparts : List.Forall₂ R (below.flatMap Markup.elementNodes)
          (parts.flatMap Plan.roots) := by
        refine (forall₂_flatMap hbelow fun part hpart node hnode => ?_).flip
        exact (ih part hpart (built.of_mem_children hpart) hnode).flip
      rw [Tree.label_node, Tree.label_node, Tree.children_node, Markup.elementNodes_node,
        Plan.roots_node, List.flatMap_append, hinner, List.nil_append]
      refine List.rel_append ?_ hparts
      cases hroot : plan.isElement with
      | true =>
          have hmarked : (finish screenId selection plan head).IsMarked (plan.elementId.getD "")
              plan.elementType := finish_marked hroot hbare.classes
          rw [if_pos (by simp [Members.has, hmarked.id]), if_pos rfl]
          exact .cons (finished plan _ built.holds hroot hdrawn) .nil
      | false =>
          rw [if_neg (by simp [finish_unmarked hroot hattributes.1]), if_neg (by simp)]
          exact .nil

theorem materialize_elementNodes {tree : Plan} (built : tree.Built (·.role ≠ "element"))
    (h : (target screenId selection).materialize tree = .ok node) :
    List.Forall₂ (fun node root => node.IsMarked (root.elementId.getD "") root.elementType)
      node.elementNodes tree.roots :=
  forall₂_elementNodes (fun _ hrole => hrole)
    (fun _ _ hrole hroot hdrawn => finish_marked hroot (sketch_bare hrole hdrawn).classes) built h

end Preview

namespace Renderer

/-- A screen renders when its plans resolve and can be drawn, to its header above their nodes. -/
theorem renderScreen_ok_iff {α : Type} {renderer : Renderer} {screen : Screen α}
    {selection : Selection} {collector : Collector} {node : Markup} :
    ((renderer.renderScreen screen selection).run.run collector).1 = .ok node ↔
      ∃ plans nodes, renderer.rules.resolveScreen screen = .ok plans ∧
        (Preview.target (screen.id.getD "") selection).materializeAll plans = .ok nodes ∧
        screenNode (screen.id.getD "") screen.name nodes = node := by
  unfold renderScreen
  cases hplans : renderer.rules.resolveScreen screen with
  | error cause => exact iff_of_false nofun (by simp)
  | ok plans =>
      cases hnodes : (Preview.target (screen.id.getD "") selection).materializeAll plans with
      | error cause =>
          simp only [attempt, pure_bind, hnodes]
          exact iff_of_false nofun (by simp [hnodes])
      | ok nodes =>
          -- What the pass counts has no part in what it returns.
          simp only [attempt, pure_bind, hnodes, record]
          cases renderer.settings.enableMetrics
          all_goals
            refine ⟨fun h => ⟨_, _, rfl, hnodes, Except.ok.inj h⟩, ?_⟩
            rintro ⟨_, _, ⟨⟩, hdrawn, rfl⟩
            cases hnodes.symm.trans hdrawn
            rfl

theorem screenNode_elementNodes (screenId name : String) (nodes : List Markup) :
    (screenNode screenId name nodes).elementNodes = nodes.flatMap Markup.elementNodes := by
  simp [screenNode, Markup.elementNodes_node, Markup.leaf, Members.has, Members.value?_cons]

/-- The preview of a screen marks its shown elements, each once and in order: with the class
`wf-element` in front of all others, the element's type, and the id that it has at its place. -/
theorem renderScreen_elementNodes {α : Type} {renderer : Renderer}
    (hrules : renderer.rules ⊆ Rules.builtin) (hbox : Rule.boxRule ∈ renderer.rules)
    {screen : Screen α} {selection : Selection} {collector : Collector} {node : Markup}
    (h : ((renderer.renderScreen screen selection).run.run collector).1 = .ok node) :
    List.Forall₂ MarkupHead.StandsFor node.elementNodes screen.placed := by
  obtain ⟨plans, nodes, hplans, hnodes, rfl⟩ := renderScreen_ok_iff.mp h
  have hmarked : List.Forall₂
      (fun node root => node.IsMarked (root.elementId.getD "") root.elementType)
      (nodes.flatMap Markup.elementNodes) (plans.flatMap Plan.roots) := by
    refine (forall₂_flatMap (Target.materializeAll_ok_iff.mp hnodes) ?_).flip
    intro plan hplan node hnode
    obtain ⟨e, _, hresolve⟩ := exists_of_forall₂_of_mem (Rules.resolveItems_ok_iff.mp hplans) hplan
    exact (Preview.materialize_elementNodes (Rules.resolve_built hrules hresolve) hnode).flip
  have hroots := Rules.resolveScreen_roots hrules hbox hplans
  rw [screenNode_elementNodes]
  refine forall₂_trans hmarked hroots ?_
  intro node root placed hnode hroot
  rw [hroot.id, hroot.type] at hnode
  exact hnode

/-- Boxes below boxes, one of them with an empty id, and a card whose children are not shown. -/
theorem renderScreen_elementNodes_boxes :
    let screen : Screen Number := ⟨some "s", "", none, [
      .node ⟨"box", none, []⟩ [
        .node ⟨"text", some "own", [("style", .string "heading")]⟩ [],
        .node ⟨"box", some "", []⟩ [.node ⟨"gauge", none, []⟩ []]],
      .node ⟨"card", none, []⟩ [.node ⟨"text", none, []⟩ []]]⟩
    let renderer := create Registry.builtin Rules.builtin {}
    screen.placed.map (·.id) = ["s-el-1", "own", "s-el-1-1", "s-el-1-1-0", "s-el-2"] ∧
      ∃ node, ((renderer.renderScreen screen Selection.none).run.run {}).1 = .ok node ∧
        List.Forall₂ MarkupHead.StandsFor node.elementNodes screen.placed := by
  intro screen renderer
  have hbox : Rule.boxRule ∈ Rules.builtin := by simp [Rules.builtin]
  have hrun : ∃ node, ((renderer.renderScreen screen Selection.none).run.run {}).1 = .ok node :=
    ⟨_, rfl⟩
  obtain ⟨node, hnode⟩ := hrun
  exact ⟨by decide +kernel, node, hnode,
    renderScreen_elementNodes (List.Subset.refl Rules.builtin) hbox hnode⟩

end Renderer

end Wireframe

import Wireframe.Preview.Draw
import Wireframe.Proofs.Plan.Materialized
import Wireframe.Proofs.Pointwise

/-! # Sketches

A preview draws a node of a plan in two steps. The node alone decides the sketch; to finish it, its
root is marked and shows the layout, and the nodes of the parts follow below it. Every node of a
preview is the finished root of a sketch or stands below one.
-/

namespace Wireframe.Preview

variable {screenId : String} {selection : Selection} {node : Markup}

/-- What a node of a plan is drawn as, not yet marked and without its parts. -/
def sketch (plan : PlanHead) : Except PreviewError Markup :=
  if plan.isContainer then
    (containerClasses plan).map fun classes => Markup.leaf { classes }
  else bareLeaf plan

/-! ## The forms of a sketch -/

/-- The nodes that show a label: one, or none where the plan's node has no label. -/
inductive ShowsLabel (tag className : String) (plan : PlanHead) : List Markup → Prop
  | missing (unlabelled : (plan.prop "label").truthy = false) : ShowsLabel tag className plan []
  | present (labelled : (plan.prop "label").truthy = true) :
      ShowsLabel tag className plan
        [Markup.leaf
          { tag, classes := [className], text := .string (plan.prop "label").fullText }]

/-- A node of a plan and its sketch, one form for each kind of node and, where the role decides,
for each role. -/
inductive SketchForm (plan : PlanHead) : Markup → Prop
  | container {classes : List String} (kind : plan.kind = .container)
      (named : containerClasses plan = .ok classes) : SketchForm plan (Markup.leaf { classes })
  | text {classes : List String} (kind : plan.kind = .text)
      (named : textClasses plan = .ok classes) :
      SketchForm plan (Markup.leaf {
        tag := if inlineRoles.contains plan.role then "span" else "div"
        classes
        text := plan.propOr "content" (.string "") })
  | cardAction (kind : plan.kind = .button) (role : plan.role = "card-action") :
      SketchForm plan (Markup.leaf
        { tag := "button", classes := ["wf-card-action"], text := plan.prop "content" })
  | button {classes : List String} (kind : plan.kind = .button) (role : plan.role ≠ "card-action")
      (named : namedClasses "wf-button" "wf-button-"
        (plan.propOr "variant" (.string "primary")) = .ok classes) :
      SketchForm plan (Markup.leaf { classes, text := plan.prop "content" })
  | input {labels : List Markup} {drawing : String} (kind : plan.kind = .input)
      (labelled : ShowsLabel "label" "wf-input-label" plan labels)
      (drawn : glyph (plan.prop "icon") "search" = .ok drawing) :
      SketchForm plan (.node { classes := ["wf-input"] } (labels ++ [
        Markup.leaf { tag := "span", classes := ["wf-input-icon"], raw := some drawing },
        span "wf-input-placeholder" (plan.prop "placeholder")]))
  | cardImage (kind : plan.kind = .image) (role : plan.role = "card-image") :
      SketchForm plan (Markup.leaf { classes := ["wf-card-image"] })
  | image {classes : List String} (kind : plan.kind = .image) (role : plan.role = "image")
      (named : namedClasses "wf-image" "wf-image-"
        (plan.propOr "size" (.string "medium")) = .ok classes) :
      SketchForm plan
        (.node { classes } [span "wf-image-label" (plan.propOr "label" (.string "Image"))])
  | thumbnail {classes : List String} (kind : plan.kind = .image)
      (role : plan.role ≠ "card-image" ∧ plan.role ≠ "image")
      (named : namedClasses "wf-image" "wf-image-"
        (plan.propOr "size" (.string "medium")) = .ok classes) :
      SketchForm plan (Markup.leaf { classes := classes ++ ["wf-" ++ plan.role] })
  | icon {drawing : String} {labels : List Markup} (kind : plan.kind = .icon)
      (drawn : glyph (plan.prop "name") "star" = .ok drawing)
      (labelled : ShowsLabel "span" "wf-icon-label" plan labels) :
      SketchForm plan (.node { classes := ["wf-" ++ plan.role], raw := some drawing } labels)
  | divider (kind : plan.kind = .divider) :
      SketchForm plan (Markup.leaf { classes := ["wf-divider"] })
  | spacer {classes : List String} (kind : plan.kind = .spacer)
      (named : namedClasses "wf-spacer" "wf-spacer-"
        (plan.propOr "size" (.string "medium")) = .ok classes) :
      SketchForm plan (Markup.leaf { classes })
  | switch (kind : plan.kind = .switch) :
      SketchForm plan (.node
        { classes := "wf-toggle-switch" ::
            if (plan.prop "checked").truthy then ["checked"] else [] }
        [Markup.leaf { classes := ["wf-toggle-knob"] }])

variable {plan : PlanHead}

theorem showsLabel_of_labels {tag className : String} {labels : List Markup}
    (h : Preview.labels tag className plan = .ok labels) : ShowsLabel tag className plan labels := by
  unfold Preview.labels at h
  dsimp only at h
  split at h
  · next labelled =>
    obtain ⟨text, htext, h⟩ := Except.bind_ok_iff.mp h
    obtain ⟨-, rfl⟩ := Value.display_ok_iff.mp htext
    cases h
    exact .present labelled
  · next unlabelled =>
    cases h
    exact .missing (Bool.eq_false_iff.mpr unlabelled)

theorem sketchForm_of_button (kind : plan.kind = .button) (h : button plan = .ok node) :
    SketchForm plan node := by
  unfold button at h
  split at h
  · next role =>
    cases h
    exact .cardAction kind role
  · next role =>
    obtain ⟨classes, named, h⟩ := Except.bind_ok_iff.mp h
    cases h
    exact .button kind role named

theorem sketchForm_of_image (kind : plan.kind = .image) (h : image plan = .ok node) :
    SketchForm plan node := by
  unfold image at h
  split at h
  · next role =>
    cases h
    exact .cardImage kind role
  · next hcard =>
    obtain ⟨classes, named, h⟩ := Except.bind_ok_iff.mp h
    split at h
    · next role =>
      cases h
      exact .image kind role named
    · next role =>
      cases h
      exact .thumbnail kind ⟨hcard, role⟩ named

theorem sketchForm_of_bareLeaf (h : bareLeaf plan = .ok node) : SketchForm plan node := by
  unfold bareLeaf at h
  cases kind : plan.kind
  all_goals rw [kind] at h
  case text =>
    obtain ⟨classes, named, h⟩ := Except.bind_ok_iff.mp h
    cases h
    exact .text kind named
  case button => exact sketchForm_of_button kind h
  case input =>
    obtain ⟨labels, labelled, h⟩ := Except.bind_ok_iff.mp h
    obtain ⟨drawing, drawn, h⟩ := Except.bind_ok_iff.mp h
    cases h
    exact .input kind (showsLabel_of_labels labelled) drawn
  case image => exact sketchForm_of_image kind h
  case icon =>
    obtain ⟨drawing, drawn, h⟩ := Except.bind_ok_iff.mp h
    obtain ⟨labels, labelled, h⟩ := Except.bind_ok_iff.mp h
    cases h
    exact .icon kind drawn (showsLabel_of_labels labelled)
  case divider =>
    cases h
    exact .divider kind
  case spacer =>
    obtain ⟨classes, named, h⟩ := Except.bind_ok_iff.mp h
    cases h
    exact .spacer kind named
  case switch =>
    cases h
    exact .switch kind
  case container => cases h

/-- Every sketch has one of the forms, so what is said of all of them is said of a sketch. -/
theorem sketchForm_of_sketch (h : sketch plan = .ok node) : SketchForm plan node := by
  unfold sketch at h
  split at h
  · next hcontainer =>
    obtain ⟨classes, named, rfl⟩ := Except.map_ok_iff.mp h
    exact .container (by simpa [PlanHead.isContainer] using hcontainer) named
  · exact sketchForm_of_bareLeaf h

/-! ## Sketches in a preview -/

/-- The root of a sketch as it stands in a preview. -/
def finish (screenId : String) (selection : Selection) (plan : PlanHead) (head : MarkupHead) :
    MarkupHead :=
  layoutHead plan (markHead screenId selection plan head)

/-- A preview is the finished sketch of the plan's root, with the previews of the parts below it. -/
theorem exists_sketch {P : PlanHead → Prop} {tree : Plan} (built : tree.Built P)
    (h : (target screenId selection).materialize tree = .ok node) :
    ∃ drawn below, sketch tree.label = .ok drawn ∧
      List.Forall₂ (fun part node => (target screenId selection).materialize part = .ok node)
        tree.children below ∧
      node = .node (finish screenId selection tree.label drawn.label)
        (drawn.children ++ below) := by
  cases built with
  | @leaf plan kind _ =>
      obtain ⟨bare, hbare, rfl⟩ := (Target.materialize_leaf_ok_iff kind).mp h
      obtain ⟨drawn, hdrawn, rfl⟩ := Except.map_ok_iff.mp hbare
      refine ⟨drawn, [], ?_, .nil, ?_⟩
      · rw [sketch, Tree.label_node, if_neg (by simp [kind]), hdrawn]
      · obtain ⟨head, nodes⟩ := drawn
        rw [Tree.children_node, List.append_nil]
        rfl
  | @container plan parts kind _ _ _ =>
      obtain ⟨nodes, bare, hnodes, hbare, rfl⟩ := (Target.materialize_container_ok_iff kind).mp h
      obtain ⟨classes, hclasses, rfl⟩ := Except.map_ok_iff.mp hbare
      refine ⟨Markup.leaf { classes }, nodes, ?_, hnodes, rfl⟩
      rw [sketch, Tree.label_node, if_pos kind, hclasses]
      rfl

/-- What is said of the finished root of every sketch and of all that the sketch has below it is
said of every node of a preview. -/
theorem forall_mem_preorder {P : PlanHead → Prop} {Q : MarkupHead → Prop}
    (sketched : ∀ plan drawn, P plan → sketch plan = .ok drawn →
      Q (finish screenId selection plan drawn.label) ∧
        ∀ part ∈ drawn.children, ∀ head ∈ part.preorder, Q head)
    {tree : Plan} (built : tree.Built P)
    (h : (target screenId selection).materialize tree = .ok node) :
    ∀ head ∈ node.preorder, Q head := by
  induction tree using Tree.induct generalizing node with
  | node plan parts ih =>
      obtain ⟨drawn, below, hdrawn, hbelow, rfl⟩ := exists_sketch built h
      obtain ⟨hroot, hinner⟩ := sketched plan drawn built.holds hdrawn
      rw [Tree.preorder_node, List.forall_mem_cons, List.forall_mem_flatMap]
      refine ⟨hroot, fun part hpart => ?_⟩
      rcases List.mem_append.mp hpart with hpart | hpart
      · exact hinner part hpart
      · obtain ⟨planned, hplanned, hmade⟩ := exists_of_forall₂_of_mem hbelow hpart
        exact ih planned hplanned (built.of_mem_children hplanned) hmade

end Wireframe.Preview

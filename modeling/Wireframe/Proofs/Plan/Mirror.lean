import Wireframe.Preview.Draw
import Wireframe.Proofs.Plan.Materialized
import Wireframe.Proofs.Plan.Resolved
import Wireframe.Scene.Draw

/-! # The two targets mirror the plan

The preview and the scene drawn from one plan nest as the plan does, and their containers agree on
the direction. That the walk leaves no part out rests on how rules build plans (`Plan.Built`).
-/

namespace Wireframe

variable {screenId : String} {selection : Selection} {pen : Scene.Pen}

/-- The markup and the scene node of a plan: a leaf of the plan was drawn once by each target, a
container became a markup node and a frame with one child for each part, in order. -/
inductive Mirrored (screenId : String) (selection : Selection) (pen : Scene.Pen) :
    Plan → Markup → Scene → Prop where
  | leaf {head : PlanHead} {node : Markup} {shape : Scene} (kind : head.isContainer = false)
      (drawn : (Preview.target screenId selection).materialize (.node head []) = .ok node)
      (sketched : (Scene.target pen).materialize (.node head []) = .ok shape) :
      Mirrored screenId selection pen (.node head []) node shape
  | container {head : PlanHead} {parts : List Plan} {markup : MarkupHead} {nodes : List Markup}
      {box : SceneBox} {style : FrameStyle} {shapes : List Scene}
      (kind : head.isContainer = true)
      (direction : markup.attributes.value? "data-direction" =
        some (.string style.layoutMode.toLower))
      (drawn : nodes.length = parts.length) (sketched : shapes.length = parts.length)
      (below : ∀ (i : Nat) part node shape, parts[i]? = some part → nodes[i]? = some node →
        shapes[i]? = some shape → Mirrored screenId selection pen part node shape) :
      Mirrored screenId selection pen (.node head parts) (.node markup nodes)
        (.frame box style shapes)

theorem Direction.toLower_toUpper_name (direction : Direction) :
    direction.name.toUpper.toLower = direction.name := by
  show (direction.name.map Char.toUpper).map Char.toLower = direction.name
  rw [← String.toList_inj, String.toList_map, String.toList_map]
  cases direction <;> decide

namespace Preview

theorem value?_layoutHead_direction {plan : PlanHead} {direction : Direction}
    (kind : plan.isContainer = true) (h : plan.layout.direction = some direction)
    (head : MarkupHead) :
    (layoutHead plan head).attributes.value? "data-direction" = some (.string direction.name) := by
  unfold layoutHead
  rw [if_pos kind, h, MarkupHead.value?_setAttribute, if_pos rfl]

end Preview

namespace Scene

theorem painted_ok {name : Value} {paint : Paint} {shapes : List Scene} {shape : Scene}
    (h : painted name paint shapes = .ok shape) : ∃ box style, shape = .frame box style shapes := by
  obtain ⟨fills, _, h⟩ := Except.bind_ok_iff.mp h
  obtain ⟨strokes, _, h⟩ := Except.bind_ok_iff.mp h
  exact ⟨_, _, (Except.pure_ok_iff.mp h).symm⟩

theorem layoutMode_arrange {layout : Layout} {direction : Direction}
    (h : layout.direction = some direction) (style : FrameStyle) :
    (arrange layout style).layoutMode = direction.name.toUpper := by
  unfold arrange FrameStyle.layoutMode
  rw [h]

end Scene

namespace Plan

variable {P : PlanHead → Prop} {plan : Plan} {node : Markup} {shape : Scene}

/-- Whatever both targets draw of a plan that rules built mirrors it. -/
theorem Built.mirrored (built : plan.Built P)
    (hnode : (Preview.target screenId selection).materialize plan = .ok node)
    (hshape : (Scene.target pen).materialize plan = .ok shape) :
    Mirrored screenId selection pen plan node shape := by
  induction built generalizing node shape with
  | leaf kind _ => exact .leaf kind hnode hshape
  | @container head parts kind hdirection _ _ ih =>
      obtain ⟨direction, hdirection⟩ := Option.isSome_iff_exists.mp hdirection
      obtain ⟨nodes, bare, hnodes, hbare, rfl⟩ :=
        (Target.materialize_container_ok_iff kind).mp hnode
      obtain ⟨shapes, frame, hshapes, hframe, rfl⟩ :=
        (Target.materialize_container_ok_iff kind).mp hshape
      obtain ⟨classes, -, rfl⟩ := Except.map_ok_iff.mp hbare
      obtain ⟨box, style, rfl⟩ := Scene.painted_ok hframe
      refine .container kind ?_ hnodes.length_eq.symm hshapes.length_eq.symm ?_
      · rw [Scene.layoutMode_arrange hdirection, Direction.toLower_toUpper_name]
        exact Preview.value?_layoutHead_direction kind hdirection _
      · intro i part node shape hpart hnode hshape
        have hmem := List.mem_of_getElem? hpart
        exact ih part hmem (forall₂_getElem? hnodes hpart hnode)
          (forall₂_getElem? hshapes hpart hshape)

end Plan

/-- The leaves of a resolved plan have no parts to skip, and the preview and the scene of the plan,
where there are both, mirror it. -/
theorem Rules.resolve_mirrored {rules : Rules} (hrules : rules ⊆ Rules.builtin) {e : Element}
    {inherited : Option String} {plan : Plan} (h : rules.resolve inherited e = .ok plan) :
    (∀ part ∈ plan.subtrees, part.label.isContainer = false → part.children = []) ∧
      ∀ screenId selection pen node shape,
        (Preview.target screenId selection).materialize plan = .ok node →
        (Scene.target pen).materialize plan = .ok shape →
        Mirrored screenId selection pen plan node shape := by
  have built := Rules.resolve_built hrules h
  refine ⟨built.leaf_of_mem_subtrees, ?_⟩
  intro screenId selection pen node shape hnode hshape
  exact built.mirrored hnode hshape

/-- A box with a labelled toggle and a navigation bar, drawn by both targets. -/
theorem Rules.resolve_mirrored_box :
    let e : Element := .node ⟨"box", some "b", []⟩ [
      .node ⟨"toggle", none, [("label", .string "Wi-Fi")]⟩ [],
      .node ⟨"navbar", none, [("items", .list [.string "Home", .string "Me"])]⟩ []]
    ∃ plan node shape, Rules.builtin.resolve none e = .ok plan ∧ plan.subtrees.length = 11 ∧
      (∀ part ∈ plan.subtrees, part.label.isContainer = false → part.children = []) ∧
      (Preview.target "s" Selection.none).materialize plan = .ok node ∧
      (Scene.target ⟨"Inter", true⟩).materialize plan = .ok shape ∧
      Mirrored "s" Selection.none ⟨"Inter", true⟩ plan node shape := by
  intro e
  have hrun : ∃ plan, Rules.builtin.resolve none e = .ok plan := ⟨_, rfl⟩
  obtain ⟨plan, hplan⟩ := hrun
  obtain ⟨hleaves, hmirrored⟩ := resolve_mirrored (List.Subset.refl Rules.builtin) hplan
  cases hplan
  exact ⟨_, _, _, rfl, rfl, hleaves, rfl, rfl, hmirrored _ _ _ _ _ rfl rfl⟩

end Wireframe

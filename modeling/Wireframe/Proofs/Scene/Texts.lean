import Wireframe.Proofs.Plan.Mirror
import Wireframe.Scene.Document

/-! # The texts of a scene

A text of a scene comes from a leaf of the plan: the leaf says which characters stand there and in
which style. `texts_materialize` says it of a whole plan, in order.
-/

namespace Wireframe

def PlanHead.words (head : PlanHead) : List Value :=
  match head.kind with
  | .text => [head.propOr "content" (.string "")]
  | .button => [head.propOr "content" (.string "Button")]
  | .input => [head.propOr "placeholder" (.string "")]
  | .icon => if (head.prop "label").truthy then [.string (head.prop "label").fullText] else []
  | _ => []

def TextRun.styled (family : String) (style : Option TextStyle) (characters : Value) : TextRun :=
  let style := style.getD Scene.usualStyle
  { characters, fontSize := style.size, font := ⟨family, style.weight⟩, align := style.align }

/-- The texts that the node of a leaf shows, each with its style. -/
def PlanHead.runs (family : String) (head : PlanHead) : List TextRun :=
  head.words.map (TextRun.styled family head.textStyle)

namespace Scene

variable {pen : Pen} {node : Scene} {head : PlanHead}

@[simp] theorem texts_mapBox (f : SceneBox → SceneBox) (node : Scene) :
    (node.mapBox f).texts = node.texts := by
  cases node <;> rfl

@[simp] theorem texts_mapStyle (f : FrameStyle → FrameStyle) (node : Scene) :
    (node.mapStyle f).texts = node.texts := by
  cases node <;> rfl

theorem texts_frame (box : SceneBox) (style : FrameStyle) (nodes : List Scene) :
    (frame box style nodes).texts = nodes.flatMap texts := by
  rw [texts, textsAll_eq_flatMap]

theorem texts_painted {name : Value} {paint : Paint} {nodes : List Scene}
    (h : painted name paint nodes = .ok node) : node.texts = nodes.flatMap texts := by
  obtain ⟨box, style, rfl⟩ := painted_ok h
  exact texts_frame box style nodes

theorem texts_textNode {characters : Value} {style : Option TextStyle}
    (h : textNode pen characters style = .ok node) :
    node.texts = [TextRun.styled pen.fontFamily style characters] := by
  unfold textNode at h
  cases hloaded : pen.fontsLoaded with
  | false =>
      rw [hloaded] at h
      cases h
  | true =>
      rw [hloaded] at h
      obtain ⟨fill, _, h⟩ := Except.bind_ok_iff.mp h
      cases h
      rfl

theorem texts_button (h : button pen head = .ok node) :
    node.texts = [TextRun.styled pen.fontFamily head.textStyle
      (head.propOr "content" (.string "Button"))] := by
  obtain ⟨frame, hframe, h⟩ := Except.bind_ok_iff.mp h
  obtain ⟨text, htext, h⟩ := Except.bind_ok_iff.mp h
  obtain ⟨box, style, rfl⟩ := painted_ok hframe
  cases h
  rw [texts_frame, List.flatMap_singleton, texts_textNode htext]

theorem texts_input (h : input pen head = .ok node) :
    node.texts = [TextRun.styled pen.fontFamily head.textStyle
      (head.propOr "placeholder" (.string ""))] := by
  obtain ⟨frame, hframe, h⟩ := Except.bind_ok_iff.mp h
  obtain ⟨text, htext, h⟩ := Except.bind_ok_iff.mp h
  obtain ⟨box, style, rfl⟩ := painted_ok hframe
  cases h
  rw [texts_frame, List.flatMap_singleton, texts_mapBox, texts_textNode htext]

theorem texts_icon (h : icon pen head = .ok node) :
    node.texts = (if (head.prop "label").truthy then [.string (head.prop "label").fullText]
      else []).map (TextRun.styled pen.fontFamily head.textStyle) := by
  obtain ⟨name, _, h⟩ := Except.bind_ok_iff.mp h
  obtain ⟨stroke, _, h⟩ := Except.bind_ok_iff.mp h
  dsimp only at h
  split at h
  · rename_i hlabel
    obtain ⟨shown, hshown, h⟩ := Except.bind_ok_iff.mp h
    obtain ⟨text, htext, h⟩ := Except.bind_ok_iff.mp h
    cases h
    rw [if_pos hlabel, texts_frame, List.flatMap_cons, List.flatMap_singleton,
      texts_textNode htext, (Value.display_ok_iff.mp hshown).2]
    rfl
  · rename_i hlabel
    cases h
    rw [if_neg hlabel]
    rfl

theorem texts_switch (h : switch head = .ok node) : node.texts = [] := by
  obtain ⟨frame, hframe, h⟩ := Except.bind_ok_iff.mp h
  obtain ⟨fill, _, h⟩ := Except.bind_ok_iff.mp h
  obtain ⟨box, style, rfl⟩ := painted_ok hframe
  cases h
  rfl

/-- The node of a leaf shows the words of the leaf, in its style. -/
theorem texts_leaf (h : leaf pen head = .ok node) : node.texts = head.runs pen.fontFamily := by
  unfold leaf at h
  unfold PlanHead.runs PlanHead.words
  cases hkind : head.kind
  all_goals rw [hkind] at h
  case text => exact texts_textNode h
  case button => exact texts_button h
  case input => exact texts_input h
  case image => exact texts_painted h
  case icon => exact texts_icon h
  case divider =>
    obtain ⟨stroke, _, h⟩ := Except.bind_ok_iff.mp h
    cases h
    rfl
  case spacer =>
    cases h
    rfl
  case switch => exact texts_switch h
  case container => cases h

theorem runs_of_isContainer (family : String) (h : head.isContainer = true) :
    head.runs family = [] := by
  unfold PlanHead.runs PlanHead.words
  rw [eq_of_beq h]
  rfl

end Scene

/-- The texts of a scene are those of the leaves of its plan, in order. -/
theorem Plan.Built.texts_materialize {P : PlanHead → Prop} {plan : Plan} {pen : Scene.Pen}
    {node : Scene} (built : plan.Built P) (h : (Scene.target pen).materialize plan = .ok node) :
    node.texts = plan.walk.flatMap (PlanHead.runs pen.fontFamily) := by
  have hlayout (head : PlanHead) (node : Scene) :
      ((Scene.target pen).layout head node).texts = node.texts :=
    (Scene.texts_mapBox _ _).trans (Scene.texts_mapStyle _ _)
  induction built generalizing node with
  | leaf kind _ =>
      obtain ⟨bare, hbare, rfl⟩ := (Target.materialize_leaf_ok_iff kind).mp h
      rw [hlayout, Scene.texts_leaf hbare, walk, Tree.preorder_node, List.flatMap_nil,
        List.flatMap_singleton]
  | @container head parts kind _ _ _ ih =>
      obtain ⟨nodes, frame, hnodes, hframe, rfl⟩ :=
        (Target.materialize_container_ok_iff kind).mp h
      have hparts : parts.map (fun part : Plan =>
          (Plan.walk part).flatMap (PlanHead.runs pen.fontFamily)) = nodes.map Scene.texts :=
        map_eq_of_forall₂ hnodes fun part hpart node hnode => (ih part hpart hnode).symm
      rw [hlayout, Scene.texts_painted hframe, walk, Tree.preorder_node, List.flatMap_cons,
        Scene.runs_of_isContainer _ kind, List.nil_append, List.flatMap_assoc, List.flatMap_def,
        ← hparts, ← List.flatMap_def]
      rfl

end Wireframe

import Wireframe.Proofs.Json.Numeral
import Wireframe.Proofs.Plan.Each
import Wireframe.Proofs.Preview.Selected
import Wireframe.Proofs.Scene.Texts

/-! # The words of previews and scenes

A reader of a preview finds words in document order, and so does a reader of a scene: those of the
leaves of the plan. The caption of an image is no word, as it stands for the image. An input shows
its label in the preview alone, so that preview and scene of an element say the same exactly when
no input in them is labelled.
-/

namespace Wireframe

/-! ## Words -/

def MarkupHead.isCaption (head : MarkupHead) : Bool :=
  head.tag == "span" && head.hasClass "wf-image-label"

def MarkupHead.wording (head : MarkupHead) : String :=
  if head.isCaption then "" else head.shownText

def Markup.wording (node : Markup) : String :=
  String.join (node.preorder.map MarkupHead.wording)

def TextRun.shownText (run : TextRun) : String := run.characters.string?.getD ""

def Scene.wording (node : Scene) : String := String.join (node.texts.map TextRun.shownText)

namespace PlanHead

/-- The words that every target shows of the node. -/
def wording (head : PlanHead) : String :=
  String.join (head.words.map fun v => v.string?.getD "")

def inputLabel (head : PlanHead) : String :=
  match head.kind with
  | .input => if (head.prop "label").truthy then (head.prop "label").fullText else ""
  | _ => ""

end PlanHead

/-- No input that is drawn for an element has a label. -/
def Element.Unlabelled (rules : Rules) (e : Element) : Prop :=
  e.Each rules fun head => head.type = "input" → (head.props.value "label").truthy = false

/-! ## Joined texts -/

theorem join_flatMap {α : Type} (f : α → List String) (xs : List α) :
    String.join (xs.flatMap f) = String.join (xs.map fun x => String.join (f x)) := by
  induction xs with
  | nil => rfl
  | cons x xs ih => rw [List.flatMap_cons, List.map_cons, String.join_append, String.join_cons, ih]

theorem join_preorder_node {α : Type} (f : α → String) (head : α) (nodes : List (Tree α)) :
    String.join ((Tree.node head nodes).preorder.map f) =
      f head ++ String.join (nodes.map fun node => String.join (node.preorder.map f)) := by
  rw [Tree.preorder_node, List.map_cons, String.join_cons, List.map_flatMap, join_flatMap]

/-- Texts to which others are added stay as they are together only when all that is added is
empty. -/
theorem join_added_eq_iff {α : Type} (added kept : α → String) (xs : List α) :
    String.join (xs.map fun x => added x ++ kept x) = String.join (xs.map kept) ↔
      ∀ x ∈ xs, added x = "" := by
  have hle (xs : List α) : (String.join (xs.map kept)).length ≤
      (String.join (xs.map fun x => added x ++ kept x)).length := by
    induction xs with
    | nil => exact Nat.le_refl _
    | cons x xs ih =>
        simp only [List.map_cons, String.join_cons, String.length_append]
        omega
  induction xs with
  | nil => simp
  | cons x xs ih =>
      rw [List.map_cons, List.map_cons, String.join_cons, String.join_cons, List.forall_mem_cons]
      constructor
      · intro h
        have hlength := congrArg String.length h
        have hrest := hle xs
        simp only [String.length_append] at hlength
        have hempty : added x = "" := String.length_eq_zero_iff.mp (by omega)
        rw [hempty, String.empty_append, String.append_right_inj] at h
        exact ⟨hempty, ih.mp h⟩
      · intro h
        rw [h.1, ih.mpr h.2, String.empty_append]

theorem MarkupHead.wording_of_tag {head : MarkupHead} (h : head.tag ≠ "span") :
    head.wording = head.shownText := by
  simp [wording, isCaption, h]

namespace Markup

theorem wording_node (head : MarkupHead) (nodes : List Markup) :
    wording (.node head nodes) = head.wording ++ String.join (nodes.map wording) :=
  join_preorder_node _ _ _

@[simp] theorem wording_leaf (head : MarkupHead) : (leaf head).wording = head.wording := by
  rw [leaf, wording_node, List.map_nil, String.join_nil, String.append_empty]

end Markup

/-! ## Labels -/

theorem Value.fullText_ne_empty {v : Value} (h : v.truthy = true) : v.fullText ≠ "" := by
  cases v with
  | string s => simpa [truthy, fullText] using h
  | number n =>
      rw [fullText_number]
      exact n.fullText_ne_empty
  | null => cases h
  | bool b => cases b <;> decide +kernel
  | list items => cases items <;> simp [fullText, quotedChars]
  | object members => cases members <;> simp [fullText, quotedChars]

namespace PlanHead

variable {head : PlanHead}

theorem inputLabel_eq_empty (kind : head.kind = .input) :
    head.inputLabel = "" ↔ (head.prop "label").truthy = false := by
  rw [inputLabel, kind]
  dsimp only
  split
  · rename_i hlabel
    simp [Value.fullText_ne_empty hlabel, hlabel]
  · rename_i hlabel
    simp [hlabel]

theorem inputLabel_of_ne (kind : head.kind ≠ .input) : head.inputLabel = "" := by
  unfold inputLabel
  split
  · exact absurd ‹_› kind
  · rfl

/-- A prop that is a string is there, so that no default stands for it. -/
theorem propOr_of_string {name : String} (h : (head.prop name).string?.isSome = true)
    (default : Value) : head.propOr name default = head.prop name := by
  unfold prop Members.value at h ⊢
  rw [propOr]
  cases hvalue : head.props.value? name with
  | none =>
      rw [hvalue] at h
      cases h
  | some v => rfl

theorem IsSound.words_isString (sound : head.IsSound) :
    ∀ v ∈ head.words, v.string?.isSome = true := by
  have hshown := sound.shown
  rw [showsStrings, List.all_eq_true] at hshown
  unfold PlanHead.shown at hshown
  unfold words
  cases kind : head.kind
  all_goals simp only [kind, List.forall_mem_singleton] at hshown ⊢
  case text => exact hshown
  case button => rwa [propOr_of_string hshown]
  case input => rwa [propOr_of_string hshown]
  case icon => split <;> simp [Value.string?]
  all_goals exact nofun

end PlanHead

namespace Preview

variable {screenId : String} {selection : Selection} {plan : PlanHead} {node : Markup}

theorem wording_finish (head : MarkupHead) :
    (finish screenId selection plan head).wording = head.wording := by
  have hmark : (markHead screenId selection plan head).wording = head.wording := by
    unfold markHead
    split
    · dsimp only
      split <;> simp [MarkupHead.wording, MarkupHead.isCaption, MarkupHead.hasClass,
        MarkupHead.setAttribute, MarkupHead.shownText]
    · rfl
  rw [finish, ← hmark]
  unfold layoutHead
  split
  · split <;> rfl
  · split
    · simp [MarkupHead.wording, MarkupHead.isCaption, MarkupHead.hasClass,
        MarkupHead.addClass, MarkupHead.shownText]
    · rfl

/-! ## Sketches -/

@[simp] theorem wording_span (className : String) (text : Value) :
    (span className text).wording =
      if className = "wf-image-label" then "" else text.string?.getD "" := by
  by_cases h : className = "wf-image-label"
  · simp [span, MarkupHead.wording, MarkupHead.isCaption, MarkupHead.hasClass, h]
  · simp [span, MarkupHead.wording, MarkupHead.isCaption, MarkupHead.hasClass, Ne.symm h, h,
      MarkupHead.shownText]

@[simp] theorem wording_textless (classes : List String) :
    MarkupHead.wording { classes } = "" := by
  simp [MarkupHead.wording_of_tag, MarkupHead.shownText, Value.string?]

/-- Texts that flow in a line are spans as captions are, but of other classes. -/
theorem not_caption_of_inline {classes : List String} (hinline : inlineRoles.contains plan.role)
    (h : textClasses plan = .ok classes) : "wf-image-label" ∉ classes := by
  have hrole : plan.role = "nav-label" ∨ plan.role = "list-trailing" ∨
      plan.role = "card-badge" := by simpa [inlineRoles] using hinline
  have hname : "wf-image-label" ≠ "wf-" ++ plan.role := by
    rcases hrole with h | h | h <;> rw [h] <;> decide
  have hpart : plan.role ≠ "text" ∧ plan.role ≠ "badge" := by
    rcases hrole with h | h | h <;> rw [h] <;> decide
  obtain ⟨named, hnamed, h⟩ := Except.bind_ok_iff.mp h
  rw [roleClasses, if_neg hpart.1, if_neg hpart.2] at hnamed
  cases hnamed
  cases h
  simp only [List.mem_append, List.mem_singleton, not_or]
  refine ⟨⟨hname, ?_⟩, ?_⟩
  · split <;> decide
  · split <;> decide

theorem labels_wording {tag className : String} {labels : List Markup}
    (hname : className ≠ "wf-image-label") (h : ShowsLabel tag className plan labels) :
    String.join (labels.map Markup.wording) =
      if (plan.prop "label").truthy then (plan.prop "label").fullText else "" := by
  cases h with
  | missing unlabelled => simp [unlabelled]
  | present labelled =>
      simp [labelled, MarkupHead.wording, MarkupHead.isCaption, MarkupHead.hasClass, hname.symm,
        MarkupHead.shownText, Value.string?]

theorem text_wording {classes : List String} (kind : plan.kind = .text)
    (named : textClasses plan = .ok classes) :
    MarkupHead.wording {
      tag := if inlineRoles.contains plan.role then "span" else "div"
      classes
      text := plan.propOr "content" (.string "") } = plan.wording := by
  rw [PlanHead.wording, PlanHead.words, kind]
  cases hinline : inlineRoles.contains plan.role with
  | true =>
      have hcaption := not_caption_of_inline hinline named
      simp [MarkupHead.wording, MarkupHead.isCaption, MarkupHead.hasClass, hcaption,
        MarkupHead.shownText]
  | false => simp [MarkupHead.wording_of_tag, MarkupHead.shownText]

/-- A sketch shows the label of an input, and the words of the node. -/
theorem SketchForm.wording (h : SketchForm plan node) (sound : plan.IsSound) :
    node.wording = plan.inputLabel ++ plan.wording := by
  cases h with
  | text kind named =>
      rw [Markup.wording_leaf, text_wording kind named,
        PlanHead.inputLabel_of_ne (by simp [kind]), String.empty_append]
  | cardAction kind =>
      have hshown := sound.isString (v := plan.prop "content") (by simp [PlanHead.shown, kind])
      simp [PlanHead.inputLabel, PlanHead.wording, PlanHead.words, kind,
        PlanHead.propOr_of_string hshown, MarkupHead.wording_of_tag, MarkupHead.shownText]
  | button kind =>
      have hshown := sound.isString (v := plan.prop "content") (by simp [PlanHead.shown, kind])
      simp [PlanHead.inputLabel, PlanHead.wording, PlanHead.words, kind,
        PlanHead.propOr_of_string hshown, MarkupHead.wording_of_tag, MarkupHead.shownText]
  | @input labels drawing kind labelled =>
      have hshown := sound.isString (v := plan.prop "placeholder")
        (by simp [PlanHead.shown, kind])
      have hicon : MarkupHead.wording
          { tag := "span", classes := ["wf-input-icon"], raw := some drawing } = "" := by
        simp [MarkupHead.wording, MarkupHead.shownText, Value.string?]
      rw [PlanHead.inputLabel, PlanHead.wording, PlanHead.words, kind, Markup.wording_node,
        List.map_append, String.join_append, labels_wording (by decide) labelled]
      simp [PlanHead.propOr_of_string hshown, hicon, MarkupHead.wording_of_tag,
        MarkupHead.shownText, Value.string?]
  | icon kind _ labelled =>
      rw [PlanHead.inputLabel, PlanHead.wording, PlanHead.words, kind, Markup.wording_node,
        labels_wording (by decide) labelled]
      split <;> simp [MarkupHead.wording_of_tag, MarkupHead.shownText, Value.string?, *]
  -- The other nodes have no words, and the caption of an image is none.
  | image kind =>
      simp [PlanHead.inputLabel, PlanHead.wording, PlanHead.words, kind, Markup.wording_node]
  | switch kind =>
      simp [PlanHead.inputLabel, PlanHead.wording, PlanHead.words, kind, Markup.wording_node]
  | container kind => simp [PlanHead.inputLabel, PlanHead.wording, PlanHead.words, kind]
  | cardImage kind => simp [PlanHead.inputLabel, PlanHead.wording, PlanHead.words, kind]
  | thumbnail kind => simp [PlanHead.inputLabel, PlanHead.wording, PlanHead.words, kind]
  | divider kind => simp [PlanHead.inputLabel, PlanHead.wording, PlanHead.words, kind]
  | spacer kind => simp [PlanHead.inputLabel, PlanHead.wording, PlanHead.words, kind]

/-- A preview shows the labels of inputs and the words of its plan, node by node. -/
theorem materialize_wording {tree : Plan} (built : tree.Built PlanHead.IsSound)
    (h : (target screenId selection).materialize tree = .ok node) :
    node.wording = String.join (tree.walk.map fun head => head.inputLabel ++ head.wording) := by
  induction tree using Tree.induct generalizing node with
  | node plan parts ih =>
      obtain ⟨drawn, below, hdrawn, hbelow, rfl⟩ := exists_sketch built h
      have hsketch := (sketchForm_of_sketch hdrawn).wording built.holds
      have hparts : parts.map (fun part : Plan =>
          String.join ((Plan.walk part).map fun head => head.inputLabel ++ head.wording)) =
          below.map Markup.wording :=
        map_eq_of_forall₂ hbelow fun part hpart node hnode =>
          (ih part hpart (built.of_mem_children hpart) hnode).symm
      obtain ⟨head, nodes⟩ := drawn
      rw [Markup.wording_node] at hsketch
      rw [Markup.wording_node, wording_finish, Tree.label_node, Tree.children_node, List.map_append,
        String.join_append, ← String.append_assoc, hsketch, ← hparts, Plan.walk, join_preorder_node]
      rfl

end Preview

theorem Scene.materialize_wording {tree : Plan} {pen : Scene.Pen} {node : Scene}
    (built : tree.Built PlanHead.IsSound) (h : (Scene.target pen).materialize tree = .ok node) :
    node.wording = String.join (tree.walk.map PlanHead.wording) := by
  rw [Scene.wording, built.texts_materialize h, List.map_flatMap, join_flatMap]
  refine congrArg String.join (List.map_congr_left fun head _ => ?_)
  rw [PlanHead.wording, PlanHead.runs, List.map_map]
  rfl

namespace Rules

variable {rules : Rules} {inherited : Option String} {plan : Plan} {screenId : String}
  {selection : Selection} {pen : Scene.Pen} {preview : Markup} {scene : Scene}

/-- A node of a plan has a label exactly when it is drawn for an input that has one. -/
theorem inputLabel_reads : Reads (fun head => head.inputLabel == "") fun head =>
    head.type = "input" → (head.props.value "label").truthy = false where
  root := by
    intro rule head children drawn hrule htype h
    rw [beq_iff_eq, ← htype]
    by_cases hinput : rule.typeName = "input"
    · have hrule : rule = Rule.inputRule := Rule.eq_of_typeName hrule (by simp [builtin]) hinput
      rw [hrule] at h
      have hdefault : (Rule.inputRule.defaults.value "label").truthy = false := by decide +kernel
      have hlabel : Resolution.has ⟨head.props, Rule.inputRule.defaults, children⟩ "label" =
          (head.props.value "label").truthy := Resolution.has_eq hdefault
      obtain ⟨placeholder, _, h⟩ := Except.bind_ok_iff.mp h
      cases h
      rw [PlanHead.inputLabel_eq_empty rfl, ← hlabel]
      exact ⟨fun h _ => h, fun h => h hinput⟩
    · exact iff_of_true (PlanHead.inputLabel_of_ne (Rule.kind_ne_input hrule h hinput))
        fun h => absurd h hinput
  marked _ _ _ _ := rfl
  fixed head fixed := by rw [beq_iff_eq, PlanHead.inputLabel_of_ne fixed.kind]
  fallback _ := rfl

/-- The words of an element's preview and those of its scene are strings, and the two say the same
exactly when no input that is drawn has a label. -/
theorem resolve_wording (hrules : rules ⊆ builtin) {e : Element}
    (h : rules.resolve inherited e = .ok plan)
    (hpreview : (Preview.target screenId selection).materialize plan = .ok preview)
    (hscene : (Scene.target pen).materialize plan = .ok scene) :
    preview.isWritable = true ∧ (∀ run ∈ scene.texts, run.characters.string?.isSome = true) ∧
      (preview.wording = scene.wording ↔ e.Unlabelled rules) := by
  have resolved := resolve_resolved hrules h
  have sound := resolve_sound hrules h
  refine ⟨?_, ?_, ?_⟩
  · rw [Markup.isWritable, List.all_eq_true]
    exact fun head hhead =>
      (Preview.materialize_isDrawn Text.isSpace_isWhitespace resolved hpreview head hhead).writable
  · intro run hrun
    rw [sound.texts_materialize hscene, List.mem_flatMap] at hrun
    obtain ⟨head, hhead, hrun⟩ := hrun
    obtain ⟨v, hv, rfl⟩ := List.mem_map.mp hrun
    exact (sound.of_mem_walk head hhead).words_isString v hv
  · rw [Preview.materialize_wording sound hpreview, Scene.materialize_wording sound hscene,
      join_added_eq_iff, Element.Unlabelled, ← walk_all_iff inputLabel_reads hrules h,
      List.all_eq_true]
    simp

/-- An image, a labelled icon, an input and a card in a box read the same in both. -/
theorem resolve_wording_box :
    let e : Element := .node ⟨"box", none, []⟩ [
      .node ⟨"image", none, [("label", .string "Hero")]⟩ [],
      .node ⟨"icon", none, [("name", .string "bell"), ("label", .string "Alerts, ")]⟩ [],
      .node ⟨"input", none, [("placeholder", .string "Find, ")]⟩ [],
      .node ⟨"card", none, [("title", .string "Shoe, "), ("price", .string "$9")]⟩ []]
    ∃ plan preview scene, builtin.resolve none e = .ok plan ∧
      (Preview.target "" Selection.none).materialize plan = .ok preview ∧
      (Scene.target ⟨"Inter", true⟩).materialize plan = .ok scene ∧
      preview.isWritable = true ∧ (∀ run ∈ scene.texts, run.characters.string?.isSome = true) ∧
      preview.wording = scene.wording ∧ scene.wording = "Alerts, Find, Shoe, $9" := by
  intro e
  obtain ⟨plan, preview, scene, hplan, hpreview, hscene, hwords⟩ : ∃ plan preview scene,
      builtin.resolve none e = .ok plan ∧
      (Preview.target "" Selection.none).materialize plan = .ok preview ∧
      (Scene.target ⟨"Inter", true⟩).materialize plan = .ok scene ∧
      scene.wording = "Alerts, Find, Shoe, $9" := ⟨_, _, _, rfl, rfl, rfl, by decide +kernel⟩
  have hunlabelled : e.Unlabelled builtin := by
    refine .drawn nofun fun _ child hchild => ?_
    simp only [List.mem_cons, List.not_mem_nil, or_false] at hchild
    rcases hchild with rfl | rfl | rfl | rfl
    · exact .drawn nofun nofun
    · exact .drawn nofun nofun
    · exact .drawn (fun _ => rfl) nofun
    · exact .drawn nofun nofun
  obtain ⟨hwritable, hstrings, hsame⟩ :=
    resolve_wording (List.Subset.refl builtin) hplan hpreview hscene
  exact ⟨plan, preview, scene, hplan, hpreview, hscene, hwritable, hstrings,
    hsame.mpr hunlabelled, hwords⟩

/-- The label of an input is read in the preview, and not in the scene. -/
theorem resolve_wording_labelled :
    let e : Element := .node ⟨"input", none, [("label", .string "Name")]⟩ []
    ∃ plan preview scene, builtin.resolve none e = .ok plan ∧
      (Preview.target "" Selection.none).materialize plan = .ok preview ∧
      (Scene.target ⟨"Inter", true⟩).materialize plan = .ok scene ∧
      preview.wording = "NameEnter text..." ∧ scene.wording = "Enter text..." ∧
      preview.wording ≠ scene.wording := by
  intro e
  exact ⟨_, _, _, rfl, rfl, rfl, by decide +kernel, by decide +kernel, by decide +kernel⟩

end Rules

end Wireframe

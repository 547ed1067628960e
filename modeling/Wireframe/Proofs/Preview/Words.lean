import Wireframe.Proofs.Plan.Resolvable
import Wireframe.Proofs.Preview.Marks

/-! # The words of class names

The class names of a preview are put together from fixed words, from roles, and from one value that
a plan's node may give. A reader splits them at white space. Of the words that it finds, `selected`
is one of a sketch only where the given value has it behind some white space; marking adds it to the
root of an element that is selected.
-/

namespace Wireframe

def MarkupHead.classWords (space : Char → Bool) (head : MarkupHead) : List String :=
  head.classes.flatMap (Text.words space)

/-- The words behind the first white space of the value that a class of the node is named after. -/
def PlanHead.strayWords (space : Char → Bool) (head : PlanHead) : List String :=
  head.classValue?.toList.flatMap fun v => Text.laterWords space v.fullText

/-- The words behind the first white space of the value that a class of the element is named after.
An element that becomes a fallback text has no such class. -/
def Element.strayWords (rules : Rules) (space : Char → Bool) (e : Element) : List String :=
  if (rules.rule? e.label.type).isSome then
    (classProp? e.label.type).toList.flatMap fun name =>
      Text.laterWords space (e.label.props.value name).fullText
  else []

/-- A node that can be written, and has trusted markup or a text of its own but not both. -/
structure MarkupHead.IsShown (head : MarkupHead) : Prop where
  writable : head.isWritable = true
  text : head.raw = none ∨ head.text = .null

namespace MarkupHead

variable {head : MarkupHead}

theorem IsShown.text_only (htext : head.text.string?.isSome = true) (hraw : head.raw = none)
    (hattributes : head.attributes = []) : head.IsShown :=
  ⟨by simp [isWritable, htext, hattributes], .inl hraw⟩

theorem IsShown.textless (htext : head.text = .null) (hattributes : head.attributes = []) :
    head.IsShown :=
  ⟨by simp [isWritable, htext, hattributes, Value.truthy], .inr htext⟩

theorem IsShown.setAttribute (shown : head.IsShown) (key value : String) :
    (head.setAttribute key value).IsShown := by
  obtain ⟨htext, hattributes⟩ := Bool.and_eq_true_iff.mp shown.writable
  refine ⟨Bool.and_eq_true_iff.mpr ⟨htext, List.all_eq_true.mpr fun entry hentry => ?_⟩, shown.text⟩
  rcases Members.mem_put hentry with hentry | rfl
  · exact List.all_eq_true.mp hattributes entry hentry
  · rfl

end MarkupHead

namespace Preview

variable {space : Char → Bool} {plan : PlanHead} {node : Markup} {screenId : String}
  {selection : Selection}

/-- A sketch has the word `selected` among its classes at the root alone, and there only where the
plan's node gives it; it can be written. -/
structure IsSketch (space : Char → Bool) (plan : PlanHead) (node : Markup) : Prop where
  root : "selected" ∈ node.label.classWords space ↔ "selected" ∈ plan.strayWords space
  inner : ∀ part ∈ node.children, ∀ head ∈ part.preorder, "selected" ∉ head.classWords space
  shown : ∀ head ∈ node.preorder, head.IsShown

structure IsDetail (space : Char → Bool) (node : Markup) : Prop where
  childless : node.children = []
  quiet : "selected" ∉ node.label.classWords space
  shown : node.label.IsShown

theorem IsDetail.preorder_eq (detail : IsDetail space node) : node.preorder = [node.label] := by
  obtain ⟨head, nodes⟩ := node
  have hnodes : nodes = [] := detail.childless
  rw [hnodes]
  rfl

theorem IsSketch.leaf {head : MarkupHead}
    (root : "selected" ∈ head.classWords space ↔ "selected" ∈ plan.strayWords space)
    (shown : head.IsShown) : IsSketch space plan (Markup.leaf head) :=
  ⟨root, by simp [Markup.leaf], by simpa [Markup.leaf, Tree.preorder_node] using shown⟩

theorem IsSketch.parent {head : MarkupHead} {nodes : List Markup}
    (root : "selected" ∈ head.classWords space ↔ "selected" ∈ plan.strayWords space)
    (shown : head.IsShown) (below : ∀ part ∈ nodes, IsDetail space part) :
    IsSketch space plan (.node head nodes) := by
  refine ⟨root, fun part hpart inner hinner => ?_, fun inner hinner => ?_⟩
  · rw [(below part hpart).preorder_eq, List.mem_singleton] at hinner
    rw [hinner]
    exact (below part hpart).quiet
  · rw [Tree.preorder_node, List.mem_cons, List.mem_flatMap] at hinner
    rcases hinner with rfl | ⟨part, hpart, hinner⟩
    · exact shown
    · rw [(below part hpart).preorder_eq, List.mem_singleton] at hinner
      rw [hinner]
      exact (below part hpart).shown

/-! ## Classes -/

section Classes

variable (hspace : Text.IsSpace space)

include hspace

theorem role_quiet (hrole : Text.isPlain plan.role = true) :
    "selected" ∉ Text.words space ("wf-" ++ plan.role) := by
  rw [Text.mem_words_append hspace (by decide) (by decide), Text.laterWords_of_plain hspace hrole]
  exact List.not_mem_nil

theorem fixed_quiet {names : List String}
    (hnames : names.all (fun name => Text.isPlain name && "selected" != name) = true) :
    "selected" ∉ names.flatMap (Text.words space) := by
  intro h
  obtain ⟨name, hname, hword⟩ := List.mem_flatMap.mp h
  have hplain := List.all_eq_true.mp hnames name hname
  rw [Bool.and_eq_true, bne_iff_ne] at hplain
  exact Text.not_mem_words_of_plain hspace hplain.1 hplain.2 hword

/-- A class name of the library's own in front of one that ends in a given value. -/
theorem named_selected {fixed stem : String} {v : Value} {names : List String}
    (hfixed : (Text.isPlain fixed && "selected" != fixed) = true)
    (hstem : Text.isPlain stem = true) (hstart : ¬ stem.toList <+: "selected".toList)
    (h : namedClasses fixed stem v = .ok names) :
    "selected" ∈ names.flatMap (Text.words space) ↔
      "selected" ∈ Text.laterWords space v.fullText := by
  obtain ⟨-, rfl⟩ := namedClasses_ok_iff.mp h
  rw [Bool.and_eq_true, bne_iff_ne] at hfixed
  have hquiet := Text.not_mem_words_of_plain hspace hfixed.1 hfixed.2
  rw [List.flatMap_cons, List.flatMap_singleton, List.mem_append, or_iff_right hquiet,
    Text.mem_words_append hspace hstem hstart]

theorem roleClasses_selected {names : List String} (kind : plan.kind = .text)
    (hrole : Text.isPlain plan.role = true) (h : roleClasses plan = .ok names) :
    "selected" ∈ names.flatMap (Text.words space) ↔ "selected" ∈ plan.strayWords space := by
  unfold PlanHead.strayWords PlanHead.classValue?
  simp only [kind]
  unfold roleClasses at h
  split at h
  · next hname => simpa [hname] using named_selected hspace rfl rfl (by decide) h
  · next hname =>
    split at h
    · next hbadge => simpa [hbadge] using named_selected hspace rfl rfl (by decide) h
    · next hbadge =>
      cases h
      simpa [hname, hbadge] using role_quiet hspace hrole

theorem textClasses_selected {names : List String} (kind : plan.kind = .text)
    (hrole : Text.isPlain plan.role = true) (h : textClasses plan = .ok names) :
    "selected" ∈ names.flatMap (Text.words space) ↔ "selected" ∈ plan.strayWords space := by
  obtain ⟨named, hnamed, h⟩ := Except.bind_ok_iff.mp h
  cases h
  simp only [List.flatMap_append, List.mem_append]
  refine (or_iff_left ?_).trans ((or_iff_left ?_).trans ?_)
  · split
    · exact fixed_quiet hspace rfl
    · exact List.not_mem_nil
  · split
    · exact fixed_quiet hspace rfl
    · exact fixed_quiet hspace rfl
    · exact List.not_mem_nil
  · exact roleClasses_selected hspace kind hrole hnamed

theorem containerClasses_selected {names : List String} (kind : plan.kind = .container)
    (hrole : Text.isPlain plan.role = true) (h : containerClasses plan = .ok names) :
    "selected" ∈ names.flatMap (Text.words space) ↔ "selected" ∈ plan.strayWords space := by
  unfold PlanHead.strayWords PlanHead.classValue?
  simp only [kind]
  unfold containerClasses at h
  split at h
  · next hbox => simpa [hbox] using named_selected hspace rfl rfl (by decide) h
  · next hbox =>
    split at h
    · next hcard => simpa [hcard] using named_selected hspace rfl rfl (by decide) h
    · next hcard =>
      split at h
      · cases h
        have hactive : "selected" ∉ ["wf-nav-item", "active"].flatMap (Text.words space) :=
          fixed_quiet hspace rfl
        simpa [hbox, hcard] using hactive
      · cases h
        simpa [hbox, hcard] using role_quiet hspace hrole

/-! ## Drawn leaves -/

theorem span_detail {className : String} {text : Value}
    (hclass : (Text.isPlain className && "selected" != className) = true)
    (htext : text.string?.isSome = true) : IsDetail space (span className text) := by
  have hquiet : "selected" ∉ [className].flatMap (Text.words space) :=
    fixed_quiet hspace (by simpa using hclass)
  exact ⟨rfl, hquiet, .text_only htext rfl rfl⟩

theorem labels_detail {tag className : String} {labels : List Markup}
    (hclass : (Text.isPlain className && "selected" != className) = true)
    (h : ShowsLabel tag className plan labels) : ∀ label ∈ labels, IsDetail space label := by
  cases h with
  | missing => simp
  | present =>
      have hquiet : "selected" ∉ [className].flatMap (Text.words space) :=
        fixed_quiet hspace (by simpa using hclass)
      simpa using ⟨rfl, hquiet, .text_only rfl rfl rfl⟩

/-- In the sketch of a sound node, `selected` is a word only where the node gives it. -/
theorem SketchForm.isSketch (h : SketchForm plan node) (sound : plan.IsSound) :
    IsSketch space plan node := by
  cases h with
  | container kind named =>
      exact .leaf (containerClasses_selected hspace kind sound.role_plain named)
        (.textless rfl rfl)
  | text kind named =>
      have hshown := sound.isString (v := plan.propOr "content" (.string ""))
        (by simp [PlanHead.shown, kind])
      exact .leaf (textClasses_selected hspace kind sound.role_plain named)
        (.text_only hshown rfl rfl)
  | cardAction kind role =>
      have hshown := sound.isString (v := plan.prop "content") (by simp [PlanHead.shown, kind])
      refine .leaf (iff_of_false (fixed_quiet hspace rfl) ?_) (.text_only hshown rfl rfl)
      simp [PlanHead.strayWords, PlanHead.classValue?, kind, role]
  | button kind role named =>
      have hshown := sound.isString (v := plan.prop "content") (by simp [PlanHead.shown, kind])
      refine .leaf ((named_selected hspace rfl rfl (by decide) named).trans ?_)
        (.text_only hshown rfl rfl)
      simp [PlanHead.strayWords, PlanHead.classValue?, kind, role]
  | input kind labelled =>
      have hshown := sound.isString (v := plan.prop "placeholder")
        (by simp [PlanHead.shown, kind])
      refine .parent (iff_of_false (fixed_quiet hspace rfl) ?_) (.textless rfl rfl) ?_
      · simp [PlanHead.strayWords, PlanHead.classValue?, kind]
      · rw [List.forall_mem_append, List.forall_mem_cons, List.forall_mem_singleton]
        exact ⟨labels_detail hspace rfl labelled,
          ⟨rfl, fixed_quiet hspace rfl, .textless rfl rfl⟩, span_detail hspace rfl hshown⟩
  | cardImage kind role =>
      refine .leaf (iff_of_false (fixed_quiet hspace rfl) ?_) (.textless rfl rfl)
      simp [PlanHead.strayWords, PlanHead.classValue?, kind, role]
  | image kind role named =>
      have hshown := sound.isString (v := plan.propOr "label" (.string "Image"))
        (by simp [PlanHead.shown, kind, role])
      refine .parent ((named_selected hspace rfl rfl (by decide) named).trans ?_)
        (.textless rfl rfl) ?_
      · simp [PlanHead.strayWords, PlanHead.classValue?, kind, role]
      · rw [List.forall_mem_singleton]
        exact span_detail hspace rfl hshown
  | thumbnail kind role named =>
      refine .leaf ?_ (.textless rfl rfl)
      rw [MarkupHead.classWords, List.flatMap_append, List.mem_append, List.flatMap_singleton,
        or_iff_left (role_quiet hspace sound.role_plain)]
      refine (named_selected hspace rfl rfl (by decide) named).trans ?_
      simp [PlanHead.strayWords, PlanHead.classValue?, kind, role]
  | icon kind _ labelled =>
      refine .parent (iff_of_false ?_ ?_) (.textless rfl rfl) (labels_detail hspace rfl labelled)
      · simpa [MarkupHead.classWords] using role_quiet hspace sound.role_plain
      · simp [PlanHead.strayWords, PlanHead.classValue?, kind]
  | divider kind =>
      refine .leaf (iff_of_false (fixed_quiet hspace rfl) ?_) (.textless rfl rfl)
      simp [PlanHead.strayWords, PlanHead.classValue?, kind]
  | spacer kind named =>
      refine .leaf ((named_selected hspace rfl rfl (by decide) named).trans ?_) (.textless rfl rfl)
      simp [PlanHead.strayWords, PlanHead.classValue?, kind]
  | switch kind =>
      refine .parent (iff_of_false ?_ ?_) (.textless rfl rfl) ?_
      · rw [MarkupHead.classWords]
        dsimp only
        split <;> exact fixed_quiet hspace rfl
      · simp [PlanHead.strayWords, PlanHead.classValue?, kind]
      · rw [List.forall_mem_singleton]
        exact ⟨rfl, fixed_quiet hspace rfl, .textless rfl rfl⟩

theorem sketch_selected (sound : plan.IsSound) (h : sketch plan = .ok node) :
    IsSketch space plan node :=
  (sketchForm_of_sketch h).isSketch hspace sound

end Classes

/-! ## Finished roots -/

theorem classWords_addClass (head : MarkupHead) (name : String) :
    (head.addClass name).classWords space = head.classWords space ++ Text.words space name := by
  simp [MarkupHead.classWords, MarkupHead.addClass]

theorem layoutHead_selected (hspace : Text.IsSpace space) (head : MarkupHead) :
    "selected" ∈ (layoutHead plan head).classWords space ↔ "selected" ∈ head.classWords space := by
  unfold layoutHead
  split
  · split <;> exact Iff.rfl
  · split
    · rw [classWords_addClass, List.mem_append, or_iff_left]
      exact Text.not_mem_words_of_plain hspace rfl (by decide)
    · exact Iff.rfl

/-- Marking adds the word to the root of an element that is selected. -/
theorem markHead_selected (hspace : Text.IsSpace space) (head : MarkupHead) :
    "selected" ∈ (markHead screenId selection plan head).classWords space ↔
      plan.isElement = true ∧ selection screenId (plan.elementId.getD "") = true ∨
        "selected" ∈ head.classWords space := by
  have hmark : "selected" ∉ Text.words space "wf-element" :=
    Text.not_mem_words_of_plain hspace rfl (by decide)
  unfold markHead
  cases hroot : plan.isElement with
  | false => simp
  | true =>
      have hclasses : ∀ added : List String,
          "selected" ∈ ("wf-element" :: head.classes ++ added).flatMap (Text.words space) ↔
            "selected" ∈ added.flatMap (Text.words space) ∨ "selected" ∈ head.classWords space := by
        intro added
        rw [List.cons_append, List.flatMap_cons, List.mem_append, or_iff_right hmark,
          List.flatMap_append, List.mem_append, or_comm, MarkupHead.classWords]
      refine (hclasses _).trans (or_congr_left ?_)
      cases selection screenId (plan.elementId.getD "") with
      | false => simp
      | true =>
          have hself : "selected" ∈ Text.words space "selected" :=
            Text.mem_words_self hspace rfl (by decide)
          simpa using hself

theorem finish_selected (hspace : Text.IsSpace space) (head : MarkupHead) :
    "selected" ∈ (finish screenId selection plan head).classWords space ↔
      plan.isElement = true ∧ selection screenId (plan.elementId.getD "") = true ∨
        "selected" ∈ head.classWords space :=
  (layoutHead_selected hspace _).trans (markHead_selected hspace _)

theorem markHead_shown {head : MarkupHead} (shown : head.IsShown) :
    (markHead screenId selection plan head).IsShown := by
  unfold markHead
  split
  · have hclassed (classes : List String) : { head with classes }.IsShown :=
      ⟨shown.writable, shown.text⟩
    exact ((hclassed _).setAttribute _ _).setAttribute _ _
  · exact shown

theorem layoutHead_shown {head : MarkupHead} (shown : head.IsShown) :
    (layoutHead plan head).IsShown := by
  unfold layoutHead
  split
  · split
    · exact shown.setAttribute _ _
    · exact shown
  · split
    · exact ⟨shown.writable, shown.text⟩
    · exact shown

/-- Neither marking nor layout sets a `class` among the attributes, which stands before the rest. -/
theorem finish_classless {head : MarkupHead} (hattributes : head.attributes = []) :
    (finish screenId selection plan head).attributes.has "class" = false := by
  have hmark : (markHead screenId selection plan head).attributes.value? "class" = none := by
    unfold markHead
    split
    · simp [MarkupHead.value?_setAttribute, hattributes]
    · simp [hattributes]
  unfold finish layoutHead Members.has
  split
  · split
    · simp [MarkupHead.value?_setAttribute, hmark]
    · simp [hmark]
  · split <;> simp [MarkupHead.addClass, hmark]

end Preview

/-! ## Given values -/

theorem laterWords_flatMap_eq_nil {space : Char → Bool} (hspace : Text.IsSpace space)
    {given : Option Value} (h : ∀ v ∈ given, Text.isPlain v.fullText = true) :
    (given.toList.flatMap fun v => Text.laterWords space v.fullText) = [] := by
  rw [List.flatMap_eq_nil_iff]
  intro v hv
  exact Text.laterWords_of_plain hspace (h v (Option.mem_toList.mp hv))

theorem PlanHead.IsFixed.strayWords_eq_nil {space : Char → Bool} (hspace : Text.IsSpace space)
    {head : PlanHead} (fixed : head.IsFixed) : head.strayWords space = [] :=
  laterWords_flatMap_eq_nil hspace fun v hv => by
    obtain ⟨word, rfl, hplain⟩ := fixed.word v hv
    exact hplain

namespace Rules

variable {rules : Rules}

theorem plain_default {rule : Rule} (hrule : rule ∈ builtin) {name : String}
    (hname : classProp? rule.typeName = some name) :
    Text.isPlain (rule.defaults.value name).fullText = true := by
  have hall : builtin.all (fun rule => (classProp? rule.typeName).all fun name =>
      Text.isPlain (rule.defaults.value name).fullText) = true := by decide +kernel
  rw [List.all_eq_true] at hall
  have hdefault := hall rule hrule
  rwa [hname, Option.all_some] at hdefault

/-- The root of an element's plan gives the words that the element gives: the defaults give none. -/
theorem resolve_strayWords {space : Char → Bool} (hspace : Text.IsSpace space)
    (hrules : rules ⊆ builtin) {e : Element} {inherited : Option String} {plan : Plan}
    (h : resolve rules inherited e = .ok plan) :
    plan.label.strayWords space = e.strayWords rules space := by
  obtain ⟨head, children⟩ := e
  rcases resolve_expands h with ⟨shown, hrule, hshown, rfl⟩ | ⟨rule, drawn, hrule, hdrawn, rfl⟩
  · have hplain : Text.isPlain (Value.string "body").fullText = true := rfl
    obtain ⟨content, rfl⟩ := exists_fallback hshown
    rw [Element.strayWords, Tree.label_node, hrule]
    refine laterWords_flatMap_eq_nil hspace fun v hv => ?_
    obtain rfl : Value.string "body" = v := Option.some_inj.mp hv
    exact hplain
  · obtain ⟨hmem, htype⟩ := rule?_mem hrule
    have hnamed : drawn.label.strayWords space = (classProp? head.type).toList.flatMap fun name =>
        Text.laterWords space (Resolution.prop ⟨head.props, rule.defaults,
          resolveChildren rules (resolvedId head.id inherited) 0 children⟩ name).fullText := by
      rw [PlanHead.strayWords, (Rule.expand_names (hrules hmem) hdrawn).word, htype,
        Option.toList_map, List.flatMap_map]
    rw [Element.strayWords, Tree.label_node, hrule, Option.isSome_some, if_pos rfl]
    refine Eq.trans ?_ (hnamed.trans (List.flatMap_congr fun name hname => ?_))
    · rw [Plan.asElement, Tree.label_mapRoot]
      rfl
    · have hdefault := Text.laterWords_of_plain hspace
        (plain_default (hrules hmem) (htype ▸ Option.mem_toList.mp hname))
      exact Resolution.prop_congr (f := fun v => Text.laterWords space v.fullText) hdefault
        (Text.laterWords_of_plain hspace rfl) (Text.laterWords_of_plain hspace rfl)

end Rules

end Wireframe

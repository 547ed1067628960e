import Wireframe.Proofs.Markup.Page
import Wireframe.Proofs.Preview.Trusted
import Wireframe.Proofs.Preview.Words

/-! # Selected elements on a page

A reader of the written preview of a screen finds one tag for each shown element, in order, and
other tags. Only tags of elements have the class `selected`: those that are selected, and those of
elements that give the word themselves, behind white space in the value that a class is named after.
-/

namespace Wireframe

namespace TagHead

def elementId? (head : TagHead) : Option String := head.attribute? "data-element-id"

def classWords (space : Char → Bool) (head : TagHead) : List String :=
  Text.words space ((head.attribute? "class").getD "")

theorem lookup_eq_none_of_forall {entries : List (String × String)} {key : String}
    (h : ∀ entry ∈ entries, entry.1 ≠ key) : entries.lookup key = none := by
  rw [List.lookup_eq_none_iff]
  intro entry hentry
  simpa using (h entry hentry).symm

theorem attribute?_of_isUnmarked {head : TagHead} (h : head.isUnmarked = true) :
    head.elementId? = none ∧ head.attribute? "class" = none := by
  simp only [isUnmarked, List.all_eq_true, Bool.and_eq_true, bne_iff_ne] at h
  exact ⟨lookup_eq_none_of_forall fun entry hentry => (h entry hentry).2,
    lookup_eq_none_of_forall fun entry hentry => (h entry hentry).1⟩

end TagHead

def Tag.elementTags (page : Tag) : List TagHead :=
  page.preorder.filter fun head => head.elementId?.isSome

/-- A node of a preview as it is written: it can be, its classes are its class attribute, and among
them `selected` stands only where the node is the root of an element. -/
structure MarkupHead.IsDrawn (space : Char → Bool) (head : MarkupHead) : Prop
    extends head.IsLegible where
  writable : head.isWritable = true
  classless : head.attributes.has "class" = false
  quiet : head.attributes.has "data-element-id" = false → "selected" ∉ head.classWords space

namespace MarkupHead

variable {space : Char → Bool} {head : MarkupHead}

theorem lookup_fullText (attributes : Members) (key : String) :
    (attributes.map fun entry => (entry.1, entry.2.fullText)).lookup key =
      (attributes.value? key).map Value.fullText := by
  induction attributes with
  | nil => rfl
  | cons entry attributes ih =>
      obtain ⟨name, value⟩ := entry
      rw [List.map_cons, List.lookup_cons, ih, Members.value?_cons]
      by_cases hname : name = key
      · simp [hname]
      · simp [hname, beq_eq_false_iff_ne.mpr (Ne.symm hname)]

theorem attribute?_pageHead {key : String} (hkey : key ≠ "class") :
    head.pageHead.attribute? key = (head.attributes.value? key).map Value.fullText := by
  have hclass : (key == "class") = false := beq_eq_false_iff_ne.mpr hkey
  rw [TagHead.attribute?, ← lookup_fullText]
  show head.tagAttributes.lookup key = _
  unfold tagAttributes
  split
  · rfl
  · rw [List.singleton_append, List.lookup_cons, hclass]

theorem elementId?_pageHead :
    head.pageHead.elementId? = (head.attributes.value? "data-element-id").map Value.fullText :=
  attribute?_pageHead (by decide)

theorem classWords_pageHead (hspace : Text.IsSpace space)
    (hclassless : head.attributes.has "class" = false) :
    head.pageHead.classWords space = head.classWords space := by
  have hnone : head.attributes.value? "class" = none := by
    simpa [Members.has] using hclassless
  unfold TagHead.classWords TagHead.attribute?
  show Text.words space ((head.tagAttributes.lookup "class").getD "") = _
  unfold tagAttributes classWords
  cases hclasses : head.classes with
  | nil =>
      have hlookup := lookup_fullText head.attributes "class"
      rw [hnone] at hlookup
      show Text.words space ((List.lookup "class" (head.attributes.map fun entry =>
        (entry.1, entry.2.fullText))).getD "") = []
      rw [hlookup]
      rfl
  | cons name names =>
      rw [if_neg (by simp), List.singleton_append, List.lookup_cons_self, Option.getD_some,
        Text.words_intercalate hspace]

end MarkupHead

namespace Markup

variable {space : Char → Bool} {node : Markup}

theorem elementTags_page (h : ∀ head ∈ node.preorder, head.IsLegible) :
    node.page.elementTags = node.elementNodes.map MarkupHead.pageHead := by
  have hmarked : ∀ heads : List TagHead,
      (marked heads).filter (fun head => head.elementId?.isSome) =
        heads.filter fun head => head.elementId?.isSome := by
    intro heads
    rw [marked, List.filter_filter]
    refine List.filter_congr fun head _ => ?_
    cases hunmarked : head.isUnmarked with
    | false => simp
    | true => simp [(TagHead.attribute?_of_isUnmarked hunmarked).1]
  rw [Tag.elementTags, ← hmarked, marked_page h, hmarked, List.filter_map, elementNodes]
  congr 1
  refine List.filter_congr fun head _ => ?_
  simp [MarkupHead.elementId?_pageHead, Members.has]

theorem quiet_page (hspace : Text.IsSpace space) (h : ∀ head ∈ node.preorder, head.IsDrawn space) :
    ∀ head ∈ node.page.preorder, head.elementId? = none → "selected" ∉ head.classWords space := by
  intro tag htag hid
  cases hunmarked : tag.isUnmarked with
  | true =>
      rw [TagHead.classWords, (TagHead.attribute?_of_isUnmarked hunmarked).2]
      exact List.not_mem_nil
  | false =>
      have hmarked : tag ∈ marked (node.preorder.map MarkupHead.pageHead) := by
        rw [← marked_page fun head hhead => (h head hhead).toIsLegible]
        exact List.mem_filter.mpr ⟨htag, by simp [hunmarked]⟩
      obtain ⟨head, hhead, rfl⟩ := List.mem_map.mp (List.mem_filter.mp hmarked).1
      have hdrawn := h head hhead
      rw [MarkupHead.classWords_pageHead hspace hdrawn.classless]
      rw [MarkupHead.elementId?_pageHead, Option.map_eq_none_iff] at hid
      exact hdrawn.quiet (by simp [Members.has, hid])

end Markup

namespace Preview

variable {space : Char → Bool} {screenId : String} {selection : Selection} {plan : PlanHead}
  {drawn node : Markup}

/-- The finished root of a sketch has the word where its element is selected or gives it. -/
theorem finish_sketch_selected (hspace : Text.IsSpace space) (resolved : plan.IsResolved)
    (hdrawn : sketch plan = .ok drawn) :
    "selected" ∈ (finish screenId selection plan drawn.label).classWords space ↔
      plan.isElement = true ∧ selection screenId (plan.elementId.getD "") = true ∨
        "selected" ∈ plan.strayWords space := by
  rw [finish_selected hspace, (sketch_selected hspace resolved.toIsSound hdrawn).root]

theorem finish_quiet (hspace : Text.IsSpace space) (resolved : plan.IsResolved)
    (hdrawn : sketch plan = .ok drawn)
    (hid : (finish screenId selection plan drawn.label).attributes.has "data-element-id" = false) :
    "selected" ∉ (finish screenId selection plan drawn.label).classWords space := by
  rw [finish_sketch_selected hspace resolved hdrawn]
  cases hroot : plan.isElement with
  | true =>
      have hmarked : (finish screenId selection plan drawn.label).IsMarked _ _ :=
        finish_marked hroot (sketch_bare resolved.role_ne_element hdrawn).classes
      simp [Members.has, hmarked.id] at hid
  | false =>
      rw [(resolved.fixed hroot).strayWords_eq_nil hspace]
      simp

/-- Every node of a preview can be written, and only roots of elements have the word. -/
theorem materialize_isDrawn (hspace : Text.IsSpace space) {tree : Plan}
    (built : tree.Built PlanHead.IsResolved)
    (h : (target screenId selection).materialize tree = .ok node) :
    ∀ head ∈ node.preorder, head.IsDrawn space := by
  have hshown : ∀ head ∈ node.preorder, head.IsShown ∧ head.attributes.has "class" = false ∧
      (head.attributes.has "data-element-id" = false → "selected" ∉ head.classWords space) := by
    refine forall_mem_preorder (fun plan drawn resolved hdrawn => ?_) built h
    have hsketch := sketch_selected hspace resolved.toIsSound hdrawn
    have hshown := hsketch.shown
    have hattributes := (sketch_bare resolved.role_ne_element hdrawn).attributes
    obtain ⟨head, nodes⟩ := drawn
    rw [Tree.preorder_node, List.forall_mem_cons, List.forall_mem_flatMap] at hshown hattributes
    refine ⟨⟨layoutHead_shown (markHead_shown hshown.1), finish_classless hattributes.1,
      finish_quiet hspace resolved hdrawn⟩, fun part hpart inner hinner =>
        ⟨hshown.2 part hpart inner hinner, ?_, fun _ => hsketch.inner part hpart inner hinner⟩⟩
    rw [hattributes.2 part hpart inner hinner]
    rfl
  intro head hhead
  obtain ⟨shown, hclassless, hquiet⟩ := hshown head hhead
  have htrusted := materialize_trusted h head hhead
  refine ⟨⟨htrusted.tag, htrusted.keys, ?_⟩, shown.writable, hclassless, hquiet⟩
  rcases shown.text with hraw | htext
  · exact .inl hraw
  · exact htrusted.raw.imp_right fun hentry => ⟨by rw [MarkupHead.shownText, htext]; rfl, hentry⟩

/-- The tags of a drawn plan's element nodes have the ids of its roots, and the word as these do. -/
theorem materialize_selected (hspace : Text.IsSpace space) {tree : Plan}
    (built : tree.Built PlanHead.IsResolved)
    (h : (target screenId selection).materialize tree = .ok node) :
    List.Forall₂ (fun head plan => head.pageHead.elementId? = some (plan.elementId.getD "") ∧
        ("selected" ∈ head.pageHead.classWords space ↔
          selection screenId (plan.elementId.getD "") = true ∨
            "selected" ∈ plan.strayWords space))
      node.elementNodes tree.roots := by
  refine forall₂_elementNodes (fun plan resolved => resolved.role_ne_element)
    (fun plan drawn resolved hroot hdrawn => ?_) built h
  have hbare := sketch_bare resolved.role_ne_element hdrawn
  have hattributes : drawn.label.attributes = [] := by
    obtain ⟨head, nodes⟩ := drawn
    exact hbare.attributes head (by rw [Tree.preorder_node]; exact List.mem_cons_self)
  refine ⟨?_, ?_⟩
  · rw [MarkupHead.elementId?_pageHead, (finish_marked hroot hbare.classes).id]
    rfl
  · rw [MarkupHead.classWords_pageHead hspace (finish_classless hattributes),
      finish_sketch_selected hspace resolved hdrawn, hroot]
    simp

end Preview

/-- A tag stands for an element at its place, and has the class `selected` exactly when the element
is selected or gives the word itself. -/
structure TagHead.Shows (rules : Rules) (space : Char → Bool) (selected : String → Bool)
    (head : TagHead) (placed : PlacedElement) : Prop where
  id : head.elementId? = some placed.id
  selected : "selected" ∈ head.classWords space ↔
    selected placed.id = true ∨ "selected" ∈ placed.element.strayWords rules space

namespace Renderer

variable {space : Char → Bool}

theorem screenNode_isDrawn (hspace : Text.IsSpace space) (screenId name : String)
    {nodes : List Markup} (h : ∀ node ∈ nodes, ∀ head ∈ node.preorder, head.IsDrawn space) :
    ∀ head ∈ (screenNode screenId name nodes).preorder, head.IsDrawn space := by
  have hkey : Tag.isName "data-screen-id" = true := by decide +kernel
  simp only [screenNode, Markup.leaf, Tree.preorder_node, List.flatMap_cons, List.flatMap_nil,
    List.append_nil, List.cons_append, List.nil_append, List.forall_mem_cons,
    List.forall_mem_flatMap]
  refine ⟨⟨⟨Preview.isName_div, by simp [hkey], .inl rfl⟩, rfl, ?_, ?_⟩,
    ⟨⟨Preview.isName_div, by simp, .inl rfl⟩, rfl, rfl, ?_⟩,
    ⟨⟨Preview.isName_span, by simp, .inl rfl⟩, rfl, rfl, ?_⟩,
    ⟨⟨Preview.isName_div, by simp, .inl rfl⟩, rfl, rfl, ?_⟩, h⟩
  · simp [Members.has, Members.value?_cons]
  all_goals exact fun _ => Preview.fixed_quiet hspace rfl

section Screens

variable {α : Type} {renderer : Renderer} {screen : Screen α} {selection : Selection}
  {collector : Collector} {node : Markup}

theorem renderScreen_isDrawn (hrules : renderer.rules ⊆ Rules.builtin)
    (h : ((renderer.renderScreen screen selection).run.run collector).1 = .ok node)
    (hspace : Text.IsSpace space) : ∀ head ∈ node.preorder, head.IsDrawn space := by
  obtain ⟨plans, nodes, hplans, hnodes, rfl⟩ := renderScreen_ok_iff.mp h
  refine screenNode_isDrawn hspace _ _ fun node hnode => ?_
  obtain ⟨plan, hplan, hmade⟩ :=
    exists_of_forall₂_of_mem (Target.materializeAll_ok_iff.mp hnodes) hnode
  have built := Rules.resolveScreen_resolved hrules hplans plan hplan
  exact Preview.materialize_isDrawn hspace built hmade

theorem renderScreen_shows (hrules : renderer.rules ⊆ Rules.builtin)
    (hbox : Rule.boxRule ∈ renderer.rules)
    (h : ((renderer.renderScreen screen selection).run.run collector).1 = .ok node)
    (hspace : Text.IsSpace space) :
    List.Forall₂ (TagHead.Shows renderer.rules space (selection (screen.id.getD "")))
      (node.elementNodes.map MarkupHead.pageHead) screen.placed := by
  obtain ⟨plans, nodes, hplans, hnodes, rfl⟩ := renderScreen_ok_iff.mp h
  have built := Rules.resolveScreen_resolved hrules hplans
  have hmarked := (forall₂_flatMap (Target.materializeAll_ok_iff.mp hnodes)
    fun plan hplan node hmade =>
      (Preview.materialize_selected hspace (built plan hplan) hmade).flip).flip
  have hroots := Rules.forall₂_resolveScreen_roots (R := fun root placed =>
      root.elementId.getD "" = placed.id ∧
        root.strayWords space = placed.element.strayWords renderer.rules space)
    hrules hbox (fun hplan => ⟨(Rules.resolve_isRootOf hplan).id,
      Rules.resolve_strayWords hspace hrules hplan⟩) hplans
  rw [screenNode_elementNodes, List.forall₂_map_left_iff]
  refine forall₂_trans hmarked hroots fun head root placed hhead hroot => ?_
  rw [hroot.1, hroot.2] at hhead
  exact ⟨hhead.1, hhead.2⟩

/-- The preview of a screen can be written, and read as a page. The tags of the page that stand for
elements are those of the shown elements, in order; these have the class `selected` when they are
selected, and when a value that a class of theirs is named after has the word behind white space. No
other tag has the class. -/
theorem renderScreen_selected (hrules : renderer.rules ⊆ Rules.builtin)
    (hbox : Rule.boxRule ∈ renderer.rules)
    (h : ((renderer.renderScreen screen selection).run.run collector).1 = .ok node)
    (hspace : Text.IsSpace space) :
    node.isWritable = true ∧ ∃ page, Tag.read? node.html = some page ∧
      List.Forall₂ (TagHead.Shows renderer.rules space (selection (screen.id.getD "")))
        page.elementTags screen.placed ∧
      ∀ head ∈ page.preorder, head.elementId? = none → "selected" ∉ head.classWords space := by
  have hdrawn := renderScreen_isDrawn hrules h hspace
  have hlegible := fun head hhead => (hdrawn head hhead).toIsLegible
  refine ⟨?_, node.page, Markup.read?_page hlegible, ?_, Markup.quiet_page hspace hdrawn⟩
  · rw [Markup.isWritable, List.all_eq_true]
    exact fun head hhead => (hdrawn head hhead).writable
  · rw [Markup.elementTags_page hlegible]
    exact renderScreen_shows hrules hbox h hspace

end Screens

/-- A box that is selected, around a button that gives the word in its variant and a text that has
it in front. -/
theorem renderScreen_selected_box :
    let screen : Screen Number := ⟨some "s", "", none, [
      .node ⟨"box", none, []⟩ [
        .node ⟨"button", some "b", [("variant", .string "x selected")]⟩ [],
        .node ⟨"text", some "t", [("style", .string "selected")]⟩ []]]⟩
    let renderer := create Registry.builtin Rules.builtin {}
    let selection : Selection := fun _ id => id == "s-el-1"
    screen.placed.map (fun placed =>
        (placed.id, placed.element.strayWords renderer.rules Char.isWhitespace)) =
      [("s-el-1", []), ("b", ["selected"]), ("t", [])] ∧
      ∃ node, ((renderer.renderScreen screen selection).run.run {}).1 = .ok node ∧
        node.isWritable = true ∧ ∃ page, Tag.read? node.html = some page ∧
          List.Forall₂ (TagHead.Shows renderer.rules Char.isWhitespace (selection "s"))
            page.elementTags screen.placed ∧
          ∀ head ∈ page.preorder, head.elementId? = none →
            "selected" ∉ head.classWords Char.isWhitespace := by
  intro screen renderer selection
  have hbox : Rule.boxRule ∈ Rules.builtin := by simp [Rules.builtin]
  obtain ⟨node, hnode⟩ :
      ∃ node, ((renderer.renderScreen screen selection).run.run {}).1 = .ok node := ⟨_, rfl⟩
  exact ⟨by decide +kernel, node, hnode,
    renderScreen_selected (List.Subset.refl Rules.builtin) hbox hnode Text.isSpace_isWhitespace⟩

/-- A text in a style of two words has the class `selected` on the page of its screen, though nothing
is selected. -/
theorem renderScreen_stray_word :
    let screen : Screen Number := ⟨some "s", "", none, [
      .node ⟨"text", none, [("style", .string "x selected")]⟩ []]⟩
    let renderer := create Registry.builtin Rules.builtin {}
    ∃ node page, ((renderer.renderScreen screen Selection.none).run.run {}).1 = .ok node ∧
      Tag.read? node.html = some page ∧
      ∃ head ∈ page.preorder, head.elementId? = some "s-el-1" ∧
        "selected" ∈ head.classWords Char.isWhitespace ∧ Selection.none "s" "s-el-1" = false := by
  intro screen renderer
  obtain ⟨node, hnode, hword⟩ :
      ∃ node, ((renderer.renderScreen screen Selection.none).run.run {}).1 = .ok node ∧
        (node.page.preorder.any fun head => head.elementId? = some "s-el-1" ∧
          "selected" ∈ head.classWords Char.isWhitespace) = true := ⟨_, rfl, by decide +kernel⟩
  have hdrawn := renderScreen_isDrawn (List.Subset.refl Rules.builtin) hnode
    Text.isSpace_isWhitespace
  obtain ⟨head, hhead, hword⟩ := List.any_eq_true.mp hword
  obtain ⟨hid, hword⟩ := of_decide_eq_true hword
  exact ⟨node, node.page, hnode,
    Markup.read?_page fun head hhead => (hdrawn head hhead).toIsLegible,
    head, hhead, hid, hword, rfl⟩

end Renderer

end Wireframe

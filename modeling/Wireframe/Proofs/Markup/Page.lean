import Mathlib.Data.List.Basic
import Wireframe.Markup.Glyph
import Wireframe.Proofs.Markup.Exact

/-! # Pages

What a reader finds in written markup is a page of tags: one for each node, and below a node that
holds a drawing those of the drawing. No tag of a drawing has a class or stands for an element, so
that the marked tags of a page are those of the nodes, in their order.
-/

namespace Wireframe

def TagHead.isUnmarked (head : TagHead) : Bool :=
  head.attributes.all fun entry => entry.1 != "class" && entry.1 != "data-element-id"

namespace Tag

/-- A drawing: readable, and without marks. -/
structure IsDrawing (tag : Tag) : Prop where
  readable : Readable tag
  unmarked : ∀ head ∈ tag.preorder, head.isUnmarked = true

/-- Whether one element without marks can be read, and nothing behind it. -/
def readsDrawing (s : List Char) : Bool :=
  match readElement s.length s with
  | some (tag, []) => tag.preorder.all TagHead.isUnmarked
  | _ => false

def opensDrawing (s : List Char) : Bool :=
  match readOpening s with
  | some ((name, attributes), ['>']) =>
      name == "svg" && TagHead.isUnmarked { name, attributes }
  | _ => false

theorem exists_of_readsDrawing {s : List Char} (h : readsDrawing s = true) :
    ∃ tag, IsDrawing tag ∧ chars tag = s := by
  unfold readsDrawing at h
  split at h
  · rename_i tag hread
    obtain ⟨hchars, readable⟩ := (read_exact _).1 _ _ _ hread
    rw [List.append_nil] at hchars
    exact ⟨tag, ⟨readable, List.all_eq_true.mp h⟩, hchars.symm⟩
  · cases h

theorem exists_of_forall_readsDrawing {bodies : List String}
    (h : ∀ body ∈ bodies, readsDrawing body.toList = true) :
    ∃ shapes : List Tag, (∀ shape ∈ shapes, IsDrawing shape) ∧
      charsAll shapes = (String.join bodies).toList := by
  induction bodies with
  | nil => exact ⟨[], by simp, by simp [charsAll]⟩
  | cons body bodies ih =>
      rw [List.forall_mem_cons] at h
      obtain ⟨shape, hshape, hchars⟩ := exists_of_readsDrawing h.1
      obtain ⟨shapes, hshapes, hall⟩ := ih h.2
      refine ⟨shape :: shapes, List.forall_mem_cons.mpr ⟨hshape, hshapes⟩, ?_⟩
      rw [charsAll, hchars, hall, String.join_cons, String.toList_append]

/-- Drawings below a vector image make one drawing. -/
theorem exists_of_opensDrawing {opening : String} {bodies : List String}
    (hopening : opensDrawing opening.toList = true)
    (h : ∀ body ∈ bodies, readsDrawing body.toList = true) :
    ∃ tag, IsDrawing tag ∧ tag.html = opening ++ String.join bodies ++ "</svg>" := by
  obtain ⟨shapes, hshapes, hchars⟩ := exists_of_forall_readsDrawing h
  unfold opensDrawing at hopening
  split at hopening
  · rename_i name attributes hread
    rw [Bool.and_eq_true, beq_iff_eq] at hopening
    obtain ⟨rfl, hunmarked⟩ := hopening
    obtain ⟨hopened, hname, hkeys⟩ := readOpening_exact hread
    refine ⟨.node { name := "svg", attributes } shapes, ⟨.element hname hkeys rfl rfl
      fun shape hshape => (hshapes shape hshape).readable, ?_⟩, ?_⟩
    · rw [Tree.preorder_node, List.forall_mem_cons, List.forall_mem_flatMap]
      exact ⟨hunmarked, fun shape hshape => (hshapes shape hshape).unmarked⟩
    · rw [← String.toList_inj, html, String.toList_ofList, chars_element rfl rfl, hchars,
        String.toList_append, String.toList_append, hopened]
      simp [TagHead.openingChars, TagHead.closingChars]
  · cases hopening

end Tag

namespace Glyph

theorem stroked_drawing {bodies : List String}
    (h : ∀ body ∈ bodies, Tag.readsDrawing body.toList = true) :
    ∃ tag, Tag.IsDrawing tag ∧ tag.html = stroked (String.join bodies) := by
  refine Tag.exists_of_opensDrawing ?_ h
  rw [String.toList_ofList]
  decide +kernel

theorem filled_drawing {bodies : List String}
    (h : ∀ body ∈ bodies, Tag.readsDrawing body.toList = true) :
    ∃ tag, Tag.IsDrawing tag ∧ tag.html = filled (String.join bodies) := by
  refine Tag.exists_of_opensDrawing ?_ h
  rw [String.toList_ofList]
  decide +kernel

/-- Every drawing of the icon table can be read, and has no marks. -/
theorem table_drawing : ∀ entry ∈ table, ∃ tag, Tag.IsDrawing tag ∧ tag.html = entry.2 := by
  simp only [table, List.forall_mem_cons, List.not_mem_nil, false_imp_iff, implies_true, and_true]
  refine ⟨stroked_drawing ?_, stroked_drawing ?_, stroked_drawing ?_, stroked_drawing ?_,
    stroked_drawing ?_, stroked_drawing ?_, stroked_drawing ?_, stroked_drawing ?_,
    stroked_drawing ?_, stroked_drawing ?_, stroked_drawing ?_, stroked_drawing ?_,
    stroked_drawing ?_, stroked_drawing ?_, stroked_drawing ?_, stroked_drawing ?_,
    stroked_drawing ?_, stroked_drawing ?_, stroked_drawing ?_, stroked_drawing ?_,
    stroked_drawing ?_, filled_drawing ?_⟩
  all_goals
    simp only [List.forall_mem_cons, List.not_mem_nil, false_imp_iff, implies_true, and_true]
    repeat' apply And.intro
  -- The characters of a literal are known without decoding it.
  all_goals
    rw [String.toList_ofList]
    decide +kernel

end Glyph

/-! ## The page of a node -/

def MarkupHead.pageHead (head : MarkupHead) : TagHead := { head.toTagHead with raw := "" }

def MarkupHead.drawings (head : MarkupHead) : List Tag := (head.raw.bind Tag.read?).toList

namespace Markup

mutual

/-- The tags that a reader finds in a written node. -/
def page : Markup → Tag
  | .node head nodes => .node head.pageHead (head.drawings ++ pages nodes)

def pages : List Markup → List Tag
  | [] => []
  | node :: nodes => page node :: pages nodes

end

theorem pages_eq_map (nodes : List Markup) : pages nodes = nodes.map page := by
  induction nodes with
  | nil => rfl
  | cons node nodes ih => rw [pages, ih, List.map_cons]

end Markup

/-- A node that can be read: its tag and attribute keys are words, and if it holds trusted markup,
that is a drawing of the icon table and the node has no text of its own. -/
structure MarkupHead.IsLegible (head : MarkupHead) : Prop where
  tag : Tag.isName head.tag = true
  keys : ∀ entry ∈ head.attributes, Tag.isName entry.1 = true
  raw : head.raw = none ∨ head.shownText = "" ∧ ∃ entry ∈ Glyph.table, head.raw = some entry.2

namespace MarkupHead

variable {head : MarkupHead}

theorem isDrawing_of_mem_drawings (h : head.IsLegible) : ∀ tag ∈ head.drawings, tag.IsDrawing := by
  intro tag htag
  rcases h.raw with hraw | ⟨-, entry, hentry, hraw⟩
  · simp [drawings, hraw] at htag
  · obtain ⟨drawing, hdrawing, hhtml⟩ := Glyph.table_drawing entry hentry
    have hread : Tag.read? entry.2 = some drawing :=
      Tag.read?_eq_some_iff.mpr ⟨hdrawing.readable, hhtml⟩
    rw [drawings, hraw, Option.bind_some, hread, Option.toList_some, List.mem_singleton] at htag
    rwa [htag]

/-- Trusted markup in front of a text is written as the drawing behind the text, where one of the
two is empty. -/
theorem innerChars_toTagHead (h : head.IsLegible) :
    head.toTagHead.innerChars =
      Text.escapeChars head.shownText.toList ++ Tag.charsAll head.drawings := by
  rcases h.raw with hraw | ⟨htext, entry, hentry, hraw⟩
  · simp [TagHead.innerChars, toTagHead, drawings, hraw, Tag.charsAll]
  · obtain ⟨drawing, hdrawing, hhtml⟩ := Glyph.table_drawing entry hentry
    have hread : Tag.read? entry.2 = some drawing :=
      Tag.read?_eq_some_iff.mpr ⟨hdrawing.readable, hhtml⟩
    have hchars : entry.2.toList = Tag.chars drawing := by
      rw [← hhtml, Tag.html, String.toList_ofList]
    simp [TagHead.innerChars, toTagHead, drawings, hraw, hread, htext, hchars, Tag.charsAll]

end MarkupHead

namespace Tag

theorem charsAll_eq_flatMap (tags : List Tag) : charsAll tags = tags.flatMap chars := by
  induction tags with
  | nil => rfl
  | cons tag tags ih => rw [charsAll, ih, List.flatMap_cons]

theorem charsAll_append (tags more : List Tag) :
    charsAll (tags ++ more) = charsAll tags ++ charsAll more := by
  rw [charsAll_eq_flatMap, List.flatMap_append, ← charsAll_eq_flatMap, ← charsAll_eq_flatMap]

end Tag

namespace Markup

def marked (heads : List TagHead) : List TagHead := heads.filter fun head => !head.isUnmarked

theorem marked_append (heads more : List TagHead) :
    marked (heads ++ more) = marked heads ++ marked more := by
  simp [marked]

theorem marked_drawings {tags : List Tag} (h : ∀ tag ∈ tags, tag.IsDrawing) :
    marked (tags.flatMap Tree.preorder) = [] := by
  rw [marked, List.filter_eq_nil_iff]
  intro head hhead
  obtain ⟨tag, htag, hhead⟩ := List.mem_flatMap.mp hhead
  simp [(h tag htag).unmarked head hhead]

/-- The page of a node is written as the node is, and can be read. -/
theorem page_written {node : Markup} (h : ∀ head ∈ node.preorder, head.IsLegible) :
    node.page.Readable ∧ Tag.chars node.page = Tag.chars node.toTag := by
  induction node using Tree.induct with
  | node head nodes ih =>
      rw [Tree.preorder_node, List.forall_mem_cons, List.forall_mem_flatMap] at h
      have hbelow : ∀ node ∈ nodes, (page node).Readable ∧
          Tag.chars (page node) = Tag.chars (toTag node) := fun node hnode =>
        ih node hnode (h.2 node hnode)
      have hpages : Tag.charsAll (pages nodes) = Tag.charsAll (nodes.map toTag) := by
        rw [pages_eq_map, Tag.charsAll_eq_flatMap, Tag.charsAll_eq_flatMap, List.flatMap_map,
          List.flatMap_map]
        exact List.flatMap_congr fun node hnode => (hbelow node hnode).2
      rw [page, toTag, Tree.map_node]
      refine ⟨.element h.1.tag (MarkupHead.isName_tagAttributes h.1.keys) rfl rfl ?_, ?_⟩
      · intro tag htag
        rcases List.mem_append.mp htag with hdrawing | hpage
        · exact (MarkupHead.isDrawing_of_mem_drawings h.1 tag hdrawing).readable
        · rw [pages_eq_map] at hpage
          obtain ⟨node, hnode, rfl⟩ := List.mem_map.mp hpage
          exact (hbelow node hnode).1
      · rw [Tag.chars_element rfl rfl, Tag.chars, if_neg (by simp [MarkupHead.toTagHead]),
          MarkupHead.innerChars_toTagHead h.1, Tag.charsAll_append, hpages]
        simp [MarkupHead.pageHead, MarkupHead.toTagHead, TagHead.openingChars,
          TagHead.closingChars]
        rfl

theorem marked_page {node : Markup} (h : ∀ head ∈ node.preorder, head.IsLegible) :
    marked node.page.preorder = marked (node.preorder.map MarkupHead.pageHead) := by
  induction node using Tree.induct with
  | node head nodes ih =>
      rw [Tree.preorder_node, List.forall_mem_cons, List.forall_mem_flatMap] at h
      have hpages : marked ((nodes.map page).flatMap Tree.preorder) =
          marked ((nodes.flatMap Tree.preorder).map MarkupHead.pageHead) := by
        rw [List.flatMap_map, List.map_flatMap, marked, marked, List.filter_flatMap,
          List.filter_flatMap]
        exact List.flatMap_congr fun node hnode => ih node hnode (h.2 node hnode)
      have hdrawings := marked_drawings (MarkupHead.isDrawing_of_mem_drawings h.1)
      rw [page, pages_eq_map, Tree.preorder_node, Tree.preorder_node, List.map_cons,
        List.flatMap_append, ← List.singleton_append, marked_append, marked_append, hdrawings,
        List.nil_append, hpages, ← marked_append]
      rfl

theorem read?_page {node : Markup} (h : ∀ head ∈ node.preorder, head.IsLegible) :
    Tag.read? node.html = some node.page := by
  obtain ⟨readable, hchars⟩ := page_written h
  rw [Tag.read?_eq_some_iff, html, Tag.html, Tag.html, hchars]
  exact ⟨readable, rfl⟩

end Markup

end Wireframe

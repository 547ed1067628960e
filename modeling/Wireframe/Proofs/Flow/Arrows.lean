import Wireframe.Flow.Overlay
import Wireframe.Proofs.Flow.Routed
import Wireframe.Proofs.Flow.Spelled
import Wireframe.Proofs.Markup.Inert
import Wireframe.Proofs.Markup.ReadBack
import Wireframe.Proofs.Pointwise

/-! # What the overlay says

The overlay of a route is read back as the marker definitions and one group for each path, in order:
a group names the ends of its path, draws its line and shows its label. Ids and labels may hold any
characters, since they are escaped; whatever else stands in an attribute needs no entity.
-/

namespace Wireframe

namespace Flow

open Number

/-! ## Labels -/

variable {source target r : Rect Number} {p start finish : Point Number} {x y : Number}

theorem isDouble_midpoint {z : Number} (h : midpoint x y = .ok z) : z.IsDouble := by
  obtain ⟨_, -, h⟩ := Except.bind_ok_iff.mp h
  exact isDouble_half h

theorem isDouble_centerX (h : r.centerX = .ok x) : x.IsDouble := by
  obtain ⟨_, hhalf, h⟩ := Except.bind_ok_iff.mp h
  exact isDouble_add h (.inr (isDouble_half hhalf))

theorem isDouble_centerY (h : r.centerY = .ok y) : y.IsDouble := by
  obtain ⟨_, hhalf, h⟩ := Except.bind_ok_iff.mp h
  exact isDouble_add h (.inr (isDouble_half hhalf))

/-- Across its direction an edge begins at the middle of a side, which is a double. -/
theorem isDouble_side {direction : FlowDirection} (h : r.side direction = .ok p) :
    (direction.isVertical = true → p.x.IsDouble) ∧
      (direction.isVertical = false → p.y.IsDouble) := by
  cases direction with
  | right =>
      obtain ⟨_, -, h⟩ := Except.bind_ok_iff.mp h
      obtain ⟨y, hy, h⟩ := Except.bind_ok_iff.mp h
      cases h
      exact ⟨nofun, fun _ => isDouble_centerY hy⟩
  | left =>
      obtain ⟨y, hy, h⟩ := Except.bind_ok_iff.mp h
      cases h
      exact ⟨nofun, fun _ => isDouble_centerY hy⟩
  | down =>
      obtain ⟨x, hx, h⟩ := Except.bind_ok_iff.mp h
      obtain ⟨_, -, h⟩ := Except.bind_ok_iff.mp h
      cases h
      exact ⟨fun _ => isDouble_centerX hx, nofun⟩
  | up =>
      obtain ⟨x, hx, h⟩ := Except.bind_ok_iff.mp h
      cases h
      exact ⟨fun _ => isDouble_centerX hx, nofun⟩

/-- A label stands at doubles, and is as wide as its characters and a margin. -/
structure Label.IsPlaced (charWidth : Number) (label : Label Number) : Prop where
  x : label.x.IsDouble
  y : label.y.IsDouble
  left : label.box.x.IsDouble
  top : label.box.y.IsDouble
  width : label.box.width = .int label.text.length * charWidth + .int 8
  height : label.box.height = .int 20
  cornerRadius : label.box.cornerRadius = .int 4

def labelAt (text : String) (charWidth x y : Number) : Calculation (Label Number) := do
  let left ← Scalar.sub x (.int 4)
  let top ← Scalar.sub y (.int 14)
  let textWidth ← Scalar.mul (.int text.length) charWidth
  let width ← Scalar.add textWidth (.int 8)
  return ⟨x, y, text, ⟨left, top, width, .int 20, .int 4⟩⟩

theorem placeLabel_eq (text : String) (start finish : Point Number) (direction : FlowDirection)
    (charWidth : Number) :
    placeLabel text start finish direction charWidth =
      if direction.isVertical then (do
        let x ← Scalar.add start.x (.int 10)
        let y ← midpoint start.y finish.y
        labelAt text charWidth x y)
      else (do
        let x ← midpoint start.x finish.x
        let y ← Scalar.sub start.y (.int 10)
        labelAt text charWidth x y) := by
  unfold placeLabel
  cases direction.isVertical
  · rfl
  · rfl

theorem isPlaced_labelAt {text : String} {charWidth : Number} {label : Label Number}
    (hx : x.IsDouble) (hy : y.IsDouble) (h : labelAt text charWidth x y = .ok label) :
    label.IsPlaced charWidth := by
  obtain ⟨left, hleft, h⟩ := Except.bind_ok_iff.mp h
  obtain ⟨top, htop, h⟩ := Except.bind_ok_iff.mp h
  obtain ⟨textWidth, htextWidth, h⟩ := Except.bind_ok_iff.mp h
  obtain ⟨width, hwidth, h⟩ := Except.bind_ok_iff.mp h
  cases h
  obtain rfl := combine_ok htextWidth
  exact ⟨hx, hy, isDouble_sub hleft hx, isDouble_sub htop hy, combine_ok hwidth, rfl, rfl⟩

theorem isPlaced_placeLabel {ends : Anchors Number} (hends : anchors source target = .ok ends)
    {text : String} {charWidth : Number} {label : Label Number}
    (h : placeLabel text ends.start ends.finish ends.direction charWidth = .ok label) :
    label.IsPlaced charWidth := by
  obtain ⟨hacross, halong⟩ := isDouble_side (anchors_ok_iff.mp hends).2.1
  rw [placeLabel_eq] at h
  split at h
  · next hvertical =>
    obtain ⟨x, hx, h⟩ := Except.bind_ok_iff.mp h
    obtain ⟨y, hy, h⟩ := Except.bind_ok_iff.mp h
    have hx' := isDouble_add hx (.inl (hacross hvertical))
    exact isPlaced_labelAt hx' (isDouble_midpoint hy) h
  · next hlevel =>
    obtain ⟨x, hx, h⟩ := Except.bind_ok_iff.mp h
    obtain ⟨y, hy, h⟩ := Except.bind_ok_iff.mp h
    have hy' := isDouble_sub hy (halong (Bool.eq_false_iff.mpr hlevel))
    exact isPlaced_labelAt (isDouble_midpoint hx) hy' h

theorem isPlaced_of_route {style : Style Number} {rects : List (Rect Number)}
    {edges : List FlowEdge} {paths : List (Path Number)}
    (h : route style rects edges = .ok paths) :
    ∀ drawn ∈ paths, ∀ label ∈ drawn.label, label.IsPlaced style.charWidth := by
  intro drawn hdrawn label hlabel
  obtain ⟨edge, -, source, target, -, -, hpath⟩ :=
    exists_of_forall₂_of_mem (route_ok_iff.mp h) hdrawn
  obtain ⟨ends, hends, -, hplaced, -⟩ := path_ok_iff.mp hpath
  cases htext : nonempty? edge.label with
  | none =>
      rw [htext, Option.mapM_none, Except.pure_ok_iff] at hplaced
      rw [← hplaced] at hlabel
      cases hlabel
  | some text =>
      rw [htext, Option.mapM_some] at hplaced
      obtain ⟨label', hplace, hsome⟩ := Except.map_ok_iff.mp hplaced
      rw [← hsome] at hlabel
      cases hlabel
      exact isPlaced_placeLabel hends hplace

/-- Of a label that is placed only the width can be beyond the doubles. -/
theorem Label.IsPlaced.isWritable_eq {charWidth : Number} {label : Label Number}
    (h : label.IsPlaced charWidth) : label.isWritable = label.box.width.inRange := by
  have hheight : (Number.int 20).inRange = true := by decide +kernel
  have hradius : (Number.int 4).inRange = true := by decide +kernel
  simp [Label.isWritable, h.x.inRange, h.y.inRange, h.left.inRange, h.top.inRange, h.height,
    h.cornerRadius, hheight, hradius]

theorem Label.IsPlaced.inRange {w : Double} {label : Label Number}
    (h : label.IsPlaced (.double w)) : label.box.width.inRange = true := by
  rw [h.width]
  rfl

/-! ## Groups -/

open Text

def isArrow (tag : Tag) : Bool :=
  tag.label.name == "g" && tag.label.attribute? "class" == some "flow-arrow"

def childrenNamed (name : String) (tag : Tag) : List Tag :=
  tag.children.filter fun child => child.label.name == name

/-- The group says what the path is: its ends, its line, and its label if it has one. -/
structure Shows (path : Path Number) (group : Tag) : Prop where
  source : group.label.attribute? "data-from" = some path.source
  target : group.label.attribute? "data-to" = some path.target
  line : (childrenNamed "path" group).map (fun line => line.label.attribute? "d") =
    [some (pathText path.commands)]
  /-- There is one box if there is a label, and none otherwise. -/
  box : (childrenNamed "rect" group).length = path.label.toList.length
  text : (childrenNamed "text" group).map (fun text => text.label.text) =
    path.label.toList.map fun label => label.text
  /-- Nothing else stands in the group. -/
  leaf : ∀ child ∈ group.children,
    child.children = [] ∧ child.label.name ∈ ["path", "rect", "text"]

variable (path : Path Number) (label : Label Number) (paths : List (Path Number))

theorem shows_pathTag : Shows path (pathTag path) := by
  obtain ⟨commands, source, target, direction, points, label⟩ := path
  cases label with
  | none =>
      constructor
      all_goals simp [pathTag, lineTag, childrenNamed, TagHead.attribute?, List.lookup_cons]
  | some label =>
      constructor
      all_goals simp [pathTag, lineTag, labelTags, childrenNamed, TagHead.attribute?, List.lookup_cons]

theorem isArrow_pathTag : (pathTag path).subtrees.filter isArrow = [pathTag path] := by
  obtain ⟨commands, source, target, direction, points, label⟩ := path
  cases label with
  | none =>
    simp [pathTag, lineTag, Tree.subtrees_node, isArrow, TagHead.attribute?, List.lookup_cons]
  | some label =>
    simp [pathTag, lineTag, labelTags, Tree.subtrees_node, isArrow, TagHead.attribute?, List.lookup_cons]

theorem isArrow_overlayTag :
    (overlayTag paths).subtrees.filter isArrow = paths.map pathTag := by
  have hroot : isArrow (overlayTag paths) = false := by
    simp [overlayTag, isArrow]
  have hmarkers : markerDefinitions.subtrees.filter isArrow = [] := by decide +kernel
  rw [overlayTag, Tree.subtrees_node, List.filter_cons_of_neg (by simpa [overlayTag] using hroot),
    List.flatMap_cons, List.filter_append, hmarkers, List.nil_append, List.filter_flatMap,
    List.flatMap_map]
  simp only [isArrow_pathTag]
  exact List.map_eq_flatMap.symm

/-! ## What is written without entities -/

def IsPlain (head : TagHead) : Prop :=
  ∀ entry ∈ head.attributes, entry.1 ≠ "data-from" → entry.1 ≠ "data-to" → escape entry.2 = entry.2

theorem isPlain_of_isInert {head : TagHead}
    (h : ∀ entry ∈ head.attributes, IsInert entry.2.toList) : IsPlain head :=
  fun entry hentry _ _ => (h entry hentry).escape_eq

theorem isInert_of_all_entries {entries : List (String × String)}
    (h : (entries.all fun entry => entry.2.toList.all fun c => (entityOf? c).isNone) = true) :
    ∀ entry ∈ entries, IsInert entry.2.toList :=
  fun entry hentry => isInert_of_all (List.all_eq_true.mp h entry hentry)

theorem isInert_words (command : Command Number) : ∀ word ∈ command.words, IsInert word.toList := by
  refine command.forall_mem_words ?_ Number.isInert_compact
  simp only [List.forall_mem_cons]
  exact ⟨isInert_of_all rfl, isInert_of_all rfl, isInert_of_all rfl, List.forall_mem_nil _⟩

theorem isInert_pathText (commands : List (Command Number)) :
    IsInert (pathText commands).toList := by
  apply isInert_intercalate
  intro word hword
  obtain ⟨command, -, hword⟩ := List.mem_flatMap.mp hword
  exact isInert_words command word hword

theorem isPlain_lineTag : IsPlain (lineTag path).label :=
  isPlain_of_isInert (List.forall_mem_cons.mpr
    ⟨isInert_pathText path.commands, isInert_of_all_entries (by decide +kernel)⟩)

theorem isInert_numbers {numbers : List (String × Number)} {entries : List (String × String)}
    (h : ∀ entry ∈ entries, IsInert entry.2.toList) :
    ∀ entry ∈ numbers.map (fun number => (number.1, number.2.compact)) ++ entries,
      IsInert entry.2.toList := by
  rw [List.forall_mem_append]
  refine ⟨fun entry hentry => ?_, h⟩
  obtain ⟨number, -, rfl⟩ := List.mem_map.mp hentry
  exact isInert_compact number.2

theorem isPlain_labelTags : ∀ tag ∈ labelTags label, IsPlain tag.label := by
  have hbox := @isInert_numbers [("x", label.box.x), ("y", label.box.y),
    ("width", label.box.width), ("height", label.box.height), ("rx", label.box.cornerRadius)]
    [("fill", strokeColor)] (isInert_of_all_entries (by decide +kernel))
  have htext := @isInert_numbers [("x", label.x), ("y", label.y)]
    [("fill", "#ffffff"), ("font-size", "10"), ("font-family", "sans-serif"),
      ("dominant-baseline", "middle")] (isInert_of_all_entries (by decide +kernel))
  simp only [labelTags, List.forall_mem_cons]
  exact ⟨isPlain_of_isInert hbox, isPlain_of_isInert htext, List.forall_mem_nil _⟩

theorem mem_children_pathTag {tag : Tag} :
    tag ∈ (pathTag path).children ↔
      tag = lineTag path ∨ ∃ label ∈ path.label, tag ∈ labelTags label := by
  rw [pathTag, Tree.children_node, List.mem_cons]
  cases path.label <;> simp

theorem isPlain_pathTag : ∀ head ∈ (pathTag path).preorder, IsPlain head := by
  have hroot : IsPlain (pathTag path).label := by
    intro entry hentry hsource htarget
    simp only [pathTag, Tree.label_node, List.mem_cons, List.not_mem_nil, or_false] at hentry
    rcases hentry with rfl | rfl | rfl
    · exact (isInert_of_all rfl).escape_eq
    · exact absurd rfl hsource
    · exact absurd rfl htarget
  rw [← Tree.node_label_children (pathTag path), Tree.forall_mem_preorder_node]
  refine ⟨hroot, fun tag htag head hhead => ?_⟩
  have hleaf := ((shows_pathTag path).leaf tag htag).1
  rw [← Tree.node_label_children tag, hleaf, Tree.preorder_node, List.flatMap_nil,
    List.mem_singleton] at hhead
  rw [hhead]
  rcases (mem_children_pathTag path).mp htag with rfl | ⟨label, -, hlabel⟩
  · exact isPlain_lineTag path
  · exact isPlain_labelTags label tag hlabel

theorem isPlain_overlayTag : ∀ head ∈ (overlayTag paths).preorder, IsPlain head := by
  have hmarkers : (markerDefinitions.preorder.all fun head => head.attributes.all fun entry =>
      entry.2.toList.all fun c => (entityOf? c).isNone) = true := by decide +kernel
  rw [overlayTag, Tree.forall_mem_preorder_node, List.forall_mem_cons]
  refine ⟨isPlain_of_isInert (isInert_of_all_entries (by decide +kernel)), ?_, ?_⟩
  · intro head hhead
    exact isPlain_of_isInert (isInert_of_all_entries (List.all_eq_true.mp hmarkers head hhead))
  · intro tag htag
    obtain ⟨path, -, rfl⟩ := List.mem_map.mp htag
    exact isPlain_pathTag path

/-! ## Reading the overlay back -/

theorem isName_of_all {entries : List (String × String)} (names : List String)
    (hnames : entries.map Prod.fst = names) (h : names.all Tag.isName = true) :
    ∀ entry ∈ entries, Tag.isName entry.1 = true := by
  intro entry hentry
  apply List.all_eq_true.mp h
  rw [← hnames]
  exact List.mem_map_of_mem hentry

theorem readable_lineTag : (lineTag path).Readable :=
  .void (by decide +kernel) (isName_of_all ["d", "stroke", "stroke-width", "fill", "marker-start",
    "marker-end", "stroke-linecap", "stroke-linejoin"] rfl (by decide +kernel))

theorem readable_labelTags : ∀ tag ∈ labelTags label, tag.Readable := by
  have hrect : Tag.isName "rect" = true := by decide +kernel
  have htext : Tag.isName "text" = true := by decide +kernel
  simp only [labelTags, List.forall_mem_cons]
  refine ⟨.void hrect ?_, .element htext ?_ rfl rfl (List.forall_mem_nil _), List.forall_mem_nil _⟩
  · exact isName_of_all ["x", "y", "width", "height", "rx", "fill"] rfl (by decide +kernel)
  · exact isName_of_all ["x", "y", "fill", "font-size", "font-family", "dominant-baseline"] rfl
      (by decide +kernel)

theorem readable_pathTag : (pathTag path).Readable := by
  have hname : Tag.isName "g" = true := by decide +kernel
  have hkeys : ["class", "data-from", "data-to"].all Tag.isName = true := by decide +kernel
  refine .element hname (isName_of_all _ rfl hkeys) rfl rfl ?_
  intro child hchild
  rcases (mem_children_pathTag path).mp hchild with rfl | ⟨label, -, hlabel⟩
  · exact readable_lineTag path
  · exact readable_labelTags label child hlabel

theorem readable_markerDefinitions : markerDefinitions.Readable := by
  have hnames : ["defs", "marker", "circle", "path"].all Tag.isName = true := by decide +kernel
  have hname : ∀ name ∈ ["defs", "marker", "circle", "path"], Tag.isName name = true :=
    List.all_eq_true.mp hnames
  simp only [List.forall_mem_cons] at hname
  obtain ⟨hdefs, hmarker, hcircle, hpath, -⟩ := hname
  have hdot : Tag.Readable (.node { name := "circle", attributes :=
    [("cx", "4"), ("cy", "4"), ("r", "3"), ("fill", strokeColor)], isVoid := true } []) :=
    .void hcircle (isName_of_all _ rfl (by decide +kernel))
  have hhead : Tag.Readable (.node { name := "path", attributes :=
    [("d", "M 0 0 L 10 5 L 0 10 L 2 5 Z"), ("fill", strokeColor)], isVoid := true } []) :=
    .void hpath (isName_of_all _ rfl (by decide +kernel))
  refine .element hdefs (List.forall_mem_nil _) rfl rfl ?_
  simp only [List.forall_mem_cons]
  refine ⟨?_, ?_, List.forall_mem_nil _⟩
  · exact .element hmarker (isName_of_all _ rfl (by decide +kernel)) rfl rfl
      (List.forall_mem_singleton.mpr hdot)
  · exact .element hmarker (isName_of_all _ rfl (by decide +kernel)) rfl rfl
      (List.forall_mem_singleton.mpr hhead)

theorem readable_overlayTag : (overlayTag paths).Readable := by
  refine .element (by decide +kernel)
    (isName_of_all ["class", "style"] rfl (by decide +kernel)) rfl rfl ?_
  rw [List.forall_mem_cons]
  refine ⟨readable_markerDefinitions, fun tag htag => ?_⟩
  obtain ⟨path, -, rfl⟩ := List.mem_map.mp htag
  exact readable_pathTag path

/-- The element lists the paths: it holds the marker definitions and behind them one group for each
path, in order, and there are no other arrows. -/
structure Lists (paths : List (Path Number)) (tag : Tag) : Prop where
  name : tag.label.name = "svg"
  classed : tag.label.attribute? "class" = some "flow-arrows"
  children : tag.children = markerDefinitions :: tag.subtrees.filter isArrow
  arrows : List.Forall₂ Shows paths (tag.subtrees.filter isArrow)
  plain : ∀ head ∈ tag.preorder, IsPlain head

theorem lists_overlayTag : Lists paths (overlayTag paths) where
  name := rfl
  classed := by simp [overlayTag, TagHead.attribute?]
  children := by
    rw [isArrow_overlayTag]
    rfl
  arrows := by
    rw [isArrow_overlayTag, List.forall₂_map_right_iff, List.forall₂_same]
    exact fun path _ => shows_pathTag path
  plain := isPlain_overlayTag paths

/-- The width of every label is a double, or an integer in the range of the doubles. -/
def WidthsInRange (paths : List (Path Number)) : Prop :=
  ∀ drawn ∈ paths, ∀ label ∈ drawn.label, label.box.width.inRange = true

section

variable {paths : List (Path Number)} {charWidth : Number}
  (hplaced : ∀ drawn ∈ paths, ∀ label ∈ drawn.label, label.IsPlaced charWidth)

include hplaced

theorem all_isWritable_iff :
    (paths.filterMap (·.label)).all Label.isWritable = true ↔ WidthsInRange paths := by
  rw [List.all_eq_true]
  constructor
  · intro hall drawn hdrawn label hlabel
    rw [← (hplaced drawn hdrawn label hlabel).isWritable_eq]
    exact hall label (List.mem_filterMap.mpr ⟨drawn, hdrawn, hlabel⟩)
  · intro hall label hmem
    obtain ⟨drawn, hdrawn, hlabel⟩ := List.mem_filterMap.mp hmem
    rw [(hplaced drawn hdrawn label hlabel).isWritable_eq]
    exact hall drawn hdrawn label hlabel

theorem overlay_ok (hne : paths ≠ []) (hwidths : WidthsInRange paths) :
    overlay paths = .ok (overlayTag paths).html := by
  have hsome : ¬ paths.isEmpty = true := by simpa using hne
  rw [overlay, if_neg hsome, if_pos ((all_isWritable_iff hplaced).mpr hwidths)]

theorem overlay_error (hwidths : ¬ WidthsInRange paths) :
    overlay paths = .error .beyondDoubles := by
  have hsome : ¬ paths.isEmpty = true := by
    intro hempty
    rw [List.isEmpty_iff.mp hempty] at hwidths
    exact hwidths (List.forall_mem_nil _)
  rw [overlay, if_neg hsome, if_neg (mt (all_isWritable_iff hplaced).mp hwidths)]

end

theorem read?_overlayTag : Tag.read? (overlayTag paths).html = some (overlayTag paths) :=
  Tag.read?_html (readable_overlayTag paths)

/-- The overlay of paths can be read, unless the width of a label is out of range. -/
structure Legible (style : Style Number) (paths : List (Path Number)) : Prop where
  /-- Nothing is written exactly where there is nothing to draw. -/
  empty : overlay paths = .ok "" ↔ paths = []
  read : paths ≠ [] → WidthsInRange paths →
    ∃ html tag, overlay paths = .ok html ∧ Tag.read? html = some tag ∧ Lists paths tag
  refused : ¬ WidthsInRange paths → overlay paths = .error .beyondDoubles
  width : ∀ drawn ∈ paths, ∀ label ∈ drawn.label,
    label.box.width = .int label.text.length * style.charWidth + .int 8
  /-- With a double for the width of a character every width is in range. -/
  double : style.charWidth.IsDouble → WidthsInRange paths

/-- The overlay of a route lists its paths. -/
theorem overlay_legible {style : Style Number} {rects : List (Rect Number)} {edges : List FlowEdge}
    {paths : List (Path Number)} (h : route style rects edges = .ok paths) :
    Legible style paths where
  empty := by
    have hplaced := isPlaced_of_route h
    constructor
    · intro hempty
      by_contra hne
      by_cases hwidths : WidthsInRange paths
      · -- The empty text is read as no element.
        have hread := read?_overlayTag paths
        rw [overlay_ok hplaced hne hwidths] at hempty
        rw [Except.ok.inj hempty] at hread
        cases hread
      · rw [overlay_error hplaced hwidths] at hempty
        cases hempty
    · rintro rfl
      rfl
  read hne hwidths :=
    ⟨_, _, overlay_ok (isPlaced_of_route h) hne hwidths, read?_overlayTag paths,
      lists_overlayTag paths⟩
  refused := overlay_error (isPlaced_of_route h)
  width drawn hdrawn label hlabel := (isPlaced_of_route h drawn hdrawn label hlabel).width
  double := by
    rintro ⟨w, hw⟩ drawn hdrawn label hlabel
    have hplaced := isPlaced_of_route h drawn hdrawn label hlabel
    rw [hw] at hplaced
    exact hplaced.inRange

def markupScreens : List (Rect Number) :=
  [⟨"\"><script>", .int 0, .int 0, .int 280, .int 600⟩,
    ⟨"a&amp;b", .int 400, .int 0, .int 280, .int 600⟩]

def markupEdges : List FlowEdge :=
  [⟨some "\"><script>", some "a&amp;b", some "it\x27s </text><b>", none⟩,
    ⟨some "a&amp;b", some "\"><script>", some "", none⟩,
    ⟨some "a&amp;b", some "c", some "d", none⟩]

/-- Ids and a label full of reserved characters. -/
theorem overlay_legible_markup :
    ∃ paths, route ⟨.int 12, .double 7⟩ markupScreens markupEdges = .ok paths ∧
      paths.map (fun drawn => (drawn.source, drawn.target, drawn.label.map (·.text))) =
        [("\"><script>", "a&amp;b", some "it\x27s </text><b>"),
          ("a&amp;b", "\"><script>", none)] ∧
      WidthsInRange paths ∧ Legible ⟨.int 12, .double 7⟩ paths := by
  have hroute : (route ⟨.int 12, .double 7⟩ markupScreens markupEdges).map (fun paths =>
      paths.map fun drawn => (drawn.source, drawn.target, drawn.label.map (·.text))) =
        .ok [("\"><script>", "a&amp;b", some "it\x27s </text><b>"),
          ("a&amp;b", "\"><script>", none)] := by decide +kernel
  obtain ⟨paths, hpaths, hends⟩ := Except.map_ok_iff.mp hroute
  have legible := overlay_legible hpaths
  exact ⟨paths, hpaths, hends, legible.double ⟨7, rfl⟩, legible⟩

/-- A width of characters that is an integer far beyond the doubles: the label has its box, but the
width of the box cannot be written. -/
theorem overlay_refuses_wide :
    ∃ paths, route ⟨.int 12, .int (10 ^ 400)⟩ levelScreens
        [⟨some "a", some "b", some "x", none⟩] = .ok paths ∧
      paths ≠ [] ∧ overlay paths = .error .beyondDoubles := by
  have hroute : (route ⟨.int 12, .int (10 ^ 400)⟩ levelScreens
      [⟨some "a", some "b", some "x", none⟩]).isOk = true := by decide +kernel
  have hoverlay : (route ⟨.int 12, .int (10 ^ 400)⟩ levelScreens
      [⟨some "a", some "b", some "x", none⟩] >>= overlay) = .error .beyondDoubles := by
    decide +kernel
  obtain ⟨paths, hpaths⟩ := Except.isOk_iff_exists.mp hroute
  rw [hpaths, Except.ok_bind] at hoverlay
  refine ⟨paths, hpaths, ?_, hoverlay⟩
  rintro rfl
  cases hoverlay

end Flow

end Wireframe

import Wireframe.Markup.Basic
import Wireframe.Markup.Reader

/-! # Markup that is read back

An escaped text holds no mark at which a reader stops, and so it is read as it was written, whatever
follows it. `Tag.read?_html` carries this up to whole elements: one whose names are words and that
holds no trusted markup is read back, with everything below it, as it was.
-/

namespace Wireframe

namespace Text

theorem not_mem_escapeChar {mark : Char} (hmark : (entityOf? mark).isSome = true)
    (hamp : mark ≠ '&') (c : Char) : mark ∉ escapeChar c := by
  unfold escapeChar
  cases hc : entityOf? c with
  | none =>
      rw [Option.getD_none, List.mem_singleton]
      rintro rfl
      simp [hc] at hmark
  | some entity =>
      have hentity : ∀ letter ∈ entity, letter = '&' ∨ (entityOf? letter).isSome = false := by
        unfold entityOf? at hc
        split at hc <;> cases hc <;> simp [entityOf?]
      intro hmem
      rcases hentity mark hmem with h | h
      · exact hamp h
      · rw [hmark] at h
        cases h

theorem not_mem_escapeChars {mark : Char} (hmark : (entityOf? mark).isSome = true)
    (hamp : mark ≠ '&') (s : List Char) : mark ∉ escapeChars s := by
  intro hmem
  obtain ⟨c, -, hc⟩ := List.mem_flatMap.mp hmem
  exact not_mem_escapeChar hmark hamp c hc

end Text

namespace Tag

def EndsName (rest : List Char) : Prop := ∀ c ∈ rest.head?, isNameChar c = false

theorem endsName_cons {c : Char} {rest : List Char} (h : isNameChar c = false) :
    EndsName (c :: rest) := by
  simpa [EndsName] using h

theorem isNameChar_of_isName {name : String} (h : isName name = true) :
    ∀ c ∈ name.toList, isNameChar c = true := by
  rw [isName, Bool.and_eq_true] at h
  exact List.all_eq_true.mp h.2

theorem exists_of_isName {name : String} (h : isName name = true) :
    ∃ c cs, name.toList = c :: cs ∧ isNameChar c = true := by
  cases hchars : name.toList with
  | nil => simp [isName, String.toList_eq_nil_iff.mp hchars] at h
  | cons c cs => exact ⟨c, cs, rfl, isNameChar_of_isName h c (by simp [hchars])⟩

theorem readName_append {name : String} {rest : List Char} (hname : isName name = true)
    (hrest : EndsName rest) : readName (name.toList ++ rest) = some (name, rest) := by
  have hchars := isNameChar_of_isName hname
  have htaken : rest.takeWhile isNameChar = [] ∧ rest.dropWhile isNameChar = rest := by
    cases rest with
    | nil => exact ⟨rfl, rfl⟩
    | cons c rest =>
        have hc : ¬ isNameChar c = true := by simp [hrest c rfl]
        exact ⟨List.takeWhile_cons_of_neg hc, List.dropWhile_cons_of_neg hc⟩
  have hne : name.toList ≠ [] := by
    obtain ⟨c, cs, hcons, -⟩ := exists_of_isName hname
    simp [hcons]
  rw [readName, List.takeWhile_append_of_pos hchars, List.dropWhile_append_of_pos hchars,
    htaken.1, htaken.2]
  simp [hne]

theorem readUpTo_escape {mark : Char} (hmark : (Text.entityOf? mark).isSome = true)
    (hamp : mark ≠ '&') (text : String) (rest : List Char) :
    readUpTo mark (Text.escapeChars text.toList ++ mark :: rest) = some (text, mark :: rest) := by
  have hchars : ∀ c ∈ Text.escapeChars text.toList, (c != mark) = true := by
    intro c hc
    simp only [bne_iff_ne, ne_eq]
    rintro rfl
    exact Text.not_mem_escapeChars hmark hamp _ hc
  rw [readUpTo, List.takeWhile_append_of_pos hchars, List.dropWhile_append_of_pos hchars]
  simp [Text.unescape?_escapeChars]

theorem readAttribute_append {entry : String × String} (hkey : isName entry.1 = true)
    (rest : List Char) :
    readAttribute
        (entry.1.toList ++ '=' :: '"' :: (Text.escapeChars entry.2.toList ++ '"' :: rest)) =
      some (entry, rest) := by
  have hends : EndsName ('=' :: '"' :: (Text.escapeChars entry.2.toList ++ '"' :: rest)) :=
    endsName_cons (by decide +kernel)
  rw [readAttribute, readName_append hkey hends]
  simp only [Option.bind_eq_bind, Option.bind_some]
  rw [readUpTo_escape rfl (by decide)]
  rfl

theorem readAttributes_append {entries : List (String × String)} {rest : List Char} {fuel : Nat}
    (hkeys : ∀ entry ∈ entries, isName entry.1 = true) (hrest : rest.head? ≠ some ' ')
    (hfuel : entries.length ≤ fuel) :
    readAttributes fuel (entries.flatMap TagHead.attributeChars ++ rest) =
      some (entries, rest) := by
  induction entries generalizing fuel with
  | nil =>
      rw [List.flatMap_nil, List.nil_append]
      unfold readAttributes
      split
      · simp at hrest
      · simp at hrest
      · rfl
  | cons entry entries ih =>
      obtain ⟨fuel, rfl⟩ := Nat.exists_eq_succ_of_ne_zero (Nat.ne_of_gt (Nat.lt_of_lt_of_le
        (Nat.succ_pos _) hfuel))
      rw [List.forall_mem_cons] at hkeys
      have hread := ih hkeys.2 (Nat.le_of_succ_le_succ hfuel)
      rw [List.flatMap_cons, TagHead.attributeChars]
      simp only [List.cons_append, List.append_assoc, List.nil_append, readAttributes,
        readAttribute_append hkeys.1, hread, Option.bind_eq_bind, Option.bind_some]

/-! ## Elements -/

/-- An element that says all there is to read of it: its names are words, it holds no trusted
markup, and written as a single tag it holds nothing. -/
inductive Readable : Tag → Prop where
  | element {head : TagHead} {children : List Tag} (name : isName head.name = true)
      (keys : ∀ entry ∈ head.attributes, isName entry.1 = true) (raw : head.raw = "")
      (solid : head.isVoid = false) (below : ∀ child ∈ children, Readable child) :
      Readable (.node head children)
  | void {name : String} {attributes : List (String × String)} (named : isName name = true)
      (keys : ∀ entry ∈ attributes, isName entry.1 = true) :
      Readable (.node { name, attributes, isVoid := true } [])

theorem length_attributes_le (entries : List (String × String)) :
    entries.length ≤ (entries.flatMap TagHead.attributeChars).length := by
  induction entries with
  | nil => exact Nat.le_refl 0
  | cons entry entries ih =>
      simp only [List.flatMap_cons, List.length_append, List.length_cons, TagHead.attributeChars]
      omega

theorem endsName_attributes (entries : List (String × String)) {rest : List Char}
    (hrest : EndsName rest) : EndsName (entries.flatMap TagHead.attributeChars ++ rest) := by
  cases entries with
  | nil => exact hrest
  | cons entry entries => exact endsName_cons (by decide +kernel)

theorem readOpening_append {head : TagHead} {rest : List Char} (hname : isName head.name = true)
    (hkeys : ∀ entry ∈ head.attributes, isName entry.1 = true) (hrest : EndsName rest)
    (hblank : rest.head? ≠ some ' ') :
    readOpening (head.openingChars ++ rest) = some ((head.name, head.attributes), rest) := by
  have hfuel : head.attributes.length ≤
      (head.attributes.flatMap TagHead.attributeChars ++ rest).length := by
    rw [List.length_append]
    exact Nat.le_add_right_of_le (length_attributes_le _)
  simp only [TagHead.openingChars, List.cons_append, List.append_assoc, readOpening,
    readName_append hname (endsName_attributes _ hrest),
    readAttributes_append hkeys hblank hfuel, Option.bind_eq_bind, Option.bind_some]

theorem readClosing_append {head : TagHead} (hname : isName head.name = true) (rest : List Char) :
    readClosing head.name (head.closingChars ++ rest) = some rest := by
  have hends : EndsName ('>' :: rest) := endsName_cons (by decide +kernel)
  simp [TagHead.closingChars, readClosing, readName_append hname hends]

theorem chars_element {head : TagHead} {children : List Tag} (solid : head.isVoid = false)
    (raw : head.raw = "") :
    chars (.node head children) = head.openingChars ++
      '>' :: (Text.escapeChars head.text.toList ++ (charsAll children ++ head.closingChars)) := by
  simp [chars, solid, TagHead.innerChars, raw]

theorem chars_void {name : String} {attributes : List (String × String)} :
    chars (.node { name, attributes, isVoid := true } []) =
      TagHead.openingChars { name, attributes, isVoid := true } ++ ['/', '>'] := by
  simp [chars]

theorem openingChars_append_ne {head : TagHead} (hname : isName head.name = true)
    (rest more : List Char) : head.openingChars ++ rest ≠ '<' :: '/' :: more := by
  obtain ⟨c, cs, hcons, hc⟩ := exists_of_isName hname
  have hslash : isNameChar '/' = false := by decide +kernel
  rw [TagHead.openingChars, hcons]
  rintro ⟨⟩
  rw [hslash] at hc
  cases hc

theorem Readable.chars_append_ne {tag : Tag} (h : Readable tag) (rest more : List Char) :
    chars tag ++ rest ≠ '<' :: '/' :: more := by
  cases h with
  | element name _ raw solid _ =>
      rw [chars_element solid raw, List.append_assoc]
      exact openingChars_append_ne name _ more
  | void named _ =>
      rw [chars_void, List.append_assoc]
      exact openingChars_append_ne named _ more

theorem Readable.length_pos {tag : Tag} (h : Readable tag) : 0 < (chars tag).length := by
  cases h with
  | element _ _ raw solid _ => simp [chars_element solid raw, TagHead.openingChars]
  | void _ _ => simp [chars_void]

theorem readUpTo_text (text : String) (tags : List Tag) (head : TagHead) (rest : List Char) :
    readUpTo '<' (Text.escapeChars text.toList ++ (charsAll tags ++ (head.closingChars ++ rest))) =
      some (text, charsAll tags ++ (head.closingChars ++ rest)) := by
  obtain ⟨more, hmore⟩ : ∃ more, charsAll tags ++ (head.closingChars ++ rest) = '<' :: more := by
    cases tags with
    | nil => exact ⟨_, rfl⟩
    | cons tag tags =>
        obtain ⟨first, children⟩ := tag
        unfold charsAll chars
        split <;> exact ⟨_, rfl⟩
  rw [hmore]
  exact readUpTo_escape rfl (by decide) text more

theorem eq_of_solid {head : TagHead} (raw : head.raw = "") (solid : head.isVoid = false) :
    { name := head.name, attributes := head.attributes, text := head.text } = head := by
  obtain ⟨name, attributes, _, text, _⟩ := head
  cases raw
  cases solid
  rfl

theorem readElements_succ {fuel : Nat} {s : List Char} (h : ∀ more, s ≠ '<' :: '/' :: more) :
    readElements (fuel + 1) s = (do
      let (element, rest) ← readElement fuel s
      let (elements, rest) ← readElements fuel rest
      some (element :: elements, rest)) :=
  readElements.eq_3 s fuel h

/-- Elements in front of a closing tag, each of which is read in front of anything. -/
theorem readElements_append {tags : List Tag} (readable : ∀ tag ∈ tags, Readable tag)
    (h : ∀ tag ∈ tags, ∀ fuel rest, (chars tag).length ≤ fuel →
      readElement fuel (chars tag ++ rest) = some (tag, rest))
    (fuel : Nat) (hfuel : (charsAll tags).length < fuel) (rest : List Char) :
    readElements fuel (charsAll tags ++ '<' :: '/' :: rest) = some (tags, '<' :: '/' :: rest) := by
  obtain ⟨fuel, rfl⟩ := Nat.exists_eq_succ_of_ne_zero (Nat.ne_of_gt (Nat.zero_lt_of_lt hfuel))
  induction tags generalizing fuel with
  | nil => rfl
  | cons tag tags ih =>
      rw [List.forall_mem_cons] at readable h
      have hpos := readable.1.length_pos
      rw [charsAll, List.length_append] at hfuel
      obtain ⟨fuel, rfl⟩ := Nat.exists_eq_succ_of_ne_zero (show fuel ≠ 0 by omega)
      have hfirst := h.1 (fuel + 1) (charsAll tags ++ '<' :: '/' :: rest) (by omega)
      have hothers := ih readable.2 h.2 fuel (by omega)
      rw [charsAll, List.append_assoc, readElements_succ (readable.1.chars_append_ne _)]
      simp only [hfirst, hothers, Option.bind_eq_bind, Option.bind_some]

theorem Readable.readElement_append {tag : Tag} (h : Readable tag) :
    ∀ fuel rest, (chars tag).length ≤ fuel →
      readElement fuel (chars tag ++ rest) = some (tag, rest) := by
  induction h with
  | @element head children name keys raw solid below ih =>
      intro fuel rest hfuel
      rw [chars_element solid raw] at hfuel ⊢
      simp only [List.length_append, List.length_cons] at hfuel
      obtain ⟨fuel, rfl⟩ := Nat.exists_eq_succ_of_ne_zero (show fuel ≠ 0 by omega)
      have hopening : 0 < head.openingChars.length := by simp [TagHead.openingChars]
      have hchildren : readElements fuel (charsAll children ++ (head.closingChars ++ rest)) =
          some (children, head.closingChars ++ rest) := by
        have hread := readElements_append below ih fuel (by omega)
        simpa [TagHead.closingChars] using hread (head.name.toList ++ '>' :: rest)
      rw [readElement, List.append_assoc, readOpening_append name keys]
      · simp only [List.cons_append, List.append_assoc, Option.bind_eq_bind, Option.bind_some,
          readUpTo_text, hchildren, readClosing_append name, eq_of_solid raw solid]
      · exact endsName_cons (by decide +kernel)
      · simp
  | void named keys =>
      intro fuel rest hfuel
      rw [chars_void] at hfuel ⊢
      simp only [List.length_append, List.length_cons] at hfuel
      obtain ⟨fuel, rfl⟩ := Nat.exists_eq_succ_of_ne_zero (show fuel ≠ 0 by omega)
      rw [readElement, List.append_assoc, readOpening_append named keys]
      · rfl
      · exact endsName_cons (by decide +kernel)
      · simp

theorem read?_html {tag : Tag} (h : Readable tag) : read? tag.html = some tag := by
  have hread := h.readElement_append (chars tag).length [] (Nat.le_refl _)
  rw [List.append_nil] at hread
  rw [read?, html, String.toList_ofList, hread]

end Tag

/-- A node without trusted markup, whose tag and attribute keys are words. Its text, its classes and
its attribute values are any at all. -/
structure MarkupHead.IsPlain (head : MarkupHead) : Prop where
  tag : Tag.isName head.tag = true
  keys : ∀ entry ∈ head.attributes, Tag.isName entry.1 = true
  raw : head.raw = none

theorem MarkupHead.isName_tagAttributes {head : MarkupHead}
    (keys : ∀ entry ∈ head.attributes, Tag.isName entry.1 = true) :
    ∀ entry ∈ head.tagAttributes, Tag.isName entry.1 = true := by
  have hclass : Tag.isName "class" = true := by decide +kernel
  intro entry hentry
  rcases List.mem_append.mp hentry with hentry | hentry
  · split at hentry
    · cases hentry
    · rwa [List.mem_singleton.mp hentry]
  · obtain ⟨given, hgiven, rfl⟩ := List.mem_map.mp hentry
    exact keys given hgiven

namespace Markup

theorem readable_toTag {node : Markup} (h : ∀ head ∈ node.preorder, head.IsPlain) :
    node.toTag.Readable := by
  induction node using Tree.induct with
  | node head children ih =>
      rw [Tree.preorder_node, List.forall_mem_cons] at h
      rw [toTag, Tree.map_node]
      refine .element h.1.tag (MarkupHead.isName_tagAttributes h.1.keys)
        (by simp [MarkupHead.toTagHead, h.1.raw]) rfl fun tag htag => ?_
      obtain ⟨child, hchild, rfl⟩ := List.mem_map.mp htag
      exact ih child hchild fun inner hinner => h.2 inner (List.mem_flatMap_of_mem hchild hinner)

/-- Markup without trusted parts is read back: the same tags, nested alike and in the same order,
the classes joined by blanks where there are any, then the attributes, and the texts. -/
theorem read?_html {node : Markup} (h : ∀ head ∈ node.preorder, head.IsPlain) :
    Tag.read? node.html = some (node.map fun head => {
      name := head.tag
      attributes :=
        (if head.classes.isEmpty then [] else [("class", " ".intercalate head.classes)]) ++
          head.attributes.map fun entry => (entry.1, entry.2.fullText)
      text := head.text.string?.getD "" }) := by
  rw [html, Tag.read?_html (readable_toTag h), toTag]
  refine congrArg some (Tree.map_congr fun head hhead => ?_)
  simp [MarkupHead.toTagHead, (h head hhead).raw, MarkupHead.tagAttributes, MarkupHead.shownText]

end Markup

end Wireframe

import Wireframe.Plan.Resolve
import Wireframe.Proofs.Outcome
import Wireframe.Proofs.Plan.Named

/-! # Plans as rules build them

Whatever a rule draws, its leaves have no parts and its containers have a direction, and no node
that it draws itself is the root of an element. Values that an element gives for names stand at the
root of what a rule draws and nowhere below it. A box alone takes in plans that it did not draw:
those of the elements below it.
-/

namespace Wireframe

/-- A plan whose leaves have no parts, whose containers have a direction, and of whose nodes `P`
holds. -/
inductive Plan.Built (P : PlanHead → Prop) : Plan → Prop where
  | leaf {head : PlanHead} (kind : head.isContainer = false) (holds : P head) :
      Built P (.node head [])
  | container {head : PlanHead} {parts : List Plan} (kind : head.isContainer = true)
      (direction : head.layout.direction.isSome = true) (holds : P head)
      (below : ∀ part ∈ parts, Built P part) : Built P (.node head parts)

/-- A text style whose weight is one that fonts are acquired in and whose colour is in the
palette. -/
structure TextStyle.Known (style : TextStyle) : Prop where
  weight : style.weight ∈ Token.fontWeights
  color : style.color ∈ Token.colorNames

/-- The role of the node is a plain word, it names styles and colours that there are, and the texts
that it shows are strings. -/
structure PlanHead.IsSound (head : PlanHead) : Prop where
  role : isRole head.role = true
  style : ∀ style ∈ head.textStyle, style.Known
  paint : head.paint.isKnown = true
  shown : head.showsStrings = true

structure PlanHead.IsOwn (head : PlanHead) : Prop extends head.IsSound where
  notElement : head.isElement = false

/-- A node that a rule draws below the root: what it names is a word of the rule's own, and it is no
input. -/
structure PlanHead.IsFixed (head : PlanHead) : Prop extends head.IsOwn where
  glyph : ∀ value ∈ head.glyphName?, value.string?.isSome = true
  word : ∀ value ∈ head.classValue?, ∃ word, value = .string word ∧ Text.isPlain word = true
  label : ∀ value ∈ head.labelValue?, value.isWritable = true
  kind : head.kind ≠ .input

/-- A node of a rule's own whose class is named after its role alone. -/
theorem PlanHead.IsOwn.fixed {head : PlanHead} (own : head.IsOwn)
    (glyph : ∀ value ∈ head.glyphName?, value.string?.isSome = true)
    (bare : head.classValue? = none) (label : ∀ value ∈ head.labelValue?, value.isWritable = true)
    (kind : head.kind ≠ .input) : head.IsFixed where
  toIsOwn := own
  glyph := glyph
  word := by simp [bare]
  label := label
  kind := kind

structure PlanHead.IsResolved (head : PlanHead) : Prop extends head.IsSound where
  fixed : head.isElement = false → head.IsFixed

theorem PlanHead.IsSound.role_plain {head : PlanHead} (sound : head.IsSound) :
    Text.isPlain head.role = true := by
  have hrole := sound.role
  rw [isRole, Bool.and_eq_true] at hrole
  exact hrole.1

theorem PlanHead.IsSound.role_ne_element {head : PlanHead} (sound : head.IsSound) :
    head.role ≠ "element" := by
  have hrole := sound.role
  rw [isRole, Bool.and_eq_true] at hrole
  simpa using hrole.2

theorem PlanHead.IsSound.isString {head : PlanHead} (sound : head.IsSound) {v : Value}
    (h : v ∈ head.shown) : v.string?.isSome = true :=
  List.all_eq_true.mp sound.shown v h

theorem PlanHead.IsSound.known {head : PlanHead} (sound : head.IsSound) :
    ∀ token ∈ head.tokens, token ∈ Token.colorNames := by
  intro token htoken
  rw [PlanHead.tokens, List.mem_append] at htoken
  rcases htoken with hstyle | hpaint
  · obtain ⟨style, hgiven, rfl⟩ : ∃ style ∈ head.textStyle, style.color = token := by
      simpa using hstyle
    exact (sound.style style hgiven).color
  · have hknown := sound.paint
    rw [Paint.isKnown, List.all_eq_true] at hknown
    simpa using hknown token hpaint

theorem PlanHead.IsOwn.resolved_root {head : PlanHead} (own : head.IsOwn) (id : Option String)
    (type : String) (isFallback : Bool) :
    IsResolved
      { head with elementId := id, elementType := type, isElement := true, isFallback } :=
  ⟨⟨own.role, own.style, own.paint, own.shown⟩, nofun⟩

theorem Table.mem_of_entry? {α : Type} {table : Table α} {name : String} {value : α}
    (h : table.entry? name = some value) : (name, value) ∈ table := by
  obtain ⟨before, after, htable, -⟩ := List.lookup_eq_some_iff.mp h
  rw [htable]
  exact List.mem_append_right _ List.mem_cons_self

theorem Table.isSome_lookup {α : Type} (table : Table α) (name : String) :
    (table.entry? name).isSome = (table.map Prod.fst).contains name := by
  induction table with
  | nil => rfl
  | cons entry table ih =>
      unfold entry?
      rw [List.lookup_cons, List.map_cons, List.contains_cons, ← ih]
      cases hname : name == entry.1 <;> rfl

theorem Table.mem_of_find? {α : Type} {table : Table α} {key : Value} {value : α}
    (h : table.find? key = .ok (some value)) : ∃ name, (name, value) ∈ table := by
  cases key with
  | string name => exact ⟨name, mem_of_entry? (Except.ok.inj h)⟩
  | list _ | object _ | null | bool _ | number _ => cases h

theorem Table.findOr_cases {α : Type} {table : Table α} {key : Value} {default value : α}
    (h : table.findOr key default = .ok value) :
    value = default ∨ ∃ name, (name, value) ∈ table := by
  obtain ⟨entry, hentry, rfl⟩ := Except.map_ok_iff.mp h
  cases entry with
  | none => exact .inl rfl
  | some value => exact .inr (mem_of_find? hentry)

namespace Plan

variable {P Q : PlanHead → Prop} {plan : Plan} {parts : List Plan}

theorem Built.mono (h : ∀ head, P head → Q head) (built : plan.Built P) : plan.Built Q := by
  induction built with
  | leaf kind holds => exact .leaf kind (h _ holds)
  | container kind direction holds _ ih => exact .container kind direction (h _ holds) ih

theorem Built.holds (built : plan.Built P) : P plan.label := by
  cases built with
  | leaf _ holds => exact holds
  | container _ _ holds _ => exact holds

theorem Built.of_mem_children (built : plan.Built P) {part : Plan} (h : part ∈ plan.children) :
    part.Built P := by
  cases built with
  | leaf _ _ => simp at h
  | container _ _ _ below => exact below part h

/-- What is said of every node holds of the nodes in preorder. -/
theorem Built.of_mem_walk (built : plan.Built P) : ∀ head ∈ plan.walk, P head := by
  induction built with
  | leaf _ holds => simpa [walk, Tree.preorder_node] using holds
  | container _ _ holds _ ih =>
      intro head hmem
      simp only [walk, Tree.preorder_node, List.mem_cons, List.mem_flatMap] at hmem
      rcases hmem with rfl | ⟨part, hpart, hhead⟩
      · exact holds
      · exact ih part hpart head hhead

theorem Built.leaf_of_mem_subtrees (built : plan.Built P) :
    ∀ part ∈ plan.subtrees, part.label.isContainer = false → part.children = [] := by
  induction built with
  | leaf _ _ => simp [Tree.subtrees_node]
  | container kind _ _ _ ih =>
      intro part hmem hleaf
      simp only [Tree.subtrees_node, List.mem_cons, List.mem_flatMap] at hmem
      rcases hmem with rfl | ⟨child, hchild, hpart⟩
      · simp [kind] at hleaf
      · exact ih child hchild part hpart hleaf

/-! ## What is drawn -/

/-- What a rule draws: below a root of its own, every node is fixed. -/
structure Drawn (plan : Plan) : Prop where
  built : plan.Built PlanHead.IsOwn
  parts : ∀ part ∈ plan.children, Built PlanHead.IsFixed part

theorem Built.own (built : plan.Built PlanHead.IsFixed) : plan.Built PlanHead.IsOwn :=
  built.mono fun _ fixed => fixed.toIsOwn

theorem Built.resolved (built : plan.Built PlanHead.IsFixed) : plan.Built PlanHead.IsResolved :=
  built.mono fun _ fixed => ⟨fixed.toIsSound, fun _ => fixed⟩

theorem Drawn.asElement (drawn : plan.Drawn) (id : Option String) (type : String)
    (isFallback : Bool) : Built PlanHead.IsResolved (plan.asElement id type isFallback) := by
  obtain ⟨built, hparts⟩ := drawn
  cases built with
  | leaf kind own => exact .leaf kind (own.resolved_root id type isFallback)
  | container kind direction own _ =>
      exact .container kind direction (own.resolved_root id type isFallback)
        fun part hpart => (hparts part hpart).resolved

theorem Drawn.leaf {head : PlanHead} (kind : head.isContainer = false) (own : head.IsOwn) :
    Drawn (.node head []) :=
  ⟨.leaf kind own, by simp⟩

/-! ## Text styles -/

/-- Every style of the tables, and the one that stands for unknown names, is of a known weight. -/
theorem weight_getD_entry? (name : String) :
    ((Token.textStyles.entry? name).getD (14, "Regular")).2 ∈ Token.fontWeights := by
  cases h : Token.textStyles.entry? name with
  | none => simp [Token.fontWeights]
  | some style =>
      have hall : ∀ entry ∈ Token.textStyles, entry.2.2 ∈ Token.fontWeights := by
        simp [Token.textStyles, Token.fontWeights]
      exact hall _ (Table.mem_of_entry? h)

def isKnown (color weight : Option String) : Bool :=
  color.all Token.colorNames.contains && weight.all Token.fontWeights.contains

theorem known_knownStyle (style : String) {color weight : Option String}
    (h : isKnown color weight = true) : (knownStyle style color weight).Known := by
  rw [isKnown, Bool.and_eq_true] at h
  refine ⟨?_, ?_⟩
  · cases weight with
    | none => exact weight_getD_entry? style
    | some weight => simpa [knownStyle] using h.2
  · cases color with
    | none =>
        simp only [knownStyle, Option.getD_none]
        split <;> decide
    | some color => simpa [knownStyle] using h.1

/-- A style that a producer names is of a known weight, whatever it names. -/
theorem known_textStyle {name : Value} {style : TextStyle}
    (h : textStyle name none none = .ok style) : style.Known := by
  obtain ⟨found, hfound, h⟩ := Except.bind_ok_iff.mp h
  cases h
  refine ⟨?_, ?_⟩
  · cases Table.findOr_cases hfound with
    | inl hdefault => simp [hdefault, Token.fontWeights]
    | inr hentry =>
        obtain ⟨key, hentry⟩ := hentry
        have hall : ∀ entry ∈ Token.textStyles, entry.2.2 ∈ Token.fontWeights := by
          simp [Token.textStyles, Token.fontWeights]
        exact hall _ hentry
  · simp only [Option.getD_none]
    split <;> decide

/-! ## Primitives -/

theorem own_text (content style : String) {role : String} {options : TextOptions}
    (hrole : PlanHead.isRole role = true) (hknown : isKnown options.color options.weight = true) :
    (text content style role options).label.IsOwn := by
  refine ⟨⟨hrole, ?_, rfl, rfl⟩, rfl⟩
  rintro _ ⟨⟩
  exact known_knownStyle style hknown

theorem built_text (content style : String) {role : String} {options : TextOptions}
    (hrole : PlanHead.isRole role = true) (hknown : isKnown options.color options.weight = true)
    (hpart : ["text", "badge"].contains role = false) :
    (text content style role options).Built PlanHead.IsFixed := by
  have hbare : (text content style role options).label.classValue? = none :=
    PlanHead.classValue?_text rfl hpart
  exact .leaf rfl ((own_text content style hrole hknown).fixed nofun hbare nofun nofun)

theorem drawn_styledText {content role : String} {style : Value}
    (hrole : PlanHead.isRole role = true) (h : styledText content style role = .ok plan) :
    plan.Drawn := by
  obtain ⟨style, hstyle, h⟩ := Except.bind_ok_iff.mp h
  cases h
  refine .leaf rfl ⟨⟨hrole, ?_, rfl, rfl⟩, rfl⟩
  rintro _ ⟨⟩
  exact known_textStyle hstyle

theorem own_button (content : String) (variant : Value) {role : String} (sizing : Sizing)
    (extra : Members) (hrole : PlanHead.isRole role = true) :
    (button content variant role sizing extra).label.IsOwn := by
  refine ⟨⟨hrole, ?_, ?_, rfl⟩, rfl⟩
  · rintro _ ⟨⟩
    exact ⟨by decide, by decide⟩
  · show (buttonPaint variant).isKnown = true
    unfold buttonPaint
    split
    · rfl
    · split <;> rfl

theorem built_action (content : String) (variant : Value) (sizing : Sizing) (extra : Members) :
    (button content variant "card-action" sizing extra).Built PlanHead.IsFixed :=
  .leaf rfl ((own_button content variant sizing extra rfl).fixed nofun rfl nofun nofun)

/-- An image is a leaf that names no drawing, and whose class is named after its size. -/
theorem exists_image {size shape : Value} {role label : String}
    (hrole : PlanHead.isRole role = true) (h : image size role label shape = .ok plan) :
    ∃ head, plan = leaf head ∧ head.isContainer = false ∧ head.IsOwn ∧
      head.kind = .image ∧
      head.classValue? = if role = "card-image" then none else some size := by
  obtain ⟨⟨width, height⟩, _, h⟩ := Except.bind_ok_iff.mp h
  cases h
  refine ⟨_, rfl, rfl, ⟨⟨hrole, by rintro _ ⟨⟩, rfl, ?_⟩, rfl⟩, rfl, rfl⟩
  unfold PlanHead.showsStrings PlanHead.shown
  dsimp only
  split <;> rfl

theorem drawn_image {size shape : Value} {role label : String} (hrole : PlanHead.isRole role = true)
    (h : image size role label shape = .ok plan) : plan.Drawn := by
  obtain ⟨head, rfl, kind, own, -⟩ := exists_image hrole h
  exact .leaf kind own

theorem built_image {size role label : String} {shape : Value}
    (hrole : PlanHead.isRole role = true) (hsize : Text.isPlain size = true)
    (h : image (.string size) role label shape = .ok plan) : plan.Built PlanHead.IsFixed := by
  obtain ⟨head, rfl, kind, own, himage, hclass⟩ := exists_image hrole h
  have hglyph : head.glyphName? = none := by rw [PlanHead.glyphName?, himage]
  have hlabel : head.labelValue? = none := by rw [PlanHead.labelValue?, himage]
  refine .leaf kind ⟨own, by simp [hglyph], ?_, by simp [hlabel], by simp [himage]⟩
  rw [hclass]
  split
  · nofun
  · rintro _ ⟨⟩
    exact ⟨size, rfl, hsize⟩

theorem built_icon (name : String) {role color : String} (hrole : PlanHead.isRole role = true)
    (hcolor : Token.colorNames.contains color = true) :
    (icon name role color).Built PlanHead.IsFixed := by
  refine .leaf rfl (PlanHead.IsOwn.fixed ⟨⟨hrole, ?_, rfl, rfl⟩, rfl⟩ ?_ rfl ?_ nofun)
  · rintro _ ⟨⟩
    exact known_knownStyle _ (by simpa [isKnown] using hcolor)
  · rintro _ ⟨⟩
    rfl
  · rintro _ ⟨⟩
    rfl

theorem drawn_labelledIcon {name label size : Value}
    (h : labelledIcon name label size = .ok plan) : plan.Drawn := by
  have hrole : PlanHead.isRole "icon" = true := rfl
  obtain ⟨edge, _, h⟩ := Except.bind_ok_iff.mp h
  cases h
  refine .leaf rfl ⟨⟨hrole, ?_, rfl, rfl⟩, rfl⟩
  rintro _ ⟨⟩
  exact known_knownStyle _ rfl

theorem own_container (parts : List Plan) (elementType : String) {role : String} {paint : Paint}
    (layout : Layout) (props : Members) (hrole : PlanHead.isRole role = true)
    (hpaint : paint.isKnown = true) :
    (container role elementType parts paint layout props).label.IsOwn :=
  ⟨⟨hrole, by rintro _ ⟨⟩, hpaint, rfl⟩, rfl⟩

theorem drawn_container (elementType : String) {role : String} {paint : Paint} {layout : Layout}
    (props : Members) (hrole : PlanHead.isRole role = true) (hpaint : paint.isKnown = true)
    (direction : layout.direction.isSome = true)
    (hparts : ∀ part ∈ parts, Built PlanHead.IsFixed part) :
    (container role elementType parts paint layout props).Drawn :=
  ⟨.container rfl direction (own_container parts elementType layout props hrole hpaint)
    fun part hpart => (hparts part hpart).own, hparts⟩

theorem built_container (elementType : String) {role : String} {paint : Paint} {layout : Layout}
    (props : Members) (hrole : PlanHead.isRole role = true) (hpaint : paint.isKnown = true)
    (direction : layout.direction.isSome = true) (hpart : ["box", "card"].contains role = false)
    (hparts : ∀ part ∈ parts, Built PlanHead.IsFixed part) :
    (container role elementType parts paint layout props).Built PlanHead.IsFixed := by
  have hbare : (container role elementType parts paint layout props).label.classValue? = none :=
    PlanHead.classValue?_container rfl hpart
  exact .container rfl direction
    ((own_container parts elementType layout props hrole hpaint).fixed nofun hbare nofun nofun)
    hparts

end Plan

end Wireframe

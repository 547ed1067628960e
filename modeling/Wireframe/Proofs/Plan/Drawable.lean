import Wireframe.Preview.Draw
import Wireframe.Proofs.Plan.Each
import Wireframe.Proofs.Plan.Materialized
import Wireframe.Proofs.Plan.Resolvable
import Wireframe.Proofs.Spec.Reading
import Wireframe.Scene.Draw

/-! # Which plans can be drawn

Every node of a resolved plan names colours of the palette, and so a scene of it can be drawn once
there are fonts, unless an icon has a name or a label that cannot be written. A preview also looks
drawings up by the names that icons and inputs give and writes classes and labels: it can be drawn
exactly when none of these names is a list or an object with something in it, and all that is written
can be.
-/

namespace Wireframe

/-- Whether a drawing can be looked up by the value: what counts as false is not looked up. -/
def Value.namesGlyph (v : Value) : Bool := !v.truthy || v.isKey

namespace PlanHead

def isPreviewable (head : PlanHead) : Bool :=
  head.glyphName?.all Value.namesGlyph && head.classValue?.all Value.isWritable &&
    head.labelValue?.all Value.isWritable

def isPicturable (head : PlanHead) : Bool :=
  head.kind != .icon ||
    (head.glyphName?.all Value.isWritable && head.labelValue?.all Value.isWritable)

/-- Whether the node shows a text, so that it is drawn only once the fonts are there. -/
def needsFonts (head : PlanHead) : Bool :=
  match head.kind with
  | .text => true
  | .button => true
  | .input => true
  | .icon => (head.prop "label").truthy
  | _ => false

/-- Why a scene of the node cannot be drawn, with or without fonts. -/
def sceneFailure? (fontsLoaded : Bool) (head : PlanHead) : Option SceneError :=
  if !head.isPicturable then some .overlong
  else if head.needsFonts && !fontsLoaded then some .fontsNotLoaded
  else none

end PlanHead

/-- What an element says for its drawing, its class and its label lets a preview of it be drawn. -/
structure ElementHead.IsPreviewable (head : ElementHead) : Prop where
  glyph : ∀ name ∈ glyphProp? head.type, (head.props.value name).namesGlyph = true
  word : ∀ name ∈ classProp? head.type, (head.props.value name).isWritable = true
  label : ∀ name ∈ labelProp? head.type, (head.props.value name).isWritable = true

/-- An element of a type without such props says nothing against a preview. -/
theorem ElementHead.isPreviewable_of_none {head : ElementHead} (glyph : glyphProp? head.type = none)
    (word : classProp? head.type = none) (label : labelProp? head.type = none) :
    head.IsPreviewable :=
  ⟨by simp [glyph], by simp [word], by simp [label]⟩

def ElementHead.IsPicturable (head : ElementHead) : Prop :=
  head.type = "icon" → (head.props.value "name").isWritable = true ∧
    (head.props.value "label").isWritable = true

/-! ## Previews -/

namespace Preview

variable {screenId : String} {selection : Selection} {head : PlanHead}

theorem glyph_isOk {name : Value} {fallback : String}
    (h : (Glyph.drawing? fallback).isSome = true) :
    (glyph name fallback).isOk = name.namesGlyph := by
  obtain ⟨usual, husual⟩ := Option.isSome_iff_exists.mp h
  rw [glyph, Except.isOk_mapError, Glyph.svg, husual]
  cases name with
  | string name => simp [Value.namesGlyph, Value.isKey]
  | null | bool _ | number _ => simp [Value.namesGlyph, Value.isKey]
  | list items => cases items <;> simp [Value.namesGlyph, Value.isKey, Value.truthy]
  | object members => cases members <;> simp [Value.namesGlyph, Value.isKey, Value.truthy]

theorem labels_isOk {tag className : String} :
    (labels tag className head).isOk = (head.prop "label").isWritable := by
  unfold labels
  cases hlabel : (head.prop "label").truthy with
  | true =>
      dsimp only
      rw [hlabel, if_pos rfl]
      exact (Except.isOk_bind_total fun _ => rfl).trans Value.display_isOk
  | false =>
      dsimp only
      rw [hlabel, if_neg Bool.false_ne_true, Value.isWritable_of_not_truthy hlabel]
      rfl

theorem namedClasses_isOk {fixed stem : String} {name : Value} :
    (namedClasses fixed stem name).isOk = name.isWritable := by
  rw [namedClasses, Except.isOk_map, Value.display_isOk]

theorem text_isOk (kind : head.kind = .text) :
    (text head).isOk = head.classValue?.all Value.isWritable := by
  refine (Except.isOk_bind_total fun _ => rfl).trans ((Except.isOk_bind_total fun _ => rfl).trans ?_)
  unfold roleClasses PlanHead.classValue?
  rw [kind]
  dsimp only
  split
  · exact namedClasses_isOk
  · split
    · exact namedClasses_isOk
    · rfl

theorem button_isOk (kind : head.kind = .button) :
    (button head).isOk = head.classValue?.all Value.isWritable := by
  unfold button PlanHead.classValue?
  rw [kind]
  dsimp only
  split
  · rfl
  · exact (Except.isOk_bind_total fun _ => rfl).trans namedClasses_isOk

theorem image_isOk (kind : head.kind = .image) :
    (image head).isOk = head.classValue?.all Value.isWritable := by
  unfold image PlanHead.classValue?
  rw [kind]
  dsimp only
  split
  · rfl
  · refine (Except.isOk_bind_total fun _ => ?_).trans namedClasses_isOk
    split <;> rfl

theorem input_isOk :
    (input head).isOk = ((head.prop "label").isWritable && (head.prop "icon").namesGlyph) := by
  refine (Except.isOk_bind fun _ => (Except.isOk_bind_total fun _ => rfl).trans
    (glyph_isOk (by decide +kernel))).trans ?_
  rw [labels_isOk]

theorem icon_isOk :
    (icon head).isOk = ((head.prop "name").namesGlyph && (head.prop "label").isWritable) := by
  refine (Except.isOk_bind fun _ => (Except.isOk_bind_total fun _ => rfl).trans labels_isOk).trans ?_
  rw [glyph_isOk (by decide +kernel)]

theorem bareLeaf_isOk (kind : head.isContainer = false) :
    (bareLeaf head).isOk = head.isPreviewable := by
  unfold bareLeaf PlanHead.isPreviewable PlanHead.glyphName? PlanHead.labelValue?
  cases hkind : head.kind with
  | text => simpa using text_isOk hkind
  | button => simpa using button_isOk hkind
  | image => simpa using image_isOk hkind
  | input =>
      have hclass : head.classValue? = none := by rw [PlanHead.classValue?, hkind]
      simpa [hclass, Bool.and_comm] using input_isOk
  | icon =>
      have hclass : head.classValue? = none := by rw [PlanHead.classValue?, hkind]
      simpa [hclass] using icon_isOk
  | spacer =>
      have hclass : head.classValue? = some (head.propOr "size" (.string "medium")) := by
        rw [PlanHead.classValue?, hkind]
      have hspacer : (spacer head).isOk = _ :=
        (Except.isOk_bind_total fun _ => rfl).trans namedClasses_isOk
      simpa [hclass] using hspacer
  | container => simp [PlanHead.isContainer, hkind] at kind
  | divider | switch =>
      have hclass : head.classValue? = none := by rw [PlanHead.classValue?, hkind]
      simp [hclass]

theorem containerClasses_isOk (kind : head.isContainer = true) :
    (containerClasses head).isOk = head.isPreviewable := by
  have hkind : head.kind = .container := by simpa [PlanHead.isContainer] using kind
  have hglyph : head.glyphName? = none := by rw [PlanHead.glyphName?, hkind]
  have hlabel : head.labelValue? = none := by rw [PlanHead.labelValue?, hkind]
  rw [PlanHead.isPreviewable, hglyph, hlabel]
  unfold containerClasses PlanHead.classValue?
  rw [hkind]
  dsimp only
  split
  · simpa using namedClasses_isOk
  · split
    · simpa using namedClasses_isOk
    · split <;> rfl

/-- A preview of a plan can be drawn exactly when one of every node can. -/
theorem materialize_isOk {P : PlanHead → Prop} {plan : Plan} (built : plan.Built P) :
    ((target screenId selection).materialize plan).isOk =
      plan.walk.all PlanHead.isPreviewable := by
  refine Target.materialize_isOk ?_ ?_ built
  · intro head _ kind
    rw [← bareLeaf_isOk kind]
    exact Except.isOk_map _ _
  · intro head nodes _ kind
    rw [← containerClasses_isOk kind]
    exact Except.isOk_map _ _

end Preview

/-! ## Scenes -/

namespace Scene

variable {pen : Pen} {head : PlanHead}

theorem color_isOk {token : String} (h : Token.colorNames.contains token = true) :
    (color token).isOk = true := by
  have hfound : (Token.colors.entry? token).isSome = true := by
    rw [Table.isSome_lookup]
    exact h
  obtain ⟨found, hfound⟩ := Option.isSome_iff_exists.mp hfound
  rw [color, hfound, Except.isOk_ok]

theorem solid_isOk {token : String} (h : Token.colorNames.contains token = true)
    (opacity : Number) : (solid token opacity).isOk = true := by
  rw [solid, Except.isOk_map, color_isOk h]

theorem fills_isOk {paint : Paint} (h : paint.isKnown = true) : (fills paint).isOk = true := by
  simp only [Paint.isKnown, Paint.tokens, List.all_append, Bool.and_eq_true] at h
  rw [fills]
  split
  · rename_i first last hgradient
    simp only [hgradient, Option.toList_some, List.flatMap_cons, List.flatMap_nil,
      List.append_nil, List.all_cons, List.all_nil, Bool.and_true, Bool.and_eq_true] at h
    refine (Except.isOk_bind fun _ => Except.isOk_bind_total fun _ => rfl).trans ?_
    rw [color_isOk h.1.2.1, color_isOk h.1.2.2, Bool.and_true]
  · rename_i fill _ hfill
    simp only [hfill, Option.toList_some, List.all_cons, List.all_nil, Bool.and_true] at h
    exact (Except.isOk_bind_total fun _ => rfl).trans (solid_isOk h.1.1 _)
  · rfl

theorem strokes_isOk {paint : Paint} (h : paint.isKnown = true) :
    (strokes paint).isOk = true := by
  simp only [Paint.isKnown, Paint.tokens, List.all_append, Bool.and_eq_true] at h
  rw [strokes]
  split
  · rename_i stroke hstroke
    simp only [hstroke, Option.toList_some, List.all_cons, List.all_nil, Bool.and_true] at h
    exact (Except.isOk_bind_total fun _ => rfl).trans (solid_isOk h.2 _)
  · rfl

theorem painted_isOk {paint : Paint} (h : paint.isKnown = true) (name : Value)
    (nodes : List Scene) : (painted name paint nodes).isOk = true := by
  rw [painted]
  refine (Except.isOk_bind fun _ => Except.isOk_bind_total fun _ => rfl).trans ?_
  rw [fills_isOk h, strokes_isOk h, Bool.and_true]

theorem textNode_error? {style : Option TextStyle} (h : ∀ given ∈ style, TextStyle.Known given)
    (characters : Value) :
    (textNode pen characters style).error? =
      if pen.fontsLoaded then none else some .fontsNotLoaded := by
  have hcolor : Token.colorNames.contains (style.getD usualStyle).color = true := by
    cases style with
    | none => rfl
    | some style => simpa using (h style rfl).color
  cases hloaded : pen.fontsLoaded with
  | true =>
      rw [textNode, hloaded, if_pos rfl, Except.error?_eq_none_iff]
      exact (Except.isOk_bind_total fun _ => rfl).trans (solid_isOk hcolor 1)
  | false =>
      rw [textNode, hloaded]
      rfl

theorem framed_error? {paint : Paint} (hpaint : paint.isKnown = true) {name characters : Value}
    {style : Option TextStyle} (hstyle : ∀ given ∈ style, TextStyle.Known given)
    {finish : Scene → Scene → Scene} :
    (do let frame ← painted name paint []
        let text ← textNode pen characters style
        return finish frame text : Except SceneError Scene).error? =
      if pen.fontsLoaded then none else some .fontsNotLoaded := by
  have hframe : (painted name paint []).error? = none :=
    Except.error?_eq_none_iff.mpr (painted_isOk hpaint _ _)
  refine (Except.error?_bind fun frame => (Except.error?_bind_total fun text => rfl).trans
    (textNode_error? hstyle characters)).trans ?_
  rw [hframe, Option.none_or]

theorem button_error? (sound : head.IsSound) :
    (button pen head).error? = if pen.fontsLoaded then none else some .fontsNotLoaded := by
  refine framed_error? ?_ sound.style
  split
  · rfl
  · exact sound.paint

theorem input_error? (sound : head.IsSound) :
    (input pen head).error? = if pen.fontsLoaded then none else some .fontsNotLoaded :=
  framed_error? sound.paint sound.style

theorem iconColor_isOk (sound : head.IsSound) :
    (solid ((head.textStyle.map (·.color)).getD "text") 1).isOk = true := by
  refine solid_isOk ?_ 1
  cases hstyle : head.textStyle with
  | none => rfl
  | some style => simpa using (sound.style style hstyle).color

theorem display_error? (v : Value) :
    (v.display SceneError.overlong).error? = if v.isWritable then none else some .overlong := by
  unfold Value.display
  split <;> rfl

/-- The name of an icon is written first, and its label before there is any need of fonts. -/
theorem icon_error? (sound : head.IsSound) :
    (icon pen head).error? =
      if (head.prop "name").isWritable && (head.prop "label").isWritable then
        if (head.prop "label").truthy && !pen.fontsLoaded then some .fontsNotLoaded else none
      else some .overlong := by
  have hstroke := Except.error?_eq_none_iff.mpr (iconColor_isOk sound)
  -- What is left behind the name and the stroke: the label, if there is one.
  have hrest : ∀ glyph : Scene,
      (if (head.prop "label").truthy then do
        let shown ← (head.prop "label").display .overlong
        let text ← textNode pen (.string shown) head.textStyle
        return .frame { name := .string "Icon" } {} [glyph, text]
      else return glyph : Except SceneError Scene).error? =
        if (head.prop "label").isWritable then
          if (head.prop "label").truthy && !pen.fontsLoaded then some .fontsNotLoaded else none
        else some .overlong := by
    intro glyph
    cases hlabel : (head.prop "label").truthy with
    | true =>
        rw [if_pos rfl]
        refine (Except.error?_bind fun shown => (Except.error?_bind_total fun text => rfl).trans
          (textNode_error? sound.style (.string shown))).trans ?_
        rw [display_error?]
        cases (head.prop "label").isWritable <;> cases pen.fontsLoaded <;> rfl
    | false => rw [Value.isWritable_of_not_truthy hlabel]; rfl
  refine (Except.error?_bind fun name => Except.error?_bind fun stroke => hrest _).trans ?_
  rw [display_error?, hstroke]
  cases (head.prop "name").isWritable <;> cases (head.prop "label").isWritable <;> rfl

theorem switch_isOk (sound : head.IsSound) : (switch head).isOk = true := by
  rw [switch]
  refine (Except.isOk_bind fun _ => Except.isOk_bind_total fun _ => rfl).trans ?_
  rw [painted_isOk sound.paint, solid_isOk rfl, Bool.and_true]

theorem isPicturable_of_ne_icon (h : head.kind ≠ .icon) : head.isPicturable = true := by
  rw [PlanHead.isPicturable, bne_iff_ne.mpr h, Bool.true_or]

theorem leaf_error? (sound : head.IsSound) (kind : head.isContainer = false) :
    (leaf pen head).error? = head.sceneFailure? pen.fontsLoaded := by
  have hnone : ∀ {result : Except SceneError Scene}, result.isOk = true →
      result.error? = none := Except.error?_eq_none_iff.mpr
  unfold leaf PlanHead.sceneFailure? PlanHead.needsFonts
  cases hkind : head.kind with
  | icon =>
      have hpictured : head.isPicturable =
          ((head.prop "name").isWritable && (head.prop "label").isWritable) := by
        simp [PlanHead.isPicturable, PlanHead.glyphName?, PlanHead.labelValue?, hkind]
      rw [hpictured]
      refine (icon_error? sound).trans ?_
      cases ((head.prop "name").isWritable && (head.prop "label").isWritable) <;> rfl
  | container => simp [PlanHead.isContainer, hkind] at kind
  | text | button | input | image | divider | spacer | switch =>
      rw [isPicturable_of_ne_icon (by rw [hkind]; decide)]
      first
        | exact (textNode_error? sound.style _).trans (by cases pen.fontsLoaded <;> rfl)
        | exact (button_error? sound).trans (by cases pen.fontsLoaded <;> rfl)
        | exact (input_error? sound).trans (by cases pen.fontsLoaded <;> rfl)
        | exact hnone (painted_isOk sound.paint _ _)
        | exact hnone (switch_isOk sound)
        | exact hnone ((Except.isOk_bind_total fun _ => rfl).trans (solid_isOk rfl 1))
        | rfl

theorem sceneFailure?_of_isContainer {fontsLoaded : Bool} (kind : head.isContainer = true) :
    head.sceneFailure? fontsLoaded = none := by
  have hkind : head.kind = .container := by simpa [PlanHead.isContainer] using kind
  rw [PlanHead.sceneFailure?, isPicturable_of_ne_icon (by rw [hkind]; decide), PlanHead.needsFonts,
    hkind]
  rfl

/-- A scene of sound nodes cannot be drawn where one of a node cannot, and the first such node says
why. -/
theorem materialize_error? {plan : Plan} (built : plan.Built PlanHead.IsSound) :
    ((target pen).materialize plan).error? =
      plan.walk.findSome? (PlanHead.sceneFailure? pen.fontsLoaded) :=
  Target.materialize_error? (fun _ sound kind => leaf_error? sound kind)
    (fun _ _ sound _ => Except.error?_eq_none_iff.mpr (painted_isOk sound.paint _ _))
    (fun _ kind => sceneFailure?_of_isContainer kind) built

/-- With fonts loaded, a scene can be drawn exactly when one of every node can. -/
theorem materialize_isOk_iff (loaded : pen.fontsLoaded = true) {plan : Plan}
    (built : plan.Built PlanHead.IsSound) :
    ((target pen).materialize plan).isOk = true ↔ plan.walk.all PlanHead.isPicturable = true := by
  rw [← Except.error?_eq_none_iff, materialize_error? built, List.findSome?_eq_none_iff, loaded,
    List.all_eq_true]
  refine forall₂_congr fun head _ => ?_
  unfold PlanHead.sceneFailure?
  cases head.isPicturable <;> simp

end Scene

/-! ## Elements -/

namespace Rules

variable {rules : Rules} {inherited : Option String} {plan : Plan}

theorem namesGlyph_of_string {v : Value} (h : v.string?.isSome = true) : v.namesGlyph = true := by
  cases v with
  | string s => simp [Value.namesGlyph, Value.isKey]
  | _ => cases h

theorem namesGlyph_default {rule : Rule} (hrule : rule ∈ builtin) {name : String}
    (hname : glyphProp? rule.typeName = some name) :
    (rule.defaults.value name).namesGlyph = true := by
  have hall : builtin.all (fun rule => (glyphProp? rule.typeName).all fun name =>
      (rule.defaults.value name).namesGlyph) = true := by decide +kernel
  rw [List.all_eq_true] at hall
  have hdefault := hall rule hrule
  rwa [hname, Option.all_some] at hdefault

theorem isWritable_default {rule : Rule} (hrule : rule ∈ builtin) (name : String) :
    (rule.defaults.value name).isWritable = true := by
  have hall : builtin.all (fun rule => rule.defaults.all fun entry => entry.2.isWritable) = true := by
    decide +kernel
  cases hvalue : Members.value? rule.defaults name with
  | none => rw [Members.value_of_absent hvalue]; rfl
  | some v =>
      rw [Members.value_of_value? hvalue]
      exact List.all_eq_true.mp (List.all_eq_true.mp hall rule hrule) (name, v)
        (Members.mem_of_value? hvalue)

section Props

variable {rule : Rule} {head : ElementHead} {children : Except ResolveError (List Plan)}

theorem namesGlyph_prop (hrule : rule ∈ builtin) {name : String}
    (hname : glyphProp? rule.typeName = some name) :
    ((⟨head.props, rule.defaults, children⟩ : Resolution).prop name).namesGlyph =
      (head.props.value name).namesGlyph :=
  Resolution.prop_congr (namesGlyph_default hrule hname) rfl rfl

theorem isWritable_prop (hrule : rule ∈ builtin) (name : String) :
    ((⟨head.props, rule.defaults, children⟩ : Resolution).prop name).isWritable =
      (head.props.value name).isWritable :=
  Resolution.prop_congr (isWritable_default hrule name) rfl rfl

end Props

/-- A preview of a node can be drawn when the element's own values for its drawing, its class and its
label, if its type has such props, allow it. -/
theorem isPreviewable_reads : Reads PlanHead.isPreviewable ElementHead.IsPreviewable where
  root := by
    intro rule head children drawn hrule htype h
    have names := Rule.expand_names hrule h
    rw [PlanHead.isPreviewable, names.glyph, names.word, names.label]
    simp only [Bool.and_eq_true, Option.all_map, Option.all_eq_true, isWritable_prop hrule, htype]
    have hglyph : (∀ name, glyphProp? head.type = some name →
        ((⟨head.props, rule.defaults, children⟩ : Resolution).prop name).namesGlyph = true) ↔
          ∀ name ∈ glyphProp? head.type, (head.props.value name).namesGlyph = true :=
      forall₂_congr fun name hname => by rw [namesGlyph_prop hrule (htype ▸ hname)]
    rw [hglyph]
    constructor
    · rintro ⟨⟨glyph, word⟩, label⟩
      exact ⟨glyph, word, label⟩
    · rintro ⟨glyph, word, label⟩
      exact ⟨⟨glyph, word⟩, label⟩
  marked _ _ _ _ := rfl
  fixed head fixed := by
    simp only [PlanHead.isPreviewable, Bool.and_eq_true, Option.all_eq_true]
    refine ⟨⟨fun name hname => namesGlyph_of_string (fixed.glyph name hname), ?_⟩, fixed.label⟩
    intro value hvalue
    obtain ⟨word, rfl, -⟩ := fixed.word value hvalue
    rfl
  fallback _ := rfl

theorem isPicturable_reads : Reads PlanHead.isPicturable ElementHead.IsPicturable where
  root := by
    intro rule head children drawn hrule htype h
    have names := Rule.expand_names hrule h
    rw [PlanHead.isPicturable, bne, names.icon, names.glyph, names.label,
      ElementHead.IsPicturable, htype]
    by_cases hicon : head.type = "icon"
    · simp [hicon, glyphProp?, labelProp?, isWritable_prop hrule]
    · simp [hicon]
  marked _ _ _ _ := rfl
  fixed head fixed := by
    simp only [PlanHead.isPicturable, Bool.or_eq_true, Bool.and_eq_true, Option.all_eq_true]
    refine .inr ⟨fun name hname => ?_, fixed.label⟩
    have hstring := fixed.glyph name hname
    cases name with
    | string s => rfl
    | _ => cases hstring
  fallback _ := rfl

/-- The plan of an element names colours of the palette alone. With fonts loaded it can be drawn as
a scene exactly when the name and the label of every icon can be written, in the element itself and,
below boxes, in the elements inside it; and it can be drawn as a preview exactly when there every
drawing can be looked up and every class and label can be written. -/
theorem resolve_draws (hrules : rules ⊆ builtin) {e : Element}
    (h : rules.resolve inherited e = .ok plan) :
    (∀ head ∈ plan.walk, ∀ token ∈ head.tokens, token ∈ Token.colorNames) ∧
      (∀ pen : Scene.Pen, pen.fontsLoaded = true →
        ((∃ node, (Scene.target pen).materialize plan = .ok node) ↔
          e.Each rules ElementHead.IsPicturable)) ∧
      ∀ screenId selection,
        (∃ node, (Preview.target screenId selection).materialize plan = .ok node) ↔
          e.Each rules ElementHead.IsPreviewable := by
  have built := resolve_sound hrules h
  refine ⟨?_, ?_, ?_⟩
  · exact fun head hhead => (built.of_mem_walk head hhead).known
  · intro pen loaded
    rw [← Except.isOk_iff_exists, Scene.materialize_isOk_iff loaded built]
    exact walk_all_iff isPicturable_reads hrules h
  · intro screenId selection
    rw [← Except.isOk_iff_exists, Preview.materialize_isOk built]
    exact walk_all_iff isPreviewable_reads hrules h

/-- A box with an input of an unknown icon and an icon named by a number. -/
theorem resolve_draws_unknown :
    let e : Element := .node ⟨"box", none, [("variant", .string "highlight")]⟩ [
      .node ⟨"input", none, [("icon", .string "no-such")]⟩ [],
      .node ⟨"icon", none, [("name", .int 3)]⟩ []]
    ∃ plan, builtin.resolve none e = .ok plan ∧
      (∀ head ∈ plan.walk, ∀ token ∈ head.tokens, token ∈ Token.colorNames) ∧
      (∃ node, (Scene.target ⟨"Inter", true⟩).materialize plan = .ok node) ∧
      ∃ node, (Preview.target "" Selection.none).materialize plan = .ok node := by
  intro e
  obtain ⟨plan, hplan⟩ : ∃ plan, builtin.resolve none e = .ok plan := ⟨_, rfl⟩
  obtain ⟨hcolors, hscene, hpreview⟩ := resolve_draws (List.Subset.refl builtin) hplan
  have hthree : (Value.int 3).isWritable = true := by decide +kernel
  have hpicturable : e.Each builtin ElementHead.IsPicturable := by
    refine .drawn nofun fun _ child hchild => ?_
    simp only [List.mem_cons, List.not_mem_nil, or_false] at hchild
    rcases hchild with rfl | rfl
    · exact .drawn nofun nofun
    · exact .drawn (fun _ => ⟨hthree, rfl⟩) nofun
  have hpreviewable : e.Each builtin ElementHead.IsPreviewable := by
    refine .drawn ⟨nofun, by rintro _ ⟨⟩; rfl, nofun⟩ fun _ child hchild => ?_
    simp only [List.mem_cons, List.not_mem_nil, or_false] at hchild
    rcases hchild with rfl | rfl
    · exact .drawn ⟨by rintro _ ⟨⟩; rfl, nofun, by rintro _ ⟨⟩; rfl⟩ nofun
    · exact .drawn ⟨by rintro _ ⟨⟩; rfl, nofun, by rintro _ ⟨⟩; rfl⟩ nofun
  exact ⟨plan, hplan, hcolors, (hscene ⟨"Inter", true⟩ rfl).mpr hpicturable,
    (hpreview "" Selection.none).mpr hpreviewable⟩

/-- An icon named by a list and an input with an object for its icon have a plan and a scene, and no
preview. An icon named by an integer of 4301 digits has a plan, and neither. -/
theorem resolve_without_preview :
    let listed : Element := .node ⟨"icon", none, [("name", .list [.string "a"])]⟩ []
    let keyed : Element := .node ⟨"input", none, [("icon", .object [("a", .null)])]⟩ []
    let overlong : Element := .node ⟨"icon", none, [("name", .int (Nat.pow 10 4300 : Nat))]⟩ []
    (∃ plan, builtin.resolve none listed = .ok plan ∧
      (∃ node, (Scene.target ⟨"Inter", true⟩).materialize plan = .ok node) ∧
      ¬ ∃ node, (Preview.target "" Selection.none).materialize plan = .ok node) ∧
    (∃ plan, builtin.resolve none keyed = .ok plan ∧
      (∃ node, (Scene.target ⟨"Inter", true⟩).materialize plan = .ok node) ∧
      ¬ ∃ node, (Preview.target "" Selection.none).materialize plan = .ok node) ∧
    ∃ plan, builtin.resolve none overlong = .ok plan ∧
      ¬ ∃ node, (Scene.target ⟨"Inter", true⟩).materialize plan = .ok node := by
  intro listed keyed overlong
  refine ⟨⟨_, rfl, ⟨_, rfl⟩, ?_⟩, ⟨_, rfl, ⟨_, rfl⟩, ?_⟩, ⟨_, rfl, ?_⟩⟩
  all_goals
    rw [← Except.isOk_iff_exists]
    decide +kernel

end Rules

end Wireframe

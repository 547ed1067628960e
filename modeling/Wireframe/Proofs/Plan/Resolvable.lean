import Wireframe.Proofs.Plan.Resolved

/-! # Which elements have a plan

A rule fails in three ways only: where it looks a name up, a list or an object cannot be a key; where
it reads an index, an infinity has no whole part; and where it shows a text, an integer can have too
many digits to be written. `resolve_ok_iff` says of every element that it has a plan exactly when
none of this happens in it or, below a box, in an element inside it.
-/

namespace Wireframe

def Value.isInfinite : Value → Bool
  | .number (.double (.infinite _)) => true
  | _ => false

/-- The props that the rule of a type looks up by name, whatever the other props are. -/
def lookedUp : String → List String
  | "text" => ["style"]
  | "image" => ["size"]
  | "icon" => ["size"]
  | "spacer" => ["size"]
  | "box" => ["variant", "padding", "gap"]
  | "badge" => ["variant"]
  | _ => []

def indexed : List String := ["navbar", "tabs"]

def Value.labels : Value → List Value
  | .list items => items
  | _ => []

/-- The values of an element that its rule shows as text, or would show if they counted as true. An
icon of a list item is shown where nothing takes its place. -/
def ElementHead.displayed (head : ElementHead) : List Value :=
  let own := head.props.value
  match head.type with
  | "icon" | "box" | "divider" | "spacer" => []
  | "input" => [own "placeholder"]
  | "toggle" | "image" => [own "label"]
  | "listItem" =>
      [own "title", own "subtitle", own "trailingText"] ++
        (if (own "leadingImage").truthy then [] else [own "leadingIcon"]) ++
        if (own "trailingText").truthy then [] else [own "trailingIcon"]
  | "card" =>
      ["title", "badge", "subtitle", "description", "price", "action"].map own
  | "stat" => [own "value", own "label", own "trendValue"]
  | "navbar" | "tabs" => (own "items").labels
  | "header" => [own "title", own "rightAction"]
  | _ => [own "content"]

/-- The props of an element let its rule draw it. -/
structure ElementHead.Fits (head : ElementHead) : Prop where
  keys : ∀ name ∈ lookedUp head.type, (head.props.value name).isKey = true
  /-- A stat looks its trend up when it shows one. -/
  trend : head.type = "stat" → (head.props.value "trendValue").truthy = true →
    (head.props.value "trend").isKey = true
  index : head.type ∈ indexed → (head.props.value "active").isInfinite = false
  written : ∀ value ∈ head.displayed, value.isWritable = true

/-- The element fits, and so do, below a box, the elements inside it. -/
inductive Element.Fits : Element → Prop where
  | node {head : ElementHead} {children : List Element} (own : head.Fits)
      (below : head.type = "box" → ∀ child ∈ children, Element.Fits child) :
      Element.Fits (.node head children)

theorem ElementHead.fits_iff {head : ElementHead} :
    head.Fits ↔
      (∀ name ∈ lookedUp head.type, (head.props.value name).isKey = true) ∧
        (head.type = "stat" → (head.props.value "trendValue").truthy = true →
          (head.props.value "trend").isKey = true) ∧
        (head.type ∈ indexed → (head.props.value "active").isInfinite = false) ∧
        ∀ value ∈ head.displayed, value.isWritable = true :=
  ⟨fun h => ⟨h.keys, h.trend, h.index, h.written⟩,
    fun ⟨keys, trend, index, written⟩ => ⟨keys, trend, index, written⟩⟩

/-! ## Look-ups, indices and texts -/

theorem Table.find?_isOk {α : Type} (table : Table α) (key : Value) :
    (table.find? key).isOk = key.isKey := by
  cases key <;> rfl

theorem Table.findOr_isOk {α : Type} (table : Table α) (key : Value) (default : α) :
    (table.findOr key default).isOk = key.isKey := by
  rw [findOr, Except.isOk_map, find?_isOk]

theorem Value.index_isOk (v : Value) : v.index.isOk = !v.isInfinite := by
  cases v with
  | number n =>
      cases n with
      | int n => rfl
      | double x => cases x <;> rfl
  | null | bool | string | list | object => rfl

theorem Value.eq_of_not_supplied {v : Value} (h : v.isSupplied = false) :
    v = .null ∨ v = .string "" := by
  cases v <;> simp_all [isSupplied]

theorem Value.isWritable_of_not_truthy {v : Value} (h : v.truthy = false) :
    v.isWritable = true := by
  cases v with
  | number n =>
      cases n with
      | int n =>
          have hzero : n = 0 := by simpa [truthy, Number.isZero] using h
          rw [hzero]
          exact (isWritable_int 0).trans Text.isWritable_zero
      | double x => rfl
  | list items =>
      have hempty : items = [] := by simpa [truthy] using h
      rw [hempty]
      rfl
  | object members =>
      have hempty : members = [] := by simpa [truthy] using h
      rw [hempty]
      rfl
  | null | bool | string => rfl

theorem Value.texts_isOk (v : Value) (default : List String) :
    (v.texts default).isOk = v.labels.all isWritable := by
  cases v with
  | list items =>
      rw [texts, labels, Except.isOk_mapM]
      exact congrArg items.all (funext fun item => display_isOk)
  | null | bool | string | number | object => rfl

namespace Resolution

/-- What holds of a default and of whatever is as good as absent holds of an effective value exactly
when it holds of the element's own. -/
theorem prop_congr {r : Resolution} {name : String} {β : Type} {f : Value → β} {b : β}
    (hdefault : f (r.defaults.value name) = b) (hnull : f .null = b) (hempty : f (.string "") = b) :
    f (r.prop name) = f (r.own.value name) := by
  unfold prop
  split
  · rfl
  · rename_i hsupplied
    rcases Value.eq_of_not_supplied (by simpa [supplied] using hsupplied) with h | h
    · rw [h, hdefault, hnull]
    · rw [h, hdefault, hempty]

theorem isKey_prop {r : Resolution} {name : String}
    (h : (r.defaults.value name).isKey = true) :
    (r.prop name).isKey = (r.own.value name).isKey :=
  prop_congr h rfl rfl

theorem has_eq {r : Resolution} {name : String} (h : (r.defaults.value name).truthy = false) :
    r.has name = (r.own.value name).truthy :=
  prop_congr h rfl rfl

theorem isInfinite_prop {r : Resolution} {name : String}
    (h : (r.defaults.value name).isInfinite = false) :
    (r.prop name).isInfinite = (r.own.value name).isInfinite :=
  prop_congr h rfl rfl

theorem text_isOk {r : Resolution} {name : String}
    (h : (r.defaults.value name).isWritable = true) :
    (r.text name).isOk = (r.own.value name).isWritable :=
  Value.display_isOk.trans (prop_congr h rfl rfl)

theorem isWritable_of_not_has {r : Resolution} {name : String} (h : r.has name = false) :
    (r.own.value name).isWritable = true := by
  cases hsupplied : (r.own.value name).isSupplied with
  | true =>
      rw [has, prop, supplied, hsupplied, if_pos rfl] at h
      exact Value.isWritable_of_not_truthy h
  | false => rcases Value.eq_of_not_supplied hsupplied with hv | hv <;> rw [hv] <;> rfl

end Resolution

/-! ## Parts of composites -/

theorem Plan.textStyle_isOk (style : Value) (color weight : Option String) :
    (textStyle style color weight).isOk = style.isKey := by
  rw [textStyle, Except.isOk_bind_total, Table.findOr_isOk]
  exact fun _ => rfl

theorem Plan.image_isOk (size : Value) (role label : String) (shape : Value) :
    (image size role label shape).isOk = size.isKey := by
  rw [image, Except.isOk_bind_total fun _ => rfl, Table.findOr_isOk]

namespace Rule

variable {own : Members} {nested : Except ResolveError (List Plan)} {r : Resolution}

theorem optionalText_isOk {name style role : String} {options : Plan.TextOptions}
    (h : (r.defaults.value name).isWritable = true) :
    (optionalText r name style role options).isOk = (r.own.value name).isWritable := by
  unfold optionalText
  cases hhas : r.has name with
  | true => exact (Except.isOk_bind_total fun _ => rfl).trans (Resolution.text_isOk h)
  | false => exact (Resolution.isWritable_of_not_has hhas).symm

theorem listLeading_isOk :
    (listLeading ⟨own, listItemRule.defaults, nested⟩).isOk =
      ((own.value "leadingImage").truthy || (own.value "leadingIcon").isWritable) := by
  have himage : (⟨own, listItemRule.defaults, nested⟩ : Resolution).has "leadingImage" =
      (own.value "leadingImage").truthy := Resolution.has_eq rfl
  rw [listLeading, himage]
  cases (own.value "leadingImage").truthy with
  | true => exact (Except.isOk_bind_total fun _ => rfl).trans (Plan.image_isOk _ _ _ _)
  | false =>
      cases hicon : (⟨own, listItemRule.defaults, nested⟩ : Resolution).has "leadingIcon" with
      | true => exact (Except.isOk_bind_total fun _ => rfl).trans (Resolution.text_isOk rfl)
      | false => exact (Resolution.isWritable_of_not_has hicon).symm

theorem listTrailing_isOk :
    (listTrailing ⟨own, listItemRule.defaults, nested⟩).isOk =
      ((own.value "trailingText").isWritable &&
        ((own.value "trailingText").truthy || (own.value "trailingIcon").isWritable)) := by
  have htext : (⟨own, listItemRule.defaults, nested⟩ : Resolution).has "trailingText" =
      (own.value "trailingText").truthy := Resolution.has_eq rfl
  rw [listTrailing, htext]
  cases hshown : (own.value "trailingText").truthy with
  | true =>
      rw [Bool.true_or, Bool.and_true]
      exact (Except.isOk_bind_total fun _ => rfl).trans (Resolution.text_isOk rfl)
  | false =>
      rw [Value.isWritable_of_not_truthy hshown]
      exact (Except.isOk_bind_total fun _ => rfl).trans (Resolution.text_isOk rfl)

theorem cardImage_isOk : (cardImage r).isOk = true := by
  unfold cardImage
  split <;> rfl

theorem cardTexts_isOk :
    (cardTexts ⟨own, cardRule.defaults, nested⟩).isOk =
      (["title", "badge", "subtitle", "description", "price"].map own.value).all
        Value.isWritable := by
  refine (Except.isOk_bind fun _ => Except.isOk_bind fun _ => Except.isOk_bind fun _ =>
    Except.isOk_bind fun _ => Except.isOk_bind_total fun _ => rfl).trans ?_
  rw [Resolution.text_isOk rfl, optionalText_isOk rfl, optionalText_isOk rfl,
    optionalText_isOk rfl, optionalText_isOk rfl]
  simp only [List.map_cons, List.map_nil, List.all_cons, List.all_nil, Bool.and_true]

theorem cardAction_isOk :
    (cardAction ⟨own, cardRule.defaults, nested⟩).isOk = (own.value "action").isWritable := by
  unfold cardAction
  cases haction : (⟨own, cardRule.defaults, nested⟩ : Resolution).has "action" with
  | true => exact (Except.isOk_bind_total fun _ => rfl).trans (Resolution.text_isOk rfl)
  | false => exact (Resolution.isWritable_of_not_has haction).symm

theorem statTrend_isOk :
    (statTrend ⟨own, statRule.defaults, nested⟩).isOk =
      ((!(own.value "trendValue").truthy || (own.value "trend").isKey) &&
        (own.value "trendValue").isWritable) := by
  have hvalue : (⟨own, statRule.defaults, nested⟩ : Resolution).has "trendValue" =
      (own.value "trendValue").truthy := Resolution.has_eq rfl
  have htrend : ((⟨own, statRule.defaults, nested⟩ : Resolution).prop "trend").isKey =
      (own.value "trend").isKey := Resolution.isKey_prop rfl
  rw [statTrend, hvalue, ← htrend]
  cases hshown : (own.value "trendValue").truthy with
  | true =>
      refine (Except.isOk_bind fun _ => Except.isOk_bind_total fun _ => rfl).trans ?_
      rw [Table.find?_isOk, Resolution.text_isOk rfl]
      rfl
  | false => rw [Value.isWritable_of_not_truthy hshown]; rfl

theorem headerAction_isOk :
    (headerAction ⟨own, headerRule.defaults, nested⟩).isOk =
      (own.value "rightAction").isWritable := by
  unfold headerAction
  cases haction : (⟨own, headerRule.defaults, nested⟩ : Resolution).has "rightAction" with
  | true =>
      refine (Except.isOk_bind_total fun _ => ?_).trans (Resolution.text_isOk rfl)
      split <;> rfl
  | false => exact (Resolution.isWritable_of_not_has haction).symm

/-! ## Rules -/

theorem textRule_isOk :
    (textRule.expand ⟨own, textRule.defaults, nested⟩).isOk =
      ((own.value "content").isWritable && (own.value "style").isKey) := by
  refine (Except.isOk_bind fun _ => ?_).trans (congrArg (· && _) (Resolution.text_isOk rfl))
  rw [Plan.styledText, Except.isOk_bind_total fun _ => rfl, Plan.textStyle_isOk]
  exact Resolution.isKey_prop rfl

/-- A rule that shows one prop and then draws fails on what cannot be written alone. -/
theorem shown_isOk {defaults : Members} {name : String} {draw : String → Plan}
    (h : (defaults.value name).isWritable = true) :
    (do let shown ← (⟨own, defaults, nested⟩ : Resolution).text name
        return draw shown : Except ResolveError Plan).isOk = (own.value name).isWritable :=
  (Except.isOk_bind_total fun _ => rfl).trans (Resolution.text_isOk h)

theorem buttonRule_isOk :
    (buttonRule.expand ⟨own, buttonRule.defaults, nested⟩).isOk =
      (own.value "content").isWritable :=
  shown_isOk rfl

theorem inputRule_isOk :
    (inputRule.expand ⟨own, inputRule.defaults, nested⟩).isOk =
      (own.value "placeholder").isWritable :=
  shown_isOk rfl

theorem toggleRule_isOk :
    (toggleRule.expand ⟨own, toggleRule.defaults, nested⟩).isOk =
      (own.value "label").isWritable :=
  shown_isOk rfl

theorem imageRule_isOk :
    (imageRule.expand ⟨own, imageRule.defaults, nested⟩).isOk =
      ((own.value "label").isWritable && (own.value "size").isKey) := by
  refine (Except.isOk_bind fun _ => ?_).trans (congrArg (· && _) (Resolution.text_isOk rfl))
  exact (Plan.image_isOk _ _ _ _).trans (Resolution.isKey_prop rfl)

theorem keyed_isOk {α : Type} {defaults : Members} {name : String} {table : Table α} {default : α}
    {draw : α → Plan} (h : (defaults.value name).isKey = true) :
    (do let found ← table.findOr ((⟨own, defaults, nested⟩ : Resolution).prop name) default
        return draw found : Except ResolveError Plan).isOk = (own.value name).isKey := by
  rw [Except.isOk_bind_total fun _ => rfl, Table.findOr_isOk, Resolution.isKey_prop h]

theorem iconRule_isOk :
    (iconRule.expand ⟨own, iconRule.defaults, nested⟩).isOk = (own.value "size").isKey :=
  keyed_isOk rfl

theorem spacerRule_isOk :
    (spacerRule.expand ⟨own, spacerRule.defaults, nested⟩).isOk = (own.value "size").isKey :=
  keyed_isOk rfl

theorem badgeRule_isOk :
    (badgeRule.expand ⟨own, badgeRule.defaults, nested⟩).isOk =
      ((own.value "variant").isKey && (own.value "content").isWritable) := by
  refine (Except.isOk_bind fun _ => (Except.isOk_bind_total fun _ => rfl).trans
    (Resolution.text_isOk rfl)).trans ?_
  rw [Table.findOr_isOk, Resolution.isKey_prop rfl]

theorem boxPadding_isOk :
    (boxPadding ⟨own, boxRule.defaults, nested⟩).isOk =
      ((own.value "variant").isKey && (own.value "padding").isKey) := by
  rw [boxPadding, Except.isOk_bind, Table.find?_isOk, Resolution.isKey_prop]
  · rfl
  · intro isPadded
    split
    · rw [Table.findOr_isOk, Resolution.isKey_prop]
      rfl
    · rename_i hplain
      simp only [Bool.or_eq_true, not_or, Bool.not_eq_true] at hplain
      rcases Value.eq_of_not_supplied hplain.2 with h | h <;> rw [h] <;> rfl

theorem boxRule_isOk :
    (boxRule.expand ⟨own, boxRule.defaults, nested⟩).isOk =
      ((own.value "variant").isKey && ((own.value "padding").isKey &&
        ((own.value "gap").isKey && nested.isOk))) := by
  have hvariant : ((⟨own, boxRule.defaults, nested⟩ : Resolution).prop "variant").isKey =
      (own.value "variant").isKey := Resolution.isKey_prop rfl
  have hgap : ((⟨own, boxRule.defaults, nested⟩ : Resolution).prop "gap").isKey =
      (own.value "gap").isKey := Resolution.isKey_prop rfl
  -- The steps after the padding, from the last one outwards.
  refine (Except.isOk_bind
    (b := nested.isOk && ((own.value "variant").isKey && (own.value "gap").isKey)) ?_).trans ?_
  · intro padding
    refine Except.isOk_bind (b := (own.value "variant").isKey && (own.value "gap").isKey) ?_
    intro children
    rw [← hvariant, ← hgap, ← Table.findOr_isOk boxPaints _ {},
      ← Table.findOr_isOk Token.boxSpacing _ Token.spacingMedium]
    refine Except.isOk_bind fun paint => ?_
    exact Except.isOk_bind_total fun gap => rfl
  · rw [boxPadding_isOk]
    ac_rfl

theorem listItemRule_isOk :
    (listItemRule.expand ⟨own, listItemRule.defaults, nested⟩).isOk =
      (((own.value "leadingImage").truthy || (own.value "leadingIcon").isWritable) &&
        ((own.value "title").isWritable && ((own.value "subtitle").isWritable &&
          ((own.value "trailingText").isWritable &&
            ((own.value "trailingText").truthy || (own.value "trailingIcon").isWritable))))) := by
  refine (Except.isOk_bind fun _ => Except.isOk_bind fun _ => Except.isOk_bind fun _ =>
    Except.isOk_bind_total fun _ => rfl).trans ?_
  rw [listLeading_isOk, Resolution.text_isOk rfl, optionalText_isOk rfl, listTrailing_isOk]

theorem cardRule_isOk :
    (cardRule.expand ⟨own, cardRule.defaults, nested⟩).isOk =
      (["title", "badge", "subtitle", "description", "price", "action"].map own.value).all
        Value.isWritable := by
  refine (Except.isOk_bind fun _ => Except.isOk_bind fun _ =>
    Except.isOk_bind_total fun _ => rfl).trans ?_
  rw [cardImage_isOk, cardTexts_isOk, cardAction_isOk]
  simp only [List.map_cons, List.map_nil, List.all_cons, List.all_nil, Bool.and_true,
    Bool.true_and, Bool.and_assoc]

theorem statRule_isOk :
    (statRule.expand ⟨own, statRule.defaults, nested⟩).isOk =
      ((own.value "value").isWritable && ((own.value "label").isWritable &&
        ((!(own.value "trendValue").truthy || (own.value "trend").isKey) &&
          (own.value "trendValue").isWritable))) := by
  refine (Except.isOk_bind fun _ => Except.isOk_bind fun _ =>
    Except.isOk_bind_total fun _ => rfl).trans ?_
  rw [Resolution.text_isOk rfl, Resolution.text_isOk rfl, statTrend_isOk]

theorem headerRule_isOk :
    (headerRule.expand ⟨own, headerRule.defaults, nested⟩).isOk =
      ((own.value "title").isWritable && (own.value "rightAction").isWritable) := by
  refine (Except.isOk_bind fun _ => Except.isOk_bind_total fun _ => rfl).trans ?_
  rw [Resolution.text_isOk rfl, headerAction_isOk]

/-- A rule that reads an index and the labels of its items and then draws fails on an infinity and
on what cannot be written alone. -/
theorem indexed_isOk {defaults : Members} {usual : List String} {draw : Int → List String → Plan}
    (hactive : (defaults.value "active").isInfinite = false)
    (hitems : (defaults.value "items").labels.all Value.isWritable = true) :
    (do let active ← ((⟨own, defaults, nested⟩ : Resolution).prop "active").index
        let labels ← ((⟨own, defaults, nested⟩ : Resolution).prop "items").texts usual
        return draw active labels : Except ResolveError Plan).isOk =
      (!(own.value "active").isInfinite && (own.value "items").labels.all Value.isWritable) := by
  have hlabels : ((⟨own, defaults, nested⟩ : Resolution).prop "items").labels.all
      Value.isWritable = (own.value "items").labels.all Value.isWritable :=
    Resolution.prop_congr (f := fun v => v.labels.all Value.isWritable) hitems rfl rfl
  refine (Except.isOk_bind fun _ => (Except.isOk_bind_total fun _ => rfl).trans
    (Value.texts_isOk _ _)).trans ?_
  rw [Value.index_isOk, Resolution.isInfinite_prop hactive, hlabels]

theorem navbarRule_isOk :
    (navbarRule.expand ⟨own, navbarRule.defaults, nested⟩).isOk =
      (!(own.value "active").isInfinite && (own.value "items").labels.all Value.isWritable) :=
  indexed_isOk rfl rfl

theorem tabsRule_isOk :
    (tabsRule.expand ⟨own, tabsRule.defaults, nested⟩).isOk =
      (!(own.value "active").isInfinite && (own.value "items").labels.all Value.isWritable) :=
  indexed_isOk rfl rfl

/-- A rule draws an element of its type exactly when the element fits and, for a box, the elements
inside it have plans. -/
theorem expand_isOk_iff {rule : Rule} (hrule : rule ∈ Rules.builtin) {head : ElementHead}
    (htype : head.type = rule.typeName) :
    (rule.expand ⟨head.props, rule.defaults, nested⟩).isOk = true ↔
      head.Fits ∧ (head.type = "box" → nested.isOk = true) := by
  rw [ElementHead.fits_iff, ElementHead.displayed, htype]
  simp only [Rules.builtin, List.mem_cons, List.not_mem_nil, or_false] at hrule
  rcases hrule with rfl | rfl | rfl | rfl | rfl | rfl | rfl | rfl | rfl | rfl | rfl | rfl | rfl |
    rfl | rfl | rfl
  · rw [textRule_isOk]
    simp [textRule, lookedUp, indexed, and_comm]
  · rw [buttonRule_isOk]
    simp [buttonRule, lookedUp, indexed]
  · rw [inputRule_isOk]
    simp [inputRule, lookedUp, indexed]
  · rw [toggleRule_isOk]
    simp [toggleRule, lookedUp, indexed]
  · rw [imageRule_isOk]
    simp [imageRule, lookedUp, indexed, and_comm]
  · rw [iconRule_isOk]
    simp [iconRule, lookedUp, indexed]
  · rw [boxRule_isOk]
    simp [boxRule, lookedUp, indexed, and_assoc]
  · simp [dividerRule, lookedUp, indexed]
  · rw [spacerRule_isOk]
    simp [spacerRule, lookedUp, indexed]
  · rw [listItemRule_isOk]
    cases (head.props.value "leadingImage").truthy <;>
      cases (head.props.value "trailingText").truthy <;>
      simp [listItemRule, lookedUp, indexed, and_assoc, and_comm, and_left_comm]
  · rw [cardRule_isOk]
    simp [cardRule, lookedUp, indexed]
  · rw [statRule_isOk]
    cases (head.props.value "trendValue").truthy <;>
      simp [statRule, lookedUp, indexed, and_assoc, and_comm, and_left_comm]
  · rw [badgeRule_isOk]
    simp [badgeRule, lookedUp, indexed]
  · rw [navbarRule_isOk]
    simp [navbarRule, lookedUp, indexed]
  · rw [headerRule_isOk]
    simp [headerRule, lookedUp, indexed]
  · rw [tabsRule_isOk]
    simp [tabsRule, lookedUp, indexed]

end Rule

namespace Rules

/-- An element whose type has no rule becomes a text, and so fits when its content can be
written. -/
theorem fallback_isOk_iff {head : ElementHead} (h : builtin.rule? head.type = none) :
    (Plan.fallback head).isOk = true ↔ head.Fits := by
  have hunknown : ∀ rule ∈ builtin, head.type ≠ rule.typeName := by
    intro rule hrule htype
    have hsome := rule?_isSome_of_mem hrule
    rw [← htype, h] at hsome
    cases hsome
  have hshown : (Plan.fallback head).isOk = (head.props.value "content").isWritable := by
    refine (Except.isOk_bind_total fun _ => rfl).trans (Value.display_isOk.trans ?_)
    split
    · rfl
    · next hsupplied =>
        rcases Value.eq_of_not_supplied (Bool.eq_false_iff.mpr hsupplied) with hv | hv <;>
          rw [hv] <;> rfl
  simp only [builtin, List.forall_mem_cons, Rule.textRule, Rule.buttonRule, Rule.inputRule,
    Rule.toggleRule, Rule.imageRule, Rule.iconRule, Rule.boxRule, Rule.dividerRule,
    Rule.spacerRule, Rule.listItemRule, Rule.cardRule, Rule.statRule, Rule.badgeRule,
    Rule.navbarRule, Rule.headerRule, Rule.tabsRule] at hunknown
  have hlooked : lookedUp head.type = [] := by
    unfold lookedUp
    split <;> simp_all
  have hdisplayed : head.displayed = [head.props.value "content"] := by
    unfold ElementHead.displayed
    split <;> simp_all
  rw [hshown, ElementHead.fits_iff, hlooked, hdisplayed]
  simp [hunknown, indexed]

theorem resolveChildren_isOk_iff {parent : Option String} {index : Nat} {es : List Element}
    (h : ∀ e ∈ es, ∀ inherited, (builtin.resolve inherited e).isOk = true ↔ e.Fits) :
    (builtin.resolveChildren parent index es).isOk = true ↔ ∀ e ∈ es, e.Fits := by
  induction es generalizing index with
  | nil => simp [resolveChildren]
  | cons e es ih =>
      have hrest := @ih (index + 1) fun e he => h e (List.mem_cons_of_mem _ he)
      rw [List.forall_mem_cons, ← h e List.mem_cons_self (childId parent index), ← hrest]
      cases hresolve : builtin.resolve (childId parent index) e with
      | error cause => simp [resolveChildren, hresolve]
      | ok plan => simp [resolveChildren, hresolve]

theorem resolve_isOk_iff {e : Element} {inherited : Option String} :
    (builtin.resolve inherited e).isOk = true ↔ e.Fits := by
  induction e using Tree.induct generalizing inherited with
  | node head children ih =>
      rw [resolve]
      cases hrule : builtin.rule? head.type with
      | none =>
          have hbox : head.type ≠ "box" := by
            intro hbox
            rw [hbox, show builtin.rule? "box" = some Rule.boxRule from rfl] at hrule
            cases hrule
          simp only [Except.isOk_map, fallback_isOk_iff hrule]
          constructor
          · exact fun own => .node own fun h => absurd h hbox
          · rintro ⟨own, -⟩
            exact own
      | some rule =>
          obtain ⟨hmem, htype⟩ := rule?_mem hrule
          simp only [Except.isOk_map, Rule.expand_isOk_iff hmem htype.symm,
            resolveChildren_isOk_iff fun e he _ => ih e he]
          constructor
          · exact fun h => .node h.1 h.2
          · rintro ⟨own, below⟩
            exact ⟨own, below⟩

/-- An element has a plan exactly when every value that a rule looks up by name in it can be a key,
every index is finite and every text can be written, in the element itself and, below boxes, in the
elements inside it. -/
theorem resolve_ok_iff {e : Element} {inherited : Option String} :
    (∃ plan, builtin.resolve inherited e = .ok plan) ↔ e.Fits := by
  rw [← Except.isOk_iff_exists, resolve_isOk_iff]

/-- An infinite index, a list for a size name below a box, and a content of 4301 digits leave elements
without a plan. -/
theorem resolve_unfit :
    let tabs : Element := .node ⟨"tabs", none, [("active", .number (.double (.infinite false)))]⟩ []
    let image : Element := .node ⟨"image", none, [("size", .list [.string "a"])]⟩ []
    let text : Element := .node ⟨"text", none, [("content", .int (Nat.pow 10 4300 : Nat))]⟩ []
    (¬ ∃ plan, builtin.resolve none tabs = .ok plan) ∧
      (¬ ∃ plan, builtin.resolve none (.node ⟨"box", none, []⟩ [image]) = .ok plan) ∧
      ¬ ∃ plan, builtin.resolve none text = .ok plan := by
  intro tabs image text
  refine ⟨?_, ?_, ?_⟩
  all_goals
    rw [← Except.isOk_iff_exists]
    decide +kernel

end Rules

end Wireframe

import Mathlib.Data.List.Forall2
import Mathlib.Data.List.Nodup
import Wireframe.Plan.Resolve

/-! # Props that make no difference

A prop that is null or the empty string is as good as absent, and props are looked up by name, so
that their order says nothing. `Element.Alike` relates elements that differ in this alone, at any
depth. Rules read an element through the accessors of `Resolution` and nothing else: whatever agrees
on these is drawn alike, and `resolve_alike` follows by induction over the tree.
-/

namespace Wireframe

namespace Members

variable {members members' : Members} {key : String} {value : Value}

def given? (members : Members) (key : String) : Option Value :=
  (members.value? key).filter Value.isSupplied

def supplied (members : Members) : Members := members.filter fun entry => entry.2.isSupplied

/-- Two tables with each key once that differ in the order of their entries and in entries that say
nothing. -/
structure Alike (members members' : Members) : Prop where
  keys : (members.map Prod.fst).Nodup
  keys' : (members'.map Prod.fst).Nodup
  supplied : members.supplied.Perm members'.supplied

theorem value?_eq_some_iff (keys : (members.map Prod.fst).Nodup) :
    members.value? key = some value ↔ (key, value) ∈ members := by
  induction members with
  | nil => exact iff_of_false nofun List.not_mem_nil
  | cons entry rest ih =>
      obtain ⟨k, v⟩ := entry
      rw [List.map_cons, List.nodup_cons] at keys
      rw [value?_cons, List.mem_cons, Prod.mk.injEq]
      by_cases hk : k = key
      · subst hk
        have hfresh : (k, value) ∉ rest :=
          fun hmem => keys.1 (List.mem_map.mpr ⟨(k, value), hmem, rfl⟩)
        rw [if_pos rfl, Option.some_inj, or_iff_left hfresh, and_iff_right rfl, eq_comm]
      · rw [if_neg hk, ih keys.2, or_iff_right fun hboth => hk hboth.1.symm]

theorem given?_eq_some_iff (keys : (members.map Prod.fst).Nodup) :
    members.given? key = some value ↔ (key, value) ∈ members.supplied := by
  rw [given?, Option.filter_eq_some_iff, value?_eq_some_iff keys, supplied, List.mem_filter]

/-- Tables that differ in nothing that is said give the same for every key. -/
theorem Alike.given?_eq (alike : members.Alike members') (key : String) :
    members.given? key = members'.given? key := by
  apply Option.ext
  intro value
  rw [given?_eq_some_iff alike.keys, given?_eq_some_iff alike.keys', alike.supplied.mem_iff]

theorem isSupplied_value (members : Members) (key : String) :
    (members.value key).isSupplied = (members.given? key).isSome := by
  rw [value, given?]
  cases members.value? key with
  | none => rfl
  | some v =>
      rw [Option.getD_some, Option.filter_some]
      split <;> simp_all

theorem getD_given? (members : Members) (key : String) (default : Value) :
    (members.given? key).getD default =
      if (members.value key).isSupplied then members.value key else default := by
  rw [value, given?]
  cases members.value? key with
  | none => rfl
  | some v =>
      rw [Option.getD_some, Option.filter_some]
      split <;> rfl

end Members

/-! ## What rules read -/

namespace Resolution

variable {r r' : Resolution} {plan : Plan}

structure Alike (r r' : Resolution) : Prop where
  prop : r.prop = r'.prop
  supplied : r.supplied = r'.supplied
  children : r.children = r'.children

theorem Alike.text (alike : r.Alike r') : r.text = r'.text := by
  funext name
  rw [Resolution.text, Resolution.text, alike.prop]

theorem Alike.has (alike : r.Alike r') : r.has = r'.has := by
  funext name
  rw [Resolution.has, Resolution.has, alike.prop]

theorem alike_of_members {own own' : Members} (alike : own.Alike own') (defaults : Members)
    (children : Except ResolveError (List Plan)) :
    Alike ⟨own, defaults, children⟩ ⟨own', defaults, children⟩ where
  prop := by
    funext name
    unfold prop Resolution.supplied
    rw [← Members.getD_given?, ← Members.getD_given?, alike.given?_eq]
  supplied := by
    funext name
    simp only [Resolution.supplied, Members.isSupplied_value, alike.given?_eq]
  children := rfl

end Resolution

namespace Rule

variable {r r' : Resolution}

theorem boxPadding_alike (alike : r.Alike r') : boxPadding r = boxPadding r' := by
  rw [boxPadding, boxPadding, alike.prop, alike.supplied]

theorem optionalText_alike (alike : r.Alike r') (name style role : String)
    (options : Plan.TextOptions) :
    optionalText r name style role options = optionalText r' name style role options := by
  rw [optionalText, optionalText, alike.has, alike.text]

theorem listLeading_alike (alike : r.Alike r') : listLeading r = listLeading r' := by
  rw [listLeading, listLeading, alike.has, alike.text]

theorem listTrailing_alike (alike : r.Alike r') : listTrailing r = listTrailing r' := by
  rw [listTrailing, listTrailing, alike.has, alike.text]

theorem cardTexts_alike (alike : r.Alike r') : cardTexts r = cardTexts r' := by
  simp only [cardTexts, alike.text, optionalText_alike alike]

theorem cardImage_alike (alike : r.Alike r') : cardImage r = cardImage r' := by
  rw [cardImage, cardImage, alike.prop]

theorem cardAction_alike (alike : r.Alike r') : cardAction r = cardAction r' := by
  rw [cardAction, cardAction, alike.has, alike.text]

theorem statTrend_alike (alike : r.Alike r') : statTrend r = statTrend r' := by
  rw [statTrend, statTrend, alike.has, alike.prop, alike.text]

theorem headerAction_alike (alike : r.Alike r') : headerAction r = headerAction r' := by
  rw [headerAction, headerAction, alike.has, alike.text, alike.prop]

/-- Every expansion of the dispatch table draws alike what it cannot tell apart. -/
theorem expand_alike {rule : Rule} (hrule : rule ∈ Rules.builtin) (alike : r.Alike r') :
    rule.expand r = rule.expand r' := by
  simp only [Rules.builtin, List.mem_cons, List.not_mem_nil, or_false] at hrule
  rcases hrule with rfl | rfl | rfl | rfl | rfl | rfl | rfl | rfl | rfl | rfl | rfl | rfl | rfl |
    rfl | rfl | rfl
  · simp only [textRule, alike.text, alike.prop]
  · simp only [buttonRule, alike.text, alike.prop]
  · simp only [inputRule, alike.text, alike.prop]
  · simp only [toggleRule, alike.text, alike.has]
  · simp only [imageRule, alike.text, alike.prop]
  · simp only [iconRule, alike.prop]
  · simp only [boxRule, alike.prop, alike.children, boxPadding_alike alike]
  · rfl
  · simp only [spacerRule, alike.prop]
  · simp only [listItemRule, alike.text, listLeading_alike alike, optionalText_alike alike,
      listTrailing_alike alike]
  · simp only [cardRule, alike.prop, cardImage_alike alike, cardTexts_alike alike,
      cardAction_alike alike]
  · simp only [statRule, alike.text, statTrend_alike alike]
  · simp only [badgeRule, alike.text, alike.prop]
  · simp only [navbarRule, alike.prop]
  · simp only [headerRule, alike.text, alike.has, headerAction_alike alike]
  · simp only [tabsRule, alike.prop]

end Rule

/-! ## Elements -/

/-- Two elements that differ in the order of their props and in props that are null or the empty
string, themselves and in the elements inside them. -/
inductive Element.Alike : Element → Element → Prop where
  | node {head head' : ElementHead} {children children' : List Element}
      (type : head'.type = head.type) (id : head'.id = head.id)
      (props : head.props.Alike head'.props)
      (below : List.Forall₂ Element.Alike children children') :
      Element.Alike (.node head children) (.node head' children')

theorem Plan.fallback_alike {head head' : ElementHead} (type : head'.type = head.type)
    (props : head.props.Alike head'.props) : fallback head' = fallback head := by
  rw [fallback, fallback, ← Members.getD_given?, ← Members.getD_given?, type, props.given?_eq]

namespace Rules

variable {rules : Rules}

theorem resolveChildren_congr {es es' : List Element}
    (h : List.Forall₂ (fun e e' => ∀ inherited, rules.resolve inherited e' =
      rules.resolve inherited e) es es') (parent : Option String) (index : Nat) :
    rules.resolveChildren parent index es' = rules.resolveChildren parent index es := by
  induction h generalizing index with
  | nil => rfl
  | cons hfirst _ ih => rw [resolveChildren, resolveChildren, hfirst, ih]

/-- The order of props, and props that are null or the empty string, make no difference to the plan
of an element nor to the way in which it fails. The rules may have any names and defaults, but their
expansions are the sixteen of the dispatch table: one of a host's own could do anything. -/
theorem resolve_alike
    (hrules : ∀ rule ∈ rules, ∃ known ∈ builtin, rule.expand = known.expand) {e e' : Element}
    (alike : e.Alike e') (inherited : Option String) :
    rules.resolve inherited e' = rules.resolve inherited e := by
  induction e using Tree.induct generalizing e' inherited with
  | node head children ih =>
      obtain ⟨type, id, props, below⟩ := alike
      -- The places of the children give them the same ids on both sides, whatever these are.
      have hbelow := ((List.forall₂_and_left _ _).mpr ⟨ih, below⟩).imp
        fun _ _ h inherited => h.1 h.2 inherited
      rw [resolve, resolve, type, id, Plan.fallback_alike type props]
      cases hrule : rules.rule? head.type with
      | none => rfl
      | some rule =>
          obtain ⟨known, hknown, hexpand⟩ := hrules rule (List.mem_of_find?_eq_some hrule)
          dsimp only
          rw [resolveChildren_congr hbelow, hexpand,
            Rule.expand_alike hknown (Resolution.alike_of_members props _ _)]

/-- A padded box and what it holds, its props in another order and with empty ones between them. -/
theorem resolve_alike_box :
    let text : Members := [("content", .string "Hi"), ("style", .string "heading")]
    let text' : Members :=
      [("style", .string "heading"), ("color", .null), ("content", .string "Hi")]
    let box : Members := [("padding", .string "large"), ("gap", .null), ("note", .int 3)]
    let box' : Members := [("note", .int 3), ("variant", .string ""), ("padding", .string "large")]
    let e : Element := .node ⟨"box", some "b", box⟩
      [.node ⟨"text", none, text⟩ [], .node ⟨"blob", none, text⟩ []]
    let e' : Element := .node ⟨"box", some "b", box'⟩
      [.node ⟨"text", none, text'⟩ [], .node ⟨"blob", none, text'⟩ []]
    e.Alike e' ∧ (∃ plan, builtin.resolve none e = .ok plan) ∧
      builtin.resolve none e' = builtin.resolve none e := by
  intro text text' box box' e e'
  have htext : text.Alike text' := ⟨by decide, by decide, List.Perm.swap _ _ _⟩
  have hbox : box.Alike box' := ⟨by decide, by decide, List.Perm.swap _ _ _⟩
  have alike : e.Alike e' :=
    .node rfl rfl hbox (.cons (.node rfl rfl htext .nil) (.cons (.node rfl rfl htext .nil) .nil))
  exact ⟨alike, ⟨_, rfl⟩, resolve_alike (fun rule hrule => ⟨rule, hrule, rfl⟩) alike none⟩

end Rules

end Wireframe

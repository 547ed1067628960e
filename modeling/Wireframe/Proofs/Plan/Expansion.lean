import Mathlib.Data.List.Nodup
import Wireframe.Proofs.Plan.Built

/-! # Expansions of the built-in rules

One statement for each rule: what it expands an element to is drawn, so that it is built and, except
for a box, nothing in it belongs to another element. A box is one container around the plans of the
elements below it. `expand_names` says which props the root of an expansion takes for names.
-/

namespace Wireframe

namespace Rule

open Plan

variable {r : Resolution} {plan : Plan}

/-! ## Parts of composites -/

theorem built_column {role : String} (gap : Number) {parts : List Plan}
    (hrole : PlanHead.isRole role = true) (hpart : ["box", "card"].contains role = false)
    (hparts : ∀ part ∈ parts, Built PlanHead.IsFixed part) :
    (column role gap parts).Built PlanHead.IsFixed :=
  built_container _ _ hrole rfl rfl hpart hparts

theorem built_of_mem_optionalText {name style role : String} {options : TextOptions}
    (hrole : PlanHead.isRole role = true) (hknown : isKnown options.color options.weight = true)
    (hpart : ["text", "badge"].contains role = false) {parts : List Plan}
    (h : optionalText r name style role options = .ok parts) :
    ∀ part ∈ parts, Built PlanHead.IsFixed part := by
  unfold optionalText at h
  split at h
  · obtain ⟨content, _, h⟩ := Except.bind_ok_iff.mp h
    cases h
    simpa using built_text _ _ hrole hknown hpart
  · cases h
    simp

theorem built_of_mem_listLeading {parts : List Plan} (h : listLeading r = .ok parts) :
    ∀ part ∈ parts, Built PlanHead.IsFixed part := by
  unfold listLeading at h
  split at h
  · obtain ⟨image, himage, h⟩ := Except.bind_ok_iff.mp h
    cases h
    simpa using built_image rfl rfl himage
  · split at h
    · obtain ⟨name, _, h⟩ := Except.bind_ok_iff.mp h
      cases h
      simpa using built_icon _ rfl rfl
    · cases h
      simp

theorem built_listTrailing {part : Plan} (h : listTrailing r = .ok part) :
    part.Built PlanHead.IsFixed := by
  unfold listTrailing at h
  split at h
  all_goals obtain ⟨shown, _, h⟩ := Except.bind_ok_iff.mp h
  all_goals cases h
  · exact built_text _ _ rfl rfl rfl
  · exact built_icon _ rfl rfl

theorem built_of_mem_cardImage {parts : List Plan} (h : cardImage r = .ok parts) :
    ∀ part ∈ parts, Built PlanHead.IsFixed part := by
  unfold cardImage at h
  split at h
  · cases h
    simp
  · obtain ⟨image, himage, h⟩ := Except.bind_ok_iff.mp h
    cases h
    simpa using built_image rfl rfl himage

theorem built_of_mem_cardTexts {parts : List Plan} (h : cardTexts r = .ok parts) :
    ∀ part ∈ parts, Built PlanHead.IsFixed part := by
  obtain ⟨title, _, h⟩ := Except.bind_ok_iff.mp h
  obtain ⟨badge, hbadge, h⟩ := Except.bind_ok_iff.mp h
  obtain ⟨subtitle, hsubtitle, h⟩ := Except.bind_ok_iff.mp h
  obtain ⟨description, hdescription, h⟩ := Except.bind_ok_iff.mp h
  obtain ⟨price, hprice, h⟩ := Except.bind_ok_iff.mp h
  cases h
  intro part hpart
  simp only [List.cons_append, List.mem_cons, List.mem_append] at hpart
  rcases hpart with rfl | ((hpart | hpart) | hpart) | hpart
  · exact built_text _ _ rfl rfl rfl
  · exact built_of_mem_optionalText rfl rfl rfl hbadge part hpart
  · exact built_of_mem_optionalText rfl rfl rfl hsubtitle part hpart
  · exact built_of_mem_optionalText rfl rfl rfl hdescription part hpart
  · exact built_of_mem_optionalText rfl rfl rfl hprice part hpart

theorem built_of_mem_cardAction {parts : List Plan} (h : cardAction r = .ok parts) :
    ∀ part ∈ parts, Built PlanHead.IsFixed part := by
  unfold cardAction at h
  split at h
  · obtain ⟨content, _, h⟩ := Except.bind_ok_iff.mp h
    cases h
    simpa using built_action _ _ _ _
  · cases h
    simp

theorem color_of_mem_trends {name arrow color : String} (h : (name, (arrow, color)) ∈ trends) :
    Token.colorNames.contains color = true := by
  have hall : ∀ entry ∈ trends, Token.colorNames.contains entry.2.2 = true := by
    simp [trends, Token.colorNames, Token.colors]
  exact hall _ h

theorem built_of_mem_statTrend {parts : List Plan} (h : statTrend r = .ok parts) :
    ∀ part ∈ parts, Built PlanHead.IsFixed part := by
  unfold statTrend at h
  split at h
  · obtain ⟨found, hfound, h⟩ := Except.bind_ok_iff.mp h
    obtain ⟨change, _, h⟩ := Except.bind_ok_iff.mp h
    cases h
    intro part hpart
    rw [List.mem_singleton] at hpart
    subst hpart
    refine built_text _ _ rfl ?_ rfl
    cases found with
    | none => rfl
    | some trend =>
        obtain ⟨name, hentry⟩ := Table.mem_of_find? hfound
        simpa [isKnown] using color_of_mem_trends hentry
  · cases h
    simp

theorem built_of_mem_headerAction {parts : List Plan} (h : headerAction r = .ok parts) :
    ∀ part ∈ parts, Built PlanHead.IsFixed part := by
  unfold headerAction at h
  split at h
  · obtain ⟨action, _, h⟩ := Except.bind_ok_iff.mp h
    split at h
    all_goals cases h
    · simpa using built_icon _ rfl rfl
    · simpa using built_text _ _ rfl rfl rfl
  · cases h
    simp

theorem built_navigationEntry (label : String) (isActive : Bool) :
    (navigationEntry label isActive).Built PlanHead.IsFixed := by
  refine built_container _ _ rfl rfl rfl rfl ?_
  intro part hpart
  simp only [List.mem_cons, List.not_mem_nil, or_false] at hpart
  rcases hpart with rfl | rfl
  · exact built_icon _ rfl (by cases isActive <;> rfl)
  · exact built_text _ _ rfl (by cases isActive <;> rfl) rfl

theorem built_tab (label : String) (isActive : Bool) :
    (tab label isActive).Built PlanHead.IsFixed :=
  built_text _ _ rfl (by cases isActive <;> rfl) rfl

theorem built_of_mem_drawItems {draw : String → Bool → Plan} {labels : List String} {active : Int}
    (hdraw : ∀ label isActive, (draw label isActive).Built PlanHead.IsFixed) {part : Plan}
    (h : part ∈ drawItems draw labels active) : part.Built PlanHead.IsFixed := by
  obtain ⟨i, hi, rfl⟩ := List.mem_mapIdx.mp h
  exact hdraw _ _

/-! ## Rules -/

theorem textRule_drawn (h : textRule.expand r = .ok plan) : plan.Drawn := by
  obtain ⟨content, _, h⟩ := Except.bind_ok_iff.mp h
  exact drawn_styledText rfl h

theorem buttonRule_drawn (h : buttonRule.expand r = .ok plan) : plan.Drawn := by
  obtain ⟨content, _, h⟩ := Except.bind_ok_iff.mp h
  cases h
  exact .leaf rfl (own_button _ _ _ _ rfl)

theorem inputRule_drawn (h : inputRule.expand r = .ok plan) : plan.Drawn := by
  have hrole : PlanHead.isRole "input" = true := rfl
  obtain ⟨placeholder, _, h⟩ := Except.bind_ok_iff.mp h
  cases h
  refine .leaf rfl ⟨⟨hrole, ?_, rfl, rfl⟩, rfl⟩
  rintro _ ⟨⟩
  exact known_knownStyle _ rfl

theorem built_switch (isOn : Bool) : (switch isOn).Built PlanHead.IsFixed := by
  have hrole : PlanHead.isRole "toggle-switch" = true := rfl
  refine .leaf rfl
    (PlanHead.IsOwn.fixed ⟨⟨hrole, by rintro _ ⟨⟩, ?_, rfl⟩, rfl⟩ nofun rfl nofun nofun)
  cases isOn <;> rfl

theorem toggleRule_drawn (h : toggleRule.expand r = .ok plan) : plan.Drawn := by
  obtain ⟨label, _, h⟩ := Except.bind_ok_iff.mp h
  cases h
  refine drawn_container _ _ rfl rfl rfl ?_
  intro part hpart
  simp only [List.mem_cons, List.not_mem_nil, or_false] at hpart
  rcases hpart with rfl | rfl
  · exact built_text _ _ rfl rfl rfl
  · exact built_switch _

theorem imageRule_drawn (h : imageRule.expand r = .ok plan) : plan.Drawn := by
  obtain ⟨label, _, h⟩ := Except.bind_ok_iff.mp h
  exact drawn_image rfl h

theorem iconRule_drawn (h : iconRule.expand r = .ok plan) : plan.Drawn :=
  drawn_labelledIcon h

theorem dividerRule_drawn (h : dividerRule.expand r = .ok plan) : plan.Drawn := by
  have hrole : PlanHead.isRole "divider" = true := rfl
  cases h
  exact .leaf rfl ⟨⟨hrole, by rintro _ ⟨⟩, rfl, rfl⟩, rfl⟩

theorem spacerRule_drawn (h : spacerRule.expand r = .ok plan) : plan.Drawn := by
  have hrole : PlanHead.isRole "spacer" = true := rfl
  obtain ⟨size, _, h⟩ := Except.bind_ok_iff.mp h
  cases h
  exact .leaf rfl ⟨⟨hrole, by rintro _ ⟨⟩, rfl, rfl⟩, rfl⟩

theorem listItemRule_drawn (h : listItemRule.expand r = .ok plan) : plan.Drawn := by
  obtain ⟨leading, hleading, h⟩ := Except.bind_ok_iff.mp h
  obtain ⟨title, _, h⟩ := Except.bind_ok_iff.mp h
  obtain ⟨subtitle, hsubtitle, h⟩ := Except.bind_ok_iff.mp h
  obtain ⟨trailing, htrailing, h⟩ := Except.bind_ok_iff.mp h
  cases h
  refine drawn_container _ _ rfl rfl rfl ?_
  intro part hpart
  simp only [List.mem_append, List.mem_cons, List.not_mem_nil, or_false] at hpart
  rcases hpart with hpart | rfl | rfl
  · exact built_of_mem_listLeading hleading part hpart
  · refine built_column _ rfl rfl ?_
    intro text htext
    rcases List.mem_cons.mp htext with rfl | htext
    · exact built_text _ _ rfl rfl rfl
    · exact built_of_mem_optionalText rfl rfl rfl hsubtitle text htext
  · exact built_listTrailing htrailing

theorem cardRule_drawn (h : cardRule.expand r = .ok plan) : plan.Drawn := by
  obtain ⟨image, himage, h⟩ := Except.bind_ok_iff.mp h
  obtain ⟨texts, htexts, h⟩ := Except.bind_ok_iff.mp h
  obtain ⟨action, haction, h⟩ := Except.bind_ok_iff.mp h
  cases h
  refine drawn_container _ _ rfl rfl rfl ?_
  intro part hpart
  simp only [List.mem_append, List.mem_cons] at hpart
  rcases hpart with hpart | rfl | hpart
  · exact built_of_mem_cardImage himage part hpart
  · exact built_column _ rfl rfl (built_of_mem_cardTexts htexts)
  · exact built_of_mem_cardAction haction part hpart

theorem statRule_drawn (h : statRule.expand r = .ok plan) : plan.Drawn := by
  obtain ⟨value, _, h⟩ := Except.bind_ok_iff.mp h
  obtain ⟨label, _, h⟩ := Except.bind_ok_iff.mp h
  obtain ⟨trend, htrend, h⟩ := Except.bind_ok_iff.mp h
  cases h
  refine drawn_container _ _ rfl rfl rfl ?_
  intro part hpart
  simp only [List.mem_cons] at hpart
  rcases hpart with rfl | rfl | hpart
  · exact built_text _ _ rfl rfl rfl
  · exact built_text _ _ rfl rfl rfl
  · exact built_of_mem_statTrend htrend part hpart

theorem color_of_mem_badgeColors {name color : String} (h : (name, color) ∈ Token.badgeColors) :
    Token.colorNames.contains color = true := by
  have hall : ∀ entry ∈ Token.badgeColors, Token.colorNames.contains entry.2 = true := by
    simp [Token.badgeColors, Token.colorNames, Token.colors]
  exact hall _ h

theorem badgeRule_drawn (h : badgeRule.expand r = .ok plan) : plan.Drawn := by
  obtain ⟨color, hcolor, h⟩ := Except.bind_ok_iff.mp h
  obtain ⟨content, _, h⟩ := Except.bind_ok_iff.mp h
  cases h
  have hknown : Token.colorNames.contains color = true := by
    cases Table.findOr_cases hcolor with
    | inl hdefault =>
        rw [hdefault]
        rfl
    | inr hentry =>
        obtain ⟨name, hentry⟩ := hentry
        exact color_of_mem_badgeColors hentry
  exact .leaf rfl (own_text _ _ rfl (by simpa [isKnown] using hknown))

theorem navbarRule_drawn (h : navbarRule.expand r = .ok plan) : plan.Drawn := by
  obtain ⟨active, _, h⟩ := Except.bind_ok_iff.mp h
  obtain ⟨labels, _, h⟩ := Except.bind_ok_iff.mp h
  cases h
  exact drawn_container _ _ rfl rfl rfl fun _ => built_of_mem_drawItems built_navigationEntry

theorem headerRule_drawn (h : headerRule.expand r = .ok plan) : plan.Drawn := by
  obtain ⟨title, _, h⟩ := Except.bind_ok_iff.mp h
  obtain ⟨action, haction, h⟩ := Except.bind_ok_iff.mp h
  cases h
  refine drawn_container _ _ rfl rfl rfl ?_
  intro part hpart
  simp only [List.mem_append, List.mem_cons] at hpart
  rcases hpart with hpart | rfl | hpart
  · split at hpart
    · rw [List.mem_singleton] at hpart
      subst hpart
      exact built_icon _ rfl rfl
    · simp at hpart
  · exact built_text _ _ rfl rfl rfl
  · exact built_of_mem_headerAction haction part hpart

theorem tabsRule_drawn (h : tabsRule.expand r = .ok plan) : plan.Drawn := by
  obtain ⟨active, _, h⟩ := Except.bind_ok_iff.mp h
  obtain ⟨labels, _, h⟩ := Except.bind_ok_iff.mp h
  cases h
  exact drawn_container _ _ rfl rfl rfl fun _ => built_of_mem_drawItems built_tab

/-- Every rule but the box draws all of its plan itself. -/
theorem expand_drawn {rule : Rule} (hrule : rule ∈ Rules.builtin) (hbox : rule.typeName ≠ "box")
    (h : rule.expand r = .ok plan) : plan.Drawn := by
  simp only [Rules.builtin, List.mem_cons, List.not_mem_nil, or_false] at hrule
  rcases hrule with rfl | rfl | rfl | rfl | rfl | rfl | rfl | rfl | rfl | rfl | rfl | rfl | rfl |
    rfl | rfl | rfl
  · exact textRule_drawn h
  · exact buttonRule_drawn h
  · exact inputRule_drawn h
  · exact toggleRule_drawn h
  · exact imageRule_drawn h
  · exact iconRule_drawn h
  · exact absurd rfl hbox
  · exact dividerRule_drawn h
  · exact spacerRule_drawn h
  · exact listItemRule_drawn h
  · exact cardRule_drawn h
  · exact statRule_drawn h
  · exact badgeRule_drawn h
  · exact navbarRule_drawn h
  · exact headerRule_drawn h
  · exact tabsRule_drawn h

theorem known_of_mem_boxPaints {name : String} {paint : Paint} (h : (name, paint) ∈ boxPaints) :
    paint.isKnown = true := by
  simp only [boxPaints, List.mem_cons, List.not_mem_nil, or_false, Prod.mk.injEq] at h
  rcases h with ⟨-, rfl⟩ | ⟨-, rfl⟩ | ⟨-, rfl⟩ <;> rfl

/-- A box is one container, with a direction, around exactly the plans below it. -/
theorem boxRule_expand (h : boxRule.expand r = .ok plan) :
    ∃ head nested, plan = .node head nested ∧ r.children = .ok nested ∧
      head.isContainer = true ∧ head.layout.direction.isSome = true ∧ head.IsOwn := by
  obtain ⟨padding, _, h⟩ := Except.bind_ok_iff.mp h
  obtain ⟨nested, hnested, h⟩ := Except.bind_ok_iff.mp h
  obtain ⟨paint, hpaint, h⟩ := Except.bind_ok_iff.mp h
  obtain ⟨gap, _, h⟩ := Except.bind_ok_iff.mp h
  cases h
  refine ⟨_, _, rfl, hnested, rfl, rfl, own_container nested _ _ _ rfl ?_⟩
  cases Table.findOr_cases hpaint with
  | inl hdefault =>
      rw [hdefault]
      rfl
  | inr hentry =>
      obtain ⟨name, hentry⟩ := hentry
      exact known_of_mem_boxPaints hentry

theorem eq_of_typeName {rule rule' : Rule} (hrule : rule ∈ Rules.builtin)
    (hrule' : rule' ∈ Rules.builtin) (h : rule.typeName = rule'.typeName) : rule = rule' := by
  have hnodup : (Rules.builtin.map (·.typeName)).Nodup := by
    rw [Rules.types_builtin]
    exact Registry.types_builtin_nodup
  exact List.inj_on_of_nodup_map hnodup hrule hrule' h

theorem eq_boxRule {rule : Rule} (hrule : rule ∈ Rules.builtin) (hbox : rule.typeName = "box") :
    rule = boxRule :=
  eq_of_typeName hrule (by simp [Rules.builtin]) hbox

/-! ## Names -/

/-- The root of an expansion takes its drawing, its class and its label from the props of its type
that are documented to give them, and from no others. Inputs and icons alone are drawn as such. -/
structure Names (r : Resolution) (typeName : String) (head : PlanHead) : Prop where
  glyph : head.glyphName? = (glyphProp? typeName).map r.prop
  word : head.classValue? = (classProp? typeName).map r.prop
  label : head.labelValue? = (labelProp? typeName).map r.prop
  input : (head.kind == .input) = (typeName == "input")
  icon : (head.kind == .icon) = (typeName == "icon")

theorem expand_names {rule : Rule} (hrule : rule ∈ Rules.builtin)
    (h : rule.expand r = .ok plan) : Names r rule.typeName plan.label := by
  simp only [Rules.builtin, List.mem_cons, List.not_mem_nil, or_false] at hrule
  rcases hrule with rfl | rfl | rfl | rfl | rfl | rfl | rfl | rfl | rfl | rfl | rfl | rfl | rfl |
    rfl | rfl | rfl
  · obtain ⟨content, _, h⟩ := Except.bind_ok_iff.mp h
    obtain ⟨style, hstyle, h⟩ := Except.bind_ok_iff.mp h
    obtain ⟨found, _, hstyle⟩ := Except.bind_ok_iff.mp hstyle
    cases hstyle
    cases h
    exact ⟨rfl, rfl, rfl, rfl, rfl⟩
  · obtain ⟨content, _, h⟩ := Except.bind_ok_iff.mp h
    cases h
    exact ⟨rfl, rfl, rfl, rfl, rfl⟩
  · obtain ⟨placeholder, _, h⟩ := Except.bind_ok_iff.mp h
    cases h
    exact ⟨rfl, rfl, rfl, rfl, rfl⟩
  · obtain ⟨label, _, h⟩ := Except.bind_ok_iff.mp h
    cases h
    exact ⟨rfl, rfl, rfl, rfl, rfl⟩
  · obtain ⟨label, _, h⟩ := Except.bind_ok_iff.mp h
    obtain ⟨head, rfl, -, -, hkind, hclass⟩ := exists_image rfl h
    have hglyph : head.glyphName? = none := by rw [PlanHead.glyphName?, hkind]
    have hlabel : head.labelValue? = none := by rw [PlanHead.labelValue?, hkind]
    have hother : ∀ kind, (head.kind == kind) = (PlanKind.image == kind) := fun kind => by rw [hkind]
    exact ⟨hglyph, hclass, hlabel, hother .input, hother .icon⟩
  · obtain ⟨edge, _, h⟩ := Except.bind_ok_iff.mp h
    cases h
    exact ⟨rfl, rfl, rfl, rfl, rfl⟩
  · obtain ⟨padding, _, h⟩ := Except.bind_ok_iff.mp h
    obtain ⟨nested, _, h⟩ := Except.bind_ok_iff.mp h
    obtain ⟨paint, _, h⟩ := Except.bind_ok_iff.mp h
    obtain ⟨gap, _, h⟩ := Except.bind_ok_iff.mp h
    cases h
    exact ⟨rfl, rfl, rfl, rfl, rfl⟩
  · cases h
    exact ⟨rfl, rfl, rfl, rfl, rfl⟩
  · obtain ⟨height, _, h⟩ := Except.bind_ok_iff.mp h
    cases h
    exact ⟨rfl, rfl, rfl, rfl, rfl⟩
  · obtain ⟨leading, _, h⟩ := Except.bind_ok_iff.mp h
    obtain ⟨title, _, h⟩ := Except.bind_ok_iff.mp h
    obtain ⟨subtitle, _, h⟩ := Except.bind_ok_iff.mp h
    obtain ⟨trailing, _, h⟩ := Except.bind_ok_iff.mp h
    cases h
    exact ⟨rfl, rfl, rfl, rfl, rfl⟩
  · obtain ⟨image, _, h⟩ := Except.bind_ok_iff.mp h
    obtain ⟨texts, _, h⟩ := Except.bind_ok_iff.mp h
    obtain ⟨action, _, h⟩ := Except.bind_ok_iff.mp h
    cases h
    exact ⟨rfl, rfl, rfl, rfl, rfl⟩
  · obtain ⟨value, _, h⟩ := Except.bind_ok_iff.mp h
    obtain ⟨label, _, h⟩ := Except.bind_ok_iff.mp h
    obtain ⟨trend, _, h⟩ := Except.bind_ok_iff.mp h
    cases h
    exact ⟨rfl, rfl, rfl, rfl, rfl⟩
  · obtain ⟨color, _, h⟩ := Except.bind_ok_iff.mp h
    obtain ⟨content, _, h⟩ := Except.bind_ok_iff.mp h
    cases h
    exact ⟨rfl, rfl, rfl, rfl, rfl⟩
  · obtain ⟨active, _, h⟩ := Except.bind_ok_iff.mp h
    obtain ⟨labels, _, h⟩ := Except.bind_ok_iff.mp h
    cases h
    exact ⟨rfl, rfl, rfl, rfl, rfl⟩
  · obtain ⟨title, _, h⟩ := Except.bind_ok_iff.mp h
    obtain ⟨action, _, h⟩ := Except.bind_ok_iff.mp h
    cases h
    exact ⟨rfl, rfl, rfl, rfl, rfl⟩
  · obtain ⟨active, _, h⟩ := Except.bind_ok_iff.mp h
    obtain ⟨labels, _, h⟩ := Except.bind_ok_iff.mp h
    cases h
    exact ⟨rfl, rfl, rfl, rfl, rfl⟩

theorem kind_ne_input {rule : Rule} (hrule : rule ∈ Rules.builtin)
    (h : rule.expand r = .ok plan) (hinput : rule.typeName ≠ "input") :
    plan.label.kind ≠ .input := by
  have hkind := (expand_names hrule h).input
  rwa [beq_false_of_ne hinput, beq_eq_false_iff_ne] at hkind

end Rule

end Wireframe

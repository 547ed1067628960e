import Wireframe.Proofs.Plan.Resolved

/-! # Heights of plans

A rule adds a bounded number of levels to an element. A leaf is one level, a composite that draws
its parts side by side is two, and one that groups some of them is three. Only a box goes deeper,
by the plans of the elements below it, so a plan is at most two levels higher than its element.
-/

namespace Wireframe

namespace Plan

variable {plan : Plan}

theorem height_leaf (head : PlanHead) : (leaf head).height = 1 := rfl

theorem height_text (content style role : String) (options : TextOptions) :
    (text content style role options).height = 1 := rfl

theorem height_icon (name role color : String) : (icon name role color).height = 1 := rfl

theorem height_styledText {content role : String} {style : Value}
    (h : styledText content style role = .ok plan) : plan.height = 1 := by
  obtain ⟨found, _, h⟩ := Except.bind_ok_iff.mp h
  cases h
  rfl

theorem height_image {size shape : Value} {role label : String}
    (h : image size role label shape = .ok plan) : plan.height = 1 := by
  obtain ⟨edges, _, h⟩ := Except.bind_ok_iff.mp h
  cases h
  rfl

theorem height_labelledIcon {name label size : Value} (h : labelledIcon name label size = .ok plan) :
    plan.height = 1 := by
  obtain ⟨edge, _, h⟩ := Except.bind_ok_iff.mp h
  cases h
  rfl

theorem height_container_le {role type : String} {parts : List Plan} (paint : Paint)
    (layout : Layout) (props : Members) {n : Nat} (h : ∀ part ∈ parts, part.height ≤ n) :
    (container role type parts paint layout props).height ≤ n + 1 := by
  have hparts : Tree.heightAll parts ≤ n := Tree.heightAll_le_iff.mpr h
  show Tree.heightAll parts + 1 ≤ n + 1
  omega

end Plan

namespace Rule

open Plan

variable {r : Resolution} {plan part : Plan}

/-! ## Parts of composites -/

theorem height_of_mem_optionalText {name style role : String} {options : TextOptions}
    {parts : List Plan} (h : optionalText r name style role options = .ok parts)
    (hpart : part ∈ parts) : part.height = 1 := by
  unfold optionalText at h
  split at h
  · obtain ⟨content, _, h⟩ := Except.bind_ok_iff.mp h
    cases h
    rw [List.mem_singleton.mp hpart, height_text]
  · cases h
    cases hpart

theorem height_of_mem_listLeading {parts : List Plan} (h : listLeading r = .ok parts)
    (hpart : part ∈ parts) : part.height = 1 := by
  unfold listLeading at h
  split at h
  · obtain ⟨image, himage, h⟩ := Except.bind_ok_iff.mp h
    cases h
    rw [List.mem_singleton.mp hpart, height_image himage]
  · split at h
    · obtain ⟨icon, _, h⟩ := Except.bind_ok_iff.mp h
      cases h
      rw [List.mem_singleton.mp hpart, height_icon]
    · cases h
      cases hpart

theorem height_listTrailing (h : listTrailing r = .ok part) : part.height = 1 := by
  unfold listTrailing at h
  split at h
  all_goals
    obtain ⟨shown, _, h⟩ := Except.bind_ok_iff.mp h
    cases h
  · exact height_text _ _ _ _
  · exact height_icon _ _ _

theorem height_of_mem_cardImage {parts : List Plan} (h : cardImage r = .ok parts)
    (hpart : part ∈ parts) : part.height = 1 := by
  unfold cardImage at h
  split at h
  · cases h
    cases hpart
  · obtain ⟨image, himage, h⟩ := Except.bind_ok_iff.mp h
    cases h
    rw [List.mem_singleton.mp hpart, height_image himage]

theorem height_of_mem_cardTexts {parts : List Plan} (h : cardTexts r = .ok parts)
    (hpart : part ∈ parts) : part.height = 1 := by
  obtain ⟨title, _, h⟩ := Except.bind_ok_iff.mp h
  obtain ⟨badge, hbadge, h⟩ := Except.bind_ok_iff.mp h
  obtain ⟨subtitle, hsubtitle, h⟩ := Except.bind_ok_iff.mp h
  obtain ⟨description, hdescription, h⟩ := Except.bind_ok_iff.mp h
  obtain ⟨price, hprice, h⟩ := Except.bind_ok_iff.mp h
  cases h
  simp only [List.cons_append, List.mem_cons, List.mem_append] at hpart
  rcases hpart with rfl | ((hpart | hpart) | hpart) | hpart
  · exact height_text _ _ _ _
  · exact height_of_mem_optionalText hbadge hpart
  · exact height_of_mem_optionalText hsubtitle hpart
  · exact height_of_mem_optionalText hdescription hpart
  · exact height_of_mem_optionalText hprice hpart

theorem height_of_mem_cardAction {parts : List Plan} (h : cardAction r = .ok parts)
    (hpart : part ∈ parts) : part.height = 1 := by
  unfold cardAction at h
  split at h
  · obtain ⟨content, _, h⟩ := Except.bind_ok_iff.mp h
    cases h
    rw [List.mem_singleton.mp hpart]
    rfl
  · cases h
    cases hpart

theorem height_of_mem_statTrend {parts : List Plan} (h : statTrend r = .ok parts)
    (hpart : part ∈ parts) : part.height = 1 := by
  unfold statTrend at h
  split at h
  · obtain ⟨found, _, h⟩ := Except.bind_ok_iff.mp h
    obtain ⟨change, _, h⟩ := Except.bind_ok_iff.mp h
    cases h
    rw [List.mem_singleton.mp hpart, height_text]
  · cases h
    cases hpart

theorem height_of_mem_headerAction {parts : List Plan} (h : headerAction r = .ok parts)
    (hpart : part ∈ parts) : part.height = 1 := by
  unfold headerAction at h
  split at h
  · obtain ⟨action, _, h⟩ := Except.bind_ok_iff.mp h
    split at h
    all_goals cases h
    · rw [List.mem_singleton.mp hpart, height_icon]
    · rw [List.mem_singleton.mp hpart, height_text]
  · cases h
    cases hpart

theorem height_navigationEntry (label : String) (isActive : Bool) :
    (navigationEntry label isActive).height = 2 := rfl

theorem height_tab (label : String) (isActive : Bool) : (tab label isActive).height = 1 := rfl

theorem height_of_mem_drawItems {draw : String → Bool → Plan} {labels : List String} {active : Int}
    {n : Nat} (hdraw : ∀ label isActive, (draw label isActive).height = n)
    (h : part ∈ drawItems draw labels active) : part.height = n := by
  obtain ⟨i, hi, rfl⟩ := List.mem_mapIdx.mp h
  exact hdraw _ _

/-! ## Rules -/

theorem buttonRule_height (h : buttonRule.expand r = .ok plan) : plan.height = 1 := by
  obtain ⟨content, _, h⟩ := Except.bind_ok_iff.mp h
  cases h
  rfl

theorem inputRule_height (h : inputRule.expand r = .ok plan) : plan.height = 1 := by
  obtain ⟨placeholder, _, h⟩ := Except.bind_ok_iff.mp h
  cases h
  rfl

theorem toggleRule_height_le (h : toggleRule.expand r = .ok plan) : plan.height ≤ 2 := by
  obtain ⟨label, _, h⟩ := Except.bind_ok_iff.mp h
  cases h
  exact Nat.le_refl 2

theorem listItemRule_height_le (h : listItemRule.expand r = .ok plan) : plan.height ≤ 3 := by
  obtain ⟨leading, hleading, h⟩ := Except.bind_ok_iff.mp h
  obtain ⟨title, _, h⟩ := Except.bind_ok_iff.mp h
  obtain ⟨subtitle, hsubtitle, h⟩ := Except.bind_ok_iff.mp h
  obtain ⟨trailing, htrailing, h⟩ := Except.bind_ok_iff.mp h
  cases h
  refine height_container_le _ _ _ fun part hpart => ?_
  simp only [List.mem_append, List.mem_cons, List.not_mem_nil, or_false] at hpart
  rcases hpart with hpart | rfl | rfl
  · have hone := height_of_mem_listLeading hleading hpart
    omega
  · refine height_container_le _ _ _ fun text htext => ?_
    rcases List.mem_cons.mp htext with rfl | htext
    · exact Nat.le_refl 1
    · exact Nat.le_of_eq (height_of_mem_optionalText hsubtitle htext)
  · have hone := height_listTrailing htrailing
    omega

theorem cardRule_height_le (h : cardRule.expand r = .ok plan) : plan.height ≤ 3 := by
  obtain ⟨image, himage, h⟩ := Except.bind_ok_iff.mp h
  obtain ⟨texts, htexts, h⟩ := Except.bind_ok_iff.mp h
  obtain ⟨action, haction, h⟩ := Except.bind_ok_iff.mp h
  cases h
  refine height_container_le _ _ _ fun part hpart => ?_
  simp only [List.mem_append, List.mem_cons] at hpart
  rcases hpart with hpart | rfl | hpart
  · have hone := height_of_mem_cardImage himage hpart
    omega
  · refine height_container_le _ _ _ fun text htext => ?_
    exact Nat.le_of_eq (height_of_mem_cardTexts htexts htext)
  · have hone := height_of_mem_cardAction haction hpart
    omega

theorem statRule_height_le (h : statRule.expand r = .ok plan) : plan.height ≤ 2 := by
  obtain ⟨value, _, h⟩ := Except.bind_ok_iff.mp h
  obtain ⟨label, _, h⟩ := Except.bind_ok_iff.mp h
  obtain ⟨trend, htrend, h⟩ := Except.bind_ok_iff.mp h
  cases h
  refine height_container_le _ _ _ fun part hpart => ?_
  simp only [List.mem_cons] at hpart
  rcases hpart with rfl | rfl | hpart
  · exact Nat.le_refl 1
  · exact Nat.le_refl 1
  · exact Nat.le_of_eq (height_of_mem_statTrend htrend hpart)

theorem navbarRule_height_le (h : navbarRule.expand r = .ok plan) : plan.height ≤ 3 := by
  obtain ⟨active, _, h⟩ := Except.bind_ok_iff.mp h
  obtain ⟨labels, _, h⟩ := Except.bind_ok_iff.mp h
  cases h
  refine height_container_le _ _ _ fun part hpart => ?_
  exact Nat.le_of_eq (height_of_mem_drawItems height_navigationEntry hpart)

theorem textRule_height (h : textRule.expand r = .ok plan) : plan.height = 1 := by
  obtain ⟨content, _, h⟩ := Except.bind_ok_iff.mp h
  exact height_styledText h

theorem imageRule_height (h : imageRule.expand r = .ok plan) : plan.height = 1 := by
  obtain ⟨label, _, h⟩ := Except.bind_ok_iff.mp h
  exact height_image h

theorem headerRule_height_le (h : headerRule.expand r = .ok plan) : plan.height ≤ 2 := by
  obtain ⟨title, _, h⟩ := Except.bind_ok_iff.mp h
  obtain ⟨action, haction, h⟩ := Except.bind_ok_iff.mp h
  cases h
  refine height_container_le _ _ _ fun part hpart => ?_
  simp only [List.mem_append, List.mem_cons] at hpart
  rcases hpart with hpart | rfl | hpart
  · split at hpart
    · rw [List.mem_singleton.mp hpart]
      exact Nat.le_refl 1
    · cases hpart
  · exact Nat.le_refl 1
  · exact Nat.le_of_eq (height_of_mem_headerAction haction hpart)

theorem tabsRule_height_le (h : tabsRule.expand r = .ok plan) : plan.height ≤ 2 := by
  obtain ⟨active, _, h⟩ := Except.bind_ok_iff.mp h
  obtain ⟨labels, _, h⟩ := Except.bind_ok_iff.mp h
  cases h
  refine height_container_le _ _ _ fun part hpart => ?_
  exact Nat.le_of_eq (height_of_mem_drawItems height_tab hpart)

theorem spacerRule_height (h : spacerRule.expand r = .ok plan) : plan.height = 1 := by
  obtain ⟨size, _, h⟩ := Except.bind_ok_iff.mp h
  cases h
  rfl

theorem badgeRule_height (h : badgeRule.expand r = .ok plan) : plan.height = 1 := by
  obtain ⟨color, _, h⟩ := Except.bind_ok_iff.mp h
  obtain ⟨content, _, h⟩ := Except.bind_ok_iff.mp h
  cases h
  rfl

/-- What a rule draws alone has three levels at most. -/
theorem expand_height_le {rule : Rule} (hrule : rule ∈ Rules.builtin) (hbox : rule.typeName ≠ "box")
    (h : rule.expand r = .ok plan) : plan.height ≤ 3 := by
  have of_one : plan.height = 1 → plan.height ≤ 3 := by omega
  have of_two : plan.height ≤ 2 → plan.height ≤ 3 := by omega
  simp only [Rules.builtin, List.mem_cons, List.not_mem_nil, or_false] at hrule
  rcases hrule with rfl | rfl | rfl | rfl | rfl | rfl | rfl | rfl | rfl | rfl | rfl | rfl | rfl |
    rfl | rfl | rfl
  · exact of_one (textRule_height h)
  · exact of_one (buttonRule_height h)
  · exact of_one (inputRule_height h)
  · exact of_two (toggleRule_height_le h)
  · exact of_one (imageRule_height h)
  · exact of_one (height_labelledIcon h)
  · exact absurd rfl hbox
  · cases h
    exact of_one (height_leaf _)
  · exact of_one (spacerRule_height h)
  · exact listItemRule_height_le h
  · exact cardRule_height_le h
  · exact of_two (statRule_height_le h)
  · exact of_one (badgeRule_height h)
  · exact navbarRule_height_le h
  · exact of_two (headerRule_height_le h)
  · exact of_two (tabsRule_height_le h)

end Rule

namespace Rules

variable {rules : Rules}

/-- A plan is at most two levels higher than its element. -/
theorem resolve_height_le (hrules : rules ⊆ builtin) {inherited : Option String} {e : Element}
    {plan : Plan} (h : rules.resolve inherited e = .ok plan) : plan.height ≤ e.height + 2 := by
  induction e using Tree.induct generalizing inherited plan with
  | node head children ih =>
      have hheight := Tree.height_node head children
      rcases resolve_expands h with ⟨drawn, -, hdrawn, rfl⟩ | ⟨rule, drawn, hrule, hdrawn, rfl⟩
      · obtain ⟨shown, rfl⟩ := exists_fallback hdrawn
        rw [Plan.asElement, Tree.height_mapRoot, Plan.height_text]
        omega
      · obtain ⟨hmem, -⟩ := rule?_mem hrule
        rw [Plan.asElement, Tree.height_mapRoot]
        by_cases hbox : rule.typeName = "box"
        · rw [Rule.eq_boxRule (hrules hmem) hbox] at hdrawn
          obtain ⟨box, nested, rfl, hnested, -⟩ := Rule.boxRule_expand hdrawn
          have hparts : Tree.heightAll nested ≤ Tree.heightAll children + 2 := by
            refine Tree.heightAll_le_iff.mpr fun part hpart => ?_
            obtain ⟨e, he, hresolve⟩ :=
              exists_of_forall₂_of_mem (resolveChildren_ok_iff.mp hnested) hpart
            have hchild : e.1 ∈ children := List.fst_mem_of_mem_zipIdx he
            have hpart := ih e.1 hchild hresolve
            have hmax := Tree.height_le_heightAll hchild
            omega
          rw [Tree.height_node]
          omega
        · have hthree := Rule.expand_height_le (hrules hmem) hbox hdrawn
          omega

/-- Every plan of a screen is at most two levels higher than an element of the screen. -/
theorem resolveScreen_height_le (hrules : rules ⊆ builtin) {α : Type} {screen : Screen α}
    {plans : List Plan} (h : rules.resolveScreen screen = .ok plans) {plan : Plan}
    (hplan : plan ∈ plans) : ∃ e ∈ screen.elements, plan.height ≤ e.height + 2 := by
  obtain ⟨e, he, hresolve⟩ := exists_of_forall₂_of_mem (resolveItems_ok_iff.mp h) hplan
  exact ⟨e.1, List.fst_mem_of_mem_zipIdx he, resolve_height_le hrules hresolve⟩

end Rules

end Wireframe

import Wireframe.Proofs.Plan.Drawable
import Wireframe.Proofs.Plan.Indexed
import Wireframe.Proofs.Preview.Sketch

/-! # Active items

A navigation bar and a row of tabs show one of their items as active: in the plan by colours and
weights, in the preview by a class. A navigation entry carries the class on its container and a tab
on its text. Both are drawn from one index, so the plan and the preview agree on the item, and where
the index is not that of an item there is none (`resolve_active`).
-/

namespace Wireframe

def Plan.look (plan : Plan) : List (PlanKind × String × String) :=
  plan.walk.filterMap fun head =>
    head.textStyle.map fun style => (head.kind, style.color, style.weight)

structure ItemStyle where
  className : String
  /-- The items of a bar that is given none. -/
  usual : List String
  active : List (PlanKind × String × String)
  inactive : List (PlanKind × String × String)

def ItemStyle.look (style : ItemStyle) (isActive : Bool) : List (PlanKind × String × String) :=
  if isActive then style.active else style.inactive

def itemStyle? : String → Option ItemStyle
  | "navbar" => some {
      className := "wf-nav-item"
      usual := Rule.usualEntries
      active := [(.icon, "primary", "Medium"), (.text, "primary", "Medium")]
      inactive := [(.icon, "textMuted", "Medium"), (.text, "textMuted", "Medium")] }
  | "tabs" => some {
      className := "wf-tab"
      usual := Rule.usualTabs
      active := [(.text, "text", "Semi Bold")]
      inactive := [(.text, "textMuted", "Regular")] }
  | _ => none

namespace Markup

theorem findAll_node (head : MarkupHead) (nodes : List Markup) (name : String) :
    findAll (.node head nodes) name =
      (if head.hasClass name then [.node head nodes] else []) ++
        nodes.flatMap fun node => findAll node name := by
  simp only [findAll, Tree.subtrees_node, List.filter_cons, List.filter_flatMap, Tree.label_node]
  split <;> rfl

def Lacks (node : Markup) (name : String) : Prop :=
  ∀ head ∈ node.preorder, head.hasClass name = false

theorem lacks_node {head : MarkupHead} {nodes : List Markup} {name : String} :
    Lacks (.node head nodes) name ↔
      head.hasClass name = false ∧ ∀ node ∈ nodes, node.Lacks name := by
  simp only [Lacks, Tree.preorder_node, List.forall_mem_cons, List.forall_mem_flatMap]

theorem Lacks.findAll_eq_nil {node : Markup} {name : String} (h : node.Lacks name) :
    node.findAll name = [] := by
  induction node using Tree.induct with
  | node head nodes ih =>
      obtain ⟨hroot, hbelow⟩ := lacks_node.mp h
      rw [findAll_node, if_neg (by simp [hroot]), List.nil_append, List.flatMap_eq_nil_iff]
      exact fun node hnode => ih node hnode (hbelow node hnode)

end Markup

namespace Preview

variable {screenId : String} {selection : Selection} {plan : PlanHead} {node : Markup}
  {name : String}

/-- The classes that a node gets for where it stands and not for what it shows. -/
def standing : List String := ["wf-element", "selected", "wf-hug"]

/-- Finishing a sketch gives its root no class but those. -/
theorem hasClass_finish (hname : name ∉ standing) (head : MarkupHead) :
    (finish screenId selection plan head).hasClass name = head.hasClass name := by
  simp only [standing, List.mem_cons, List.not_mem_nil, or_false, not_or] at hname
  have hlayout (head : MarkupHead) : (layoutHead plan head).hasClass name = head.hasClass name := by
    unfold layoutHead
    split
    · split <;> rfl
    · split
      · simp [MarkupHead.hasClass, MarkupHead.addClass, hname]
      · rfl
  rw [finish, hlayout, markHead]
  split
  · dsimp only [MarkupHead.hasClass, MarkupHead.setAttribute]
    split <;> simp [hname]
  · rfl

/-- A sketch no node of which has the class. -/
def Quiet (name : String) (plan : PlanHead) : Prop :=
  ∀ drawn, sketch plan = .ok drawn → drawn.Lacks name

theorem lacks_of_quiet (hname : name ∉ standing) {tree : Plan} (built : tree.Built (Quiet name))
    (h : (target screenId selection).materialize tree = .ok node) : node.Lacks name := by
  refine forall_mem_preorder (fun plan drawn quiet hdrawn => ?_) built h
  obtain ⟨head, nodes⟩ := drawn
  obtain ⟨hroot, hbelow⟩ := Markup.lacks_node.mp (quiet _ hdrawn)
  exact ⟨(hasClass_finish hname head).trans hroot, hbelow⟩

theorem quiet_text (kind : plan.kind = .text)
    (h : ∀ classes, textClasses plan = .ok classes → name ∉ classes) : Quiet name plan := by
  intro drawn hdrawn
  rw [sketch, if_neg (by simp [PlanHead.isContainer, kind]), bareLeaf, kind] at hdrawn
  obtain ⟨classes, hclasses, hdrawn⟩ := Except.bind_ok_iff.mp hdrawn
  cases hdrawn
  exact Markup.lacks_node.mpr ⟨by simpa [MarkupHead.hasClass] using h classes hclasses, by simp⟩

/-- An icon without a label is a single node. -/
theorem quiet_icon (kind : plan.kind = .icon) (unlabelled : (plan.prop "label").truthy = false)
    (h : name ≠ "wf-" ++ plan.role) : Quiet name plan := by
  intro drawn hdrawn
  rw [sketch, if_neg (by simp [PlanHead.isContainer, kind]), bareLeaf, kind] at hdrawn
  obtain ⟨drawing, -, hdrawn⟩ := Except.bind_ok_iff.mp hdrawn
  obtain ⟨labels, hlabels, hdrawn⟩ := Except.bind_ok_iff.mp hdrawn
  dsimp only [Preview.labels] at hlabels
  rw [unlabelled] at hlabels
  cases hlabels
  cases hdrawn
  exact Markup.lacks_node.mpr ⟨by simpa [MarkupHead.hasClass] using h, by simp⟩

/-! ## Items -/

/-- An item of a bar as its style says: by its look in the plan, and in the preview by the class of
items on its root alone, and there by the class `active`. -/
structure IsItem (style : ItemStyle) (isActive : Bool) (item : Plan) : Prop where
  look : item.look = style.look isActive
  shown : ∀ {screenId : String} {selection : Selection} {node : Markup},
    (target screenId selection).materialize item = .ok node →
      node.findAll style.className = [node] ∧ node.label.hasClass "active" = isActive

theorem navigationEntry_isItem (label : String) (isActive : Bool) :
    ∀ style ∈ itemStyle? "navbar", IsItem style isActive (Rule.navigationEntry label isActive) := by
  rintro style ⟨⟩
  refine ⟨by cases isActive <;> rfl, fun h => ?_⟩
  obtain ⟨drawn, below, hdrawn, hbelow, rfl⟩ :=
    exists_sketch (Rule.built_navigationEntry label isActive) h
  obtain ⟨classes, hclasses, rfl⟩ := Except.map_ok_iff.mp hdrawn
  obtain rfl : (if isActive then ["wf-nav-item", "active"] else ["wf-nav-item"]) = classes := by
    cases isActive <;> exact Except.ok.inj hclasses
  -- The icon and the label of an entry are no items themselves.
  have hparts : below.flatMap (Markup.findAll · "wf-nav-item") = [] := by
    obtain _ | ⟨hicon, _ | ⟨htext, _ | _⟩⟩ := hbelow
    have icon : Markup.Lacks _ "wf-nav-item" := lacks_of_quiet (by decide)
      (.leaf rfl (quiet_icon rfl rfl (show _ ≠ "wf-nav-icon" by decide))) hicon
    have text : Markup.Lacks _ "wf-nav-item" := lacks_of_quiet (by decide)
      (.leaf rfl (quiet_text rfl (by rintro _ ⟨⟩; exact show _ ∉ ["wf-nav-label"] by decide))) htext
    simp [icon.findAll_eq_nil, text.findAll_eq_nil]
  refine ⟨?_, (hasClass_finish (by decide) _).trans (by cases isActive <;> rfl)⟩
  rw [Markup.findAll_node, hasClass_finish (by decide), if_pos (by cases isActive <;> rfl)]
  exact congrArg _ hparts

theorem tab_isItem (label : String) (isActive : Bool) :
    ∀ style ∈ itemStyle? "tabs", IsItem style isActive (Rule.tab label isActive) := by
  rintro style ⟨⟩
  refine ⟨by cases isActive <;> rfl, fun h => ?_⟩
  obtain ⟨drawn, below, hdrawn, hbelow, rfl⟩ := exists_sketch (Rule.built_tab label isActive) h
  cases hdrawn
  cases hbelow
  refine ⟨?_, (hasClass_finish (by decide) _).trans (by cases isActive <;> rfl)⟩
  rw [Markup.findAll_node, hasClass_finish (by decide), if_pos (by cases isActive <;> rfl)]
  rfl

end Preview

/-! ## Bars -/

/-- A bar of the style draws one item for each text of its list, the one at its index as active. -/
structure IsBar (style : ItemStyle) (own : Members) (bar : Plan) (labels : List String) (k : Int) :
    Prop where
  reads : (own.value "active").index = .ok k
  texts : (own.value "items").texts style.usual = .ok labels
  kind : bar.label.isContainer = true
  bare : ∃ classes, Preview.containerClasses bar.label = .ok classes ∧ style.className ∉ classes
  drawn : ∃ draw, (∀ label isActive, Preview.IsItem style isActive (draw label isActive)) ∧
    bar.children = Rule.drawItems draw labels k

namespace Rule

variable {own : Members} {nested : Except ResolveError (List Plan)} {plan : Plan}
  {style : ItemStyle}

theorem navbarRule_isBar (hstyle : itemStyle? "navbar" = some style)
    (h : navbarRule.expand ⟨own, navbarRule.defaults, nested⟩ = .ok plan) :
    ∃ labels k, IsBar style own plan labels k := by
  obtain ⟨k, hk, h⟩ := Except.bind_ok_iff.mp h
  obtain ⟨labels, hlabels, h⟩ := Except.bind_ok_iff.mp h
  cases h
  cases hstyle
  exact ⟨labels, k, (Resolution.index_prop rfl).symm.trans hk,
    (Resolution.texts_prop rfl).symm.trans hlabels, rfl, ⟨["wf-navbar"], rfl, by decide⟩,
    navigationEntry, fun label isActive => Preview.navigationEntry_isItem label isActive _ rfl, rfl⟩

theorem tabsRule_isBar (hstyle : itemStyle? "tabs" = some style)
    (h : tabsRule.expand ⟨own, tabsRule.defaults, nested⟩ = .ok plan) :
    ∃ labels k, IsBar style own plan labels k := by
  obtain ⟨k, hk, h⟩ := Except.bind_ok_iff.mp h
  obtain ⟨labels, hlabels, h⟩ := Except.bind_ok_iff.mp h
  cases h
  cases hstyle
  exact ⟨labels, k, (Resolution.index_prop rfl).symm.trans hk,
    (Resolution.texts_prop rfl).symm.trans hlabels, rfl, ⟨["wf-tabs"], rfl, by decide⟩,
    tab, fun label isActive => Preview.tab_isItem label isActive _ rfl, rfl⟩

theorem className_itemStyle? {typeName : String} (h : itemStyle? typeName = some style) :
    style.className ∉ Preview.standing := by
  unfold itemStyle? at h
  split at h <;> cases h <;> decide

/-- The types that have items are those of two rules, which draw bars. -/
theorem expand_isBar {rule : Rule} (hrule : rule ∈ Rules.builtin)
    (hstyle : itemStyle? rule.typeName = some style)
    (h : rule.expand ⟨own, rule.defaults, nested⟩ = .ok plan) :
    rule.typeName ≠ "box" ∧
      (∀ id props, ElementHead.IsPreviewable ⟨rule.typeName, id, props⟩) ∧
      ∃ labels k, IsBar style own plan labels k := by
  have hcases : rule.typeName = "navbar" ∨ rule.typeName = "tabs" := by
    unfold itemStyle? at hstyle
    split at hstyle
    · next hname => exact .inl hname
    · next hname => exact .inr hname
    · cases hstyle
  rcases hcases with hname | hname
  · obtain rfl : rule = navbarRule := eq_of_typeName hrule (by simp [Rules.builtin]) hname
    exact ⟨by decide, fun _ _ => ElementHead.isPreviewable_of_none rfl rfl rfl,
      navbarRule_isBar hstyle h⟩
  · obtain rfl : rule = tabsRule := eq_of_typeName hrule (by simp [Rules.builtin]) hname
    exact ⟨by decide, fun _ _ => ElementHead.isPreviewable_of_none rfl rfl rfl,
      tabsRule_isBar hstyle h⟩

end Rule

namespace IsBar

variable {style : ItemStyle} {own : Members} {bar : Plan} {labels : List String} {k : Int}
  {screenId : String} {selection : Selection} {node : Markup}

theorem items (h : IsBar style own bar labels k) :
    List.Forall₂ (fun item part => Preview.IsItem style ((item.2 : Int) == k) part)
      labels.zipIdx bar.children := by
  obtain ⟨draw, hdraw, hparts⟩ := h.drawn
  rw [hparts]
  exact forall₂_zipIdx_mapIdx fun i label => hdraw label _

theorem shows (h : IsBar style own bar labels k) (hname : style.className ∉ Preview.standing)
    (built : bar.Built PlanHead.IsResolved)
    (hnode : (Preview.target screenId selection).materialize bar = .ok node) :
    List.Forall₂ (fun item shown => shown.label.hasClass "active" = ((item.2 : Int) == k))
      labels.zipIdx (node.findAll style.className) := by
  obtain ⟨drawn, below, hdrawn, hbelow, rfl⟩ := Preview.exists_sketch built hnode
  obtain ⟨classes, hclasses, hbare⟩ := h.bare
  rw [Preview.sketch, if_pos h.kind, hclasses] at hdrawn
  obtain rfl : Markup.leaf { classes } = drawn := Except.ok.inj hdrawn
  have hitems : List.Forall₂ (fun item shown =>
      Markup.findAll shown style.className = [shown] ∧
        shown.label.hasClass "active" = ((item.2 : Int) == k))
      labels.zipIdx below :=
    forall₂_trans h.items hbelow fun _ _ _ isItem hshown => isItem.shown hshown
  have hfound : below.flatMap (Markup.findAll · style.className) = below := by
    refine (List.flatMap_congr fun shown hshown => ?_).trans (List.flatMap_singleton' below)
    obtain ⟨item, -, hitem⟩ := exists_of_forall₂_of_mem hitems hshown
    exact hitem.1
  have hroot : (Preview.finish screenId selection bar.label { classes }).hasClass style.className =
      false := by
    rw [Preview.hasClass_finish hname]
    simpa [MarkupHead.hasClass] using hbare
  rw [Markup.findAll_node, Markup.leaf, Tree.label_node, if_neg (by simp [hroot]),
    Tree.children_node, List.nil_append, List.nil_append, hfound]
  exact hitems.imp fun _ _ hitem => hitem.2

end IsBar

namespace Rules

variable {rules : Rules} {inherited : Option String} {plan : Plan}

/-- A navigation bar or a row of tabs that has a plan has previews, and in the plan and in each of
them the item at the index that the element gives, if there is one, alone is shown as active. -/
theorem resolve_active (hrules : rules ⊆ builtin) {head : ElementHead} {children : List Element}
    {style : ItemStyle} (hstyle : itemStyle? head.type = some style)
    (known : (rules.rule? head.type).isSome = true)
    (h : rules.resolve inherited (.node head children) = .ok plan) :
    ∃ labels k, (head.props.value "items").texts style.usual = .ok labels ∧
      (head.props.value "active").StandsForIndex k ∧
      List.Forall₂ (fun item part => Plan.look part = style.look ((item.2 : Int) == k))
        labels.zipIdx plan.children ∧
      ∀ screenId selection, ∃ node,
        (Preview.target screenId selection).materialize plan = .ok node ∧
        List.Forall₂ (fun item shown => shown.label.hasClass "active" = ((item.2 : Int) == k))
          labels.zipIdx (node.findAll style.className) := by
  have built := resolve_resolved hrules h
  have previewable := walk_all_iff isPreviewable_reads hrules h
  rcases resolve_expands h with ⟨_, hrule, -⟩ | ⟨rule, drawn, hrule, hdrawn, rfl⟩
  · simp [hrule] at known
  obtain ⟨hmem, htype⟩ := rule?_mem hrule
  rw [← htype] at hstyle
  obtain ⟨hbox, hpreviewable, labels, k, bar⟩ := Rule.expand_isBar (hrules hmem) hstyle hdrawn
  have marked : IsBar style head.props
      (drawn.asElement (resolvedId head.id inherited) head.type false) labels k := by
    obtain ⟨top, parts⟩ := drawn
    exact ⟨bar.reads, bar.texts, bar.kind, bar.bare, bar.drawn⟩
  refine ⟨labels, k, bar.texts, Value.index_ok_iff.mp bar.reads,
    marked.items.imp fun _ _ item => item.look, ?_⟩
  intro screenId selection
  have drawable : Element.Each rules ElementHead.IsPreviewable (.node head children) :=
    .drawn (by simpa [htype] using hpreviewable head.id head.props)
      fun h => absurd (htype.trans h) hbox
  obtain ⟨node, hnode⟩ := Except.isOk_iff_exists.mp
    ((Preview.materialize_isOk built).trans (previewable.mpr drawable))
  exact ⟨node, hnode, marked.shows (Rule.className_itemStyle? hstyle) built hnode⟩

/-- Two entries of which the second is active, as `true` stands for 1, and the usual tabs at an
index before the first. -/
theorem resolve_active_entries :
    let entries : ElementHead :=
      ⟨"navbar", none, [("items", .list [.string "Home", .int 7]), ("active", .bool true)]⟩
    let tabs : ElementHead := ⟨"tabs", none, [("active", .string " -1 ")]⟩
    (∃ plan, builtin.resolve none (.node entries []) = .ok plan ∧
      plan.children.map Plan.look = [
        [(.icon, "textMuted", "Medium"), (.text, "textMuted", "Medium")],
        [(.icon, "primary", "Medium"), (.text, "primary", "Medium")]] ∧
      ∀ screenId selection, ∃ node,
        (Preview.target screenId selection).materialize plan = .ok node ∧
        (node.findAll "wf-nav-item").map (·.label.hasClass "active") = [false, true]) ∧
    ∃ plan, builtin.resolve none (.node tabs []) = .ok plan ∧
      plan.children.map Plan.look = List.replicate 3 [(.text, "textMuted", "Regular")] ∧
      ∀ screenId selection, ∃ node,
        (Preview.target screenId selection).materialize plan = .ok node ∧
        (node.findAll "wf-tab").map (·.label.hasClass "active") = [false, false, false] := by
  intro entries tabs
  have hitems : (Value.list [.string "Home", .int 7]).texts Rule.usualEntries =
      .ok ["Home", "7"] := by
    have hseven : (Value.int 7).isWritable = true := by decide +kernel
    rw [Value.texts, List.mapM_cons, List.mapM_cons, Value.display_of_isWritable hseven]
    rfl
  constructor
  · obtain ⟨plan, hplan⟩ : ∃ plan, builtin.resolve none (.node entries []) = .ok plan :=
      Except.isOk_iff_exists.mp (by decide +kernel)
    obtain ⟨labels, k, hlabels, hk, hlooks, hshown⟩ :=
      resolve_active (List.Subset.refl builtin) rfl rfl hplan
    cases hitems.symm.trans hlabels
    cases Value.index_ok_iff.mpr hk
    refine ⟨plan, hplan, (map_eq_of_forall₂ hlooks fun _ _ _ h => h.symm).symm, ?_⟩
    intro screenId selection
    obtain ⟨node, hnode, hactive⟩ := hshown screenId selection
    exact ⟨node, hnode, (map_eq_of_forall₂ hactive fun _ _ _ h => h.symm).symm⟩
  · obtain ⟨plan, hplan⟩ : ∃ plan, builtin.resolve none (.node tabs []) = .ok plan := ⟨_, rfl⟩
    obtain ⟨labels, k, hlabels, hk, hlooks, hshown⟩ :=
      resolve_active (List.Subset.refl builtin) rfl rfl hplan
    cases hlabels
    cases Value.index_ok_iff.mpr hk
    refine ⟨plan, hplan, (map_eq_of_forall₂ hlooks fun _ _ _ h => h.symm).symm, ?_⟩
    intro screenId selection
    obtain ⟨node, hnode, hactive⟩ := hshown screenId selection
    exact ⟨node, hnode, (map_eq_of_forall₂ hactive fun _ _ _ h => h.symm).symm⟩

end Rules

end Wireframe

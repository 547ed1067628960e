import Wireframe.Proofs.Plan.Expansion
import Wireframe.Proofs.Pointwise

/-! # Plans of elements

Resolving an element has one of three outcomes: the fallback text, what a rule draws alone, or a box
around the plans of the children. From that follow the two invariants of every plan: it is built,
and the element roots in it are the shown elements in their order.
-/

namespace Wireframe

namespace Rules

variable {rules : Rules} {inherited : Option String} {plan : Plan}

theorem rule?_mem {typeName : String} {rule : Rule} (h : rules.rule? typeName = some rule) :
    rule ∈ rules ∧ rule.typeName = typeName :=
  ⟨List.mem_of_find?_eq_some h, by simpa using List.find?_some h⟩

theorem rule?_isSome_of_mem {rule : Rule} (h : rule ∈ rules) :
    (rules.rule? rule.typeName).isSome = true := by
  rw [rule?, List.find?_isSome]
  exact ⟨rule, h, by simp⟩

/-- The children of an element resolve one by one, each with the id of its place. -/
theorem resolveChildren_ok_iff {parent : Option String} {index : Nat} {es : List Element}
    {plans : List Plan} :
    resolveChildren rules parent index es = .ok plans ↔
      List.Forall₂ (fun e plan => resolve rules (childId parent e.2) e.1 = .ok plan)
        (es.zipIdx index) plans := by
  induction es generalizing index plans with
  | nil => cases plans <;> simp [resolveChildren]
  | cons e es ih =>
      cases h : resolve rules (childId parent index) e with
      | error cause => cases plans <;> simp [resolveChildren, h]
      | ok plan => cases plans <;> simp [resolveChildren, h, Except.map_ok_iff, ih, and_comm]

theorem resolveItems_ok_iff {screenId : Option String} {index : Nat} {es : List Element}
    {plans : List Plan} :
    resolveItems rules screenId index es = .ok plans ↔
      List.Forall₂ (fun e plan => rules.resolve (topLevelId screenId e.2) e.1 = .ok plan)
        (es.zipIdx index) plans := by
  induction es generalizing index plans with
  | nil => cases plans <;> simp [resolveItems]
  | cons e es ih =>
      cases h : rules.resolve (topLevelId screenId index) e with
      | error cause => cases plans <;> simp [resolveItems, h]
      | ok plan => cases plans <;> simp [resolveItems, h, Except.map_ok_iff, ih, and_comm]

/-- How an element resolves: to the fallback text where its type has no rule, and else to what the
rule expands it to. -/
theorem resolve_expands {head : ElementHead} {children : List Element}
    (h : resolve rules inherited (.node head children) = .ok plan) :
    (∃ shown, rules.rule? head.type = none ∧ Plan.fallback head = .ok shown ∧
        plan = shown.asElement (resolvedId head.id inherited) head.type true) ∨
      ∃ rule drawn, rules.rule? head.type = some rule ∧
        rule.expand ⟨head.props, rule.defaults,
          resolveChildren rules (resolvedId head.id inherited) 0 children⟩ = .ok drawn ∧
        plan = drawn.asElement (resolvedId head.id inherited) head.type false := by
  rw [resolve] at h
  cases hrule : rules.rule? head.type with
  | none =>
      simp only [hrule] at h
      obtain ⟨shown, hshown, hplan⟩ := Except.map_ok_iff.mp h
      exact .inl ⟨shown, rfl, hshown, hplan.symm⟩
  | some rule =>
      simp only [hrule] at h
      obtain ⟨drawn, hdrawn, hplan⟩ := Except.map_ok_iff.mp h
      exact .inr ⟨rule, drawn, rfl, hdrawn, hplan.symm⟩

theorem exists_fallback {head : ElementHead} (h : Plan.fallback head = .ok plan) :
    ∃ shown, plan = Plan.text shown "body" "text" {} := by
  obtain ⟨shown, _, h⟩ := Except.bind_ok_iff.mp h
  cases h
  exact ⟨shown, rfl⟩

theorem fallback_drawn {head : ElementHead} (h : Plan.fallback head = .ok plan) : plan.Drawn := by
  obtain ⟨shown, rfl⟩ := exists_fallback h
  exact .leaf rfl (Plan.own_text _ _ rfl rfl)

/-- How an element resolves with built-in rules: drawn by a rule or the fallback alone, or as a box
around the plans of its children. -/
theorem resolve_cases (hrules : rules ⊆ builtin) {head : ElementHead} {children : List Element}
    (h : resolve rules inherited (.node head children) = .ok plan) :
    (∃ drawn isFallback, drawn.Drawn ∧
        plan = Plan.asElement (resolvedId head.id inherited) head.type isFallback drawn ∧
        (head.type = "box" → rules.rule? "box" = none)) ∨
      (∃ box nested, head.type = "box" ∧
        plan = Plan.asElement (resolvedId head.id inherited) head.type false (.node box nested) ∧
        resolveChildren rules (resolvedId head.id inherited) 0 children = .ok nested ∧
        box.isContainer = true ∧ box.layout.direction.isSome = true ∧ box.IsOwn) := by
  rcases resolve_expands h with ⟨drawn, hrule, hdrawn, hplan⟩ | ⟨rule, drawn, hrule, hdrawn, hplan⟩
  · exact .inl ⟨drawn, true, fallback_drawn hdrawn, hplan, fun hbox => by rw [← hbox, hrule]⟩
  · obtain ⟨hmem, htype⟩ := rule?_mem hrule
    by_cases hbox : rule.typeName = "box"
    · rw [Rule.eq_boxRule (hrules hmem) hbox] at hdrawn
      obtain ⟨box, nested, rfl, hnested, hkind⟩ := Rule.boxRule_expand hdrawn
      exact .inr ⟨box, nested, htype ▸ hbox, hplan, hnested, hkind⟩
    · exact .inl ⟨drawn, false, Rule.expand_drawn (hrules hmem) hbox hdrawn, hplan,
        fun h => absurd (htype.trans h) hbox⟩

/-- Every plan of an element is built: of roots of elements, and of nodes that rules draw. -/
theorem resolve_resolved (hrules : rules ⊆ builtin) {e : Element}
    (h : resolve rules inherited e = .ok plan) : plan.Built PlanHead.IsResolved := by
  induction e using Tree.induct generalizing inherited plan with
  | node head children ih =>
      rcases resolve_cases hrules h with ⟨drawn, isFallback, hdrawn, rfl, -⟩ |
        ⟨frame, nested, -, rfl, hnested, hkind, hdirection, own⟩
      · exact hdrawn.asElement _ _ _
      · refine .container hkind hdirection (own.resolved_root _ _ _) ?_
        intro part hpart
        obtain ⟨e, he, hresolve⟩ :=
          exists_of_forall₂_of_mem (resolveChildren_ok_iff.mp hnested) hpart
        exact ih e.1 (List.fst_mem_of_mem_zipIdx he) hresolve

theorem resolveScreen_resolved {α : Type} (hrules : rules ⊆ builtin) {screen : Screen α}
    {plans : List Plan} (h : rules.resolveScreen screen = .ok plans) :
    ∀ plan ∈ plans, plan.Built PlanHead.IsResolved := by
  intro plan hplan
  obtain ⟨e, _, hresolve⟩ := exists_of_forall₂_of_mem (resolveItems_ok_iff.mp h) hplan
  exact resolve_resolved hrules hresolve

theorem resolve_sound (hrules : rules ⊆ builtin) {e : Element}
    (h : resolve rules inherited e = .ok plan) : plan.Built PlanHead.IsSound :=
  (resolve_resolved hrules h).mono fun _ resolved => resolved.toIsSound

theorem resolve_built (hrules : rules ⊆ builtin) {e : Element}
    (h : resolve rules inherited e = .ok plan) : plan.Built (·.role ≠ "element") :=
  (resolve_sound hrules h).mono fun _ sound => sound.role_ne_element

end Rules

end Wireframe

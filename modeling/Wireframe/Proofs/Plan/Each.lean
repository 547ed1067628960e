import Wireframe.Proofs.Plan.Resolved

/-! # Conditions on drawn elements

`Element.Each` asks something of every element that has a rule: of an element and, below a box, of
the elements inside it. Checking every node of a plan amounts to such a condition when the check
reads it off the root of what a rule draws and passes the nodes below.
-/

namespace Wireframe

/-- Something is asked of an element and, below a box, of the elements inside it. Nothing is asked
of an element that becomes a fallback text. -/
inductive Element.Each (rules : Rules) (P : ElementHead → Prop) : Element → Prop where
  | fallback {head : ElementHead} {children : List Element}
      (unknown : rules.rule? head.type = none) : Each rules P (.node head children)
  | drawn {head : ElementHead} {children : List Element} (own : P head)
      (below : head.type = "box" → ∀ child ∈ children, Each rules P child) :
      Each rules P (.node head children)

theorem Element.each_iff {rules : Rules} {P : ElementHead → Prop} {head : ElementHead}
    {children : List Element} (hknown : (rules.rule? head.type).isSome = true) :
    Each rules P (.node head children) ↔
      P head ∧ (head.type = "box" → ∀ child ∈ children, Each rules P child) := by
  constructor
  · intro h
    cases h with
    | fallback unknown => simp [unknown] at hknown
    | drawn own below => exact ⟨own, below⟩
  · exact fun h => .drawn h.1 h.2

namespace Rules

variable {rules : Rules} {inherited : Option String} {plan : Plan} {check : PlanHead → Bool}
  {P : ElementHead → Prop}

/-- A check of plan nodes that reads a condition on an element off the root of what its rule draws:
marking that root changes nothing, and the other nodes that rules draw pass. -/
structure Reads (check : PlanHead → Bool) (P : ElementHead → Prop) : Prop where
  root : ∀ {rule : Rule} {head : ElementHead} {children : Except ResolveError (List Plan)}
    {drawn : Plan}, rule ∈ builtin → rule.typeName = head.type →
      rule.expand ⟨head.props, rule.defaults, children⟩ = .ok drawn →
      (check drawn.label = true ↔ P head)
  marked : ∀ (head : PlanHead) (id : Option String) (type : String) (isFallback : Bool),
    check { head with elementId := id, elementType := type, isElement := true, isFallback } =
      check head
  fixed : ∀ head : PlanHead, head.IsFixed → check head = true
  fallback : ∀ shown : String, check (Plan.text shown "body" "text" {}).label = true

theorem Reads.all_asElement (reads : Reads check P) (id : Option String) (type : String)
    (isFallback : Bool) (drawn : Plan) :
    (drawn.asElement id type isFallback).walk.all check =
      (check drawn.label && (drawn.children.flatMap Plan.walk).all check) := by
  obtain ⟨head, parts⟩ := drawn
  rw [Plan.asElement, Tree.mapRoot, Plan.walk, Tree.preorder_node, List.all_cons, reads.marked]
  rfl

theorem Reads.all_of_drawn (reads : Reads check P) {drawn : Plan} (h : drawn.Drawn) :
    (drawn.children.flatMap Plan.walk).all check = true := by
  rw [List.all_eq_true]
  intro below hbelow
  obtain ⟨part, hpart, hbelow⟩ := List.mem_flatMap.mp hbelow
  exact reads.fixed below ((h.parts part hpart).of_mem_walk below hbelow)

/-- Every node of an element's plan passes exactly when the condition holds wherever an element is
drawn. -/
theorem walk_all_iff (reads : Reads check P) (hrules : rules ⊆ builtin) {e : Element}
    (h : resolve rules inherited e = .ok plan) : plan.walk.all check = true ↔ e.Each rules P := by
  induction e using Tree.induct generalizing inherited plan with
  | node head children ih =>
      rcases resolve_expands h with ⟨drawn, hrule, hdrawn, rfl⟩ | ⟨rule, drawn, hrule, hdrawn, rfl⟩
      · obtain ⟨shown, rfl⟩ := exists_fallback hdrawn
        rw [reads.all_asElement, reads.fallback, reads.all_of_drawn (fallback_drawn hdrawn)]
        exact iff_of_true rfl (.fallback hrule)
      · obtain ⟨hmem, htype⟩ := rule?_mem hrule
        rw [Element.each_iff (by rw [hrule]; rfl), ← reads.root (hrules hmem) htype hdrawn,
          reads.all_asElement, Bool.and_eq_true]
        refine and_congr Iff.rfl ?_
        by_cases hbox : rule.typeName = "box"
        · rw [Rule.eq_boxRule (hrules hmem) hbox] at hdrawn
          obtain ⟨box, nested, rfl, hnested, -⟩ := Rule.boxRule_expand hdrawn
          have hbelow := forall_mem_iff_of_forall₂ (resolveChildren_ok_iff.mp hnested)
            fun e he part hpart => (ih e.1 (List.fst_mem_of_mem_zipIdx he) hpart).symm
          rw [Tree.children_node, List.all_flatMap, List.all_eq_true, ← hbelow, forall_mem_zipIdx]
          exact ⟨fun h _ => h, fun h => h (htype ▸ hbox)⟩
        · have hother : head.type ≠ "box" := fun h => hbox (htype.trans h)
          exact iff_of_true (reads.all_of_drawn (Rule.expand_drawn (hrules hmem) hbox hdrawn))
            fun h => absurd h hother

end Rules

end Wireframe

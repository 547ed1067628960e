import Mathlib.Data.List.Forall2
import Wireframe.Plan.Basic
import Wireframe.Proofs.Plan.Built

/-! # What a target made

The inversion of `Target.materialize`: a leaf is the target's leaf, a container the target's
container around the nodes of all its parts in order, each with its layout applied. A plan can be
drawn when every node of it can (`materialize_isOk`); where only leaves fail, the first one that does
gives the cause (`materialize_error?`).
-/

namespace Wireframe.Target

variable {ε ν : Type} {target : Target ε ν} {head : PlanHead} {parts : List Plan} {node : ν}

theorem materializeAll_ok_iff {plans : List Plan} {nodes : List ν} :
    target.materializeAll plans = .ok nodes ↔
      List.Forall₂ (fun plan node => target.materialize plan = .ok node) plans nodes := by
  induction plans generalizing nodes with
  | nil => cases nodes <;> simp [materializeAll]
  | cons plan plans ih =>
      cases h : target.materialize plan with
      | error cause => cases nodes <;> simp [materializeAll, h]
      | ok node => cases nodes <;> simp [materializeAll, h, Except.map_ok_iff, ih, and_comm]

theorem materialize_leaf_ok_iff (hleaf : head.isContainer = false) :
    target.materialize (.node head parts) = .ok node ↔
      ∃ bare, target.leaf head = .ok bare ∧ target.layout head bare = node := by
  rw [materialize, if_neg (by simp [hleaf]), Except.map_ok_iff]

theorem materialize_container_ok_iff (hcontainer : head.isContainer = true) :
    target.materialize (.node head parts) = .ok node ↔
      ∃ nodes bare, List.Forall₂ (fun plan node => target.materialize plan = .ok node) parts nodes ∧
        target.container head nodes = .ok bare ∧ target.layout head bare = node := by
  rw [materialize, if_pos hcontainer]
  simp only [← materializeAll_ok_iff]
  cases h : target.materializeAll parts with
  | error cause => simp
  | ok nodes => simp [Except.map_ok_iff]

theorem materializeAll_isOk (target : Target ε ν) (plans : List Plan) :
    (target.materializeAll plans).isOk = plans.all fun plan => (target.materialize plan).isOk := by
  induction plans with
  | nil => rfl
  | cons plan plans ih =>
      rw [materializeAll, List.all_cons, ← ih]
      cases h : target.materialize plan with
      | error cause => rfl
      | ok node => rw [Except.isOk_map, Except.isOk_ok, Bool.true_and]

theorem materialize_leaf_isOk (hleaf : head.isContainer = false) :
    (target.materialize (.node head parts)).isOk = (target.leaf head).isOk := by
  rw [materialize, if_neg (by simp [hleaf]), Except.isOk_map]

/-- A container can be drawn when its parts can, if it does not matter what they are drawn as. -/
theorem materialize_container_isOk (hcontainer : head.isContainer = true) {draws : Bool}
    (h : ∀ nodes, (target.container head nodes).isOk = draws) :
    (target.materialize (.node head parts)).isOk =
      (draws && parts.all fun part => (target.materialize part).isOk) := by
  rw [materialize, if_pos hcontainer, ← materializeAll_isOk]
  cases hparts : target.materializeAll parts with
  | error cause => simp
  | ok nodes => rw [Except.isOk_map, h nodes, Except.isOk_ok, Bool.and_true]

theorem materialize_isOk {P : PlanHead → Prop} {draws : PlanHead → Bool}
    (leaf : ∀ head, P head → head.isContainer = false → (target.leaf head).isOk = draws head)
    (container : ∀ head nodes, P head → head.isContainer = true →
      (target.container head nodes).isOk = draws head)
    {plan : Plan} (built : plan.Built P) :
    (target.materialize plan).isOk = plan.walk.all draws := by
  induction built with
  | @leaf head kind holds =>
      rw [materialize_leaf_isOk kind, leaf head holds kind, Plan.walk, Tree.preorder_node]
      simp
  | @container head parts kind _ holds _ ih =>
      rw [materialize_container_isOk kind fun nodes => container head nodes holds kind, Plan.walk,
        Tree.preorder_node, List.all_cons, List.all_flatMap]
      rw [Bool.eq_iff_iff]
      simp only [Bool.and_eq_true, List.all_eq_true]
      refine and_congr_right fun _ => forall₂_congr fun part hpart => ?_
      rw [ih part hpart, Plan.walk, List.all_eq_true]

section Causes

variable {P : PlanHead → Prop} {failure : PlanHead → Option ε}

theorem materializeAll_error? {parts : List Plan}
    (h : ∀ part ∈ parts, (target.materialize part).error? = part.walk.findSome? failure) :
    (target.materializeAll parts).error? = (parts.flatMap Plan.walk).findSome? failure := by
  induction parts with
  | nil => rfl
  | cons part parts ih =>
      rw [List.forall_mem_cons] at h
      rw [materializeAll, List.flatMap_cons, List.findSome?_append, ← h.1, ← ih h.2]
      cases target.materialize part with
      | error cause => rfl
      | ok node => exact Except.error?_map _ _

/-- Where no container fails, the first node of the walk that does gives the cause. -/
theorem materialize_error?
    (leaf : ∀ head, P head → head.isContainer = false → (target.leaf head).error? = failure head)
    (container : ∀ head nodes, P head → head.isContainer = true →
      (target.container head nodes).error? = none)
    (contained : ∀ head, head.isContainer = true → failure head = none)
    {plan : Plan} (built : plan.Built P) :
    (target.materialize plan).error? = plan.walk.findSome? failure := by
  induction built with
  | @leaf head kind holds =>
      rw [materialize, if_neg (by simp [kind]), Except.error?_map, leaf head holds kind, Plan.walk,
        Tree.preorder_node, List.flatMap_nil, List.findSome?_cons]
      cases failure head <;> rfl
  | @container head parts kind _ holds _ ih =>
      have hparts : (target.materializeAll parts).error? =
          (Plan.walk (.node head parts)).findSome? failure := by
        rw [materializeAll_error? ih, Plan.walk, Tree.preorder_node, List.findSome?_cons,
          contained head kind]
        rfl
      rw [materialize, if_pos kind, ← hparts]
      cases hnodes : target.materializeAll parts with
      | error cause => rfl
      | ok nodes => exact (Except.error?_map _ _).trans (container head nodes holds kind)

theorem materialize_congr {other : Target ε ν} (container : target.container = other.container)
    (layout : target.layout = other.layout) {plan : Plan}
    (leaf : ∀ head ∈ plan.walk, target.leaf head = other.leaf head) :
    target.materialize plan = other.materialize plan := by
  induction plan using Tree.induct with
  | node head parts ih =>
      rw [Plan.walk, Tree.preorder_node, List.forall_mem_cons, List.forall_mem_flatMap] at leaf
      have hparts : target.materializeAll parts = other.materializeAll parts := by
        induction parts with
        | nil => rfl
        | cons part parts ihParts =>
            rw [List.forall_mem_cons] at ih
            rw [materializeAll, materializeAll, ih.1 (leaf.2 part List.mem_cons_self),
              ihParts ih.2 ⟨leaf.1, fun part hpart => leaf.2 part (List.mem_cons_of_mem _ hpart)⟩]
      rw [materialize, materialize, leaf.1, hparts, container, layout]

end Causes

end Wireframe.Target

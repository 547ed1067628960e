import Mathlib.Data.List.Forall2

/-! # Lists related item by item

What `List.Forall₂` says of members, of indices, and of lists that stand for their items.
-/

namespace Wireframe

/-- Of two lists related item by item, every item of the second is related to one of the first. -/
theorem exists_of_forall₂_of_mem {α β : Type} {R : α → β → Prop} {as : List α} {bs : List β}
    (h : List.Forall₂ R as bs) {b : β} (hb : b ∈ bs) : ∃ a ∈ as, R a b := by
  induction h with
  | nil => cases hb
  | cons hr _ ih =>
      rcases List.mem_cons.mp hb with rfl | hb
      · exact ⟨_, List.mem_cons_self, hr⟩
      · obtain ⟨a, ha, hab⟩ := ih hb
        exact ⟨a, List.mem_cons_of_mem _ ha, hab⟩

theorem forall₂_trans {α β γ : Type} {R : α → β → Prop} {S : β → γ → Prop} {T : α → γ → Prop}
    {as : List α} {bs : List β} {cs : List γ} (hR : List.Forall₂ R as bs)
    (hS : List.Forall₂ S bs cs) (h : ∀ a b c, R a b → S b c → T a c) : List.Forall₂ T as cs := by
  induction hR generalizing cs with
  | nil => cases hS; exact .nil
  | cons hab _ ih =>
      cases hS with
      | cons hbc hrest => exact .cons (h _ _ _ hab hbc) (ih hrest)

/-- Of two lists related item by item, the lists that the items stand for are related when those of
related items are. -/
theorem forall₂_flatMap {α β γ δ : Type} {R : α → β → Prop} {S : γ → δ → Prop} {f : α → List γ}
    {g : β → List δ} {as : List α} {bs : List β} (h : List.Forall₂ R as bs)
    (hfg : ∀ a ∈ as, ∀ b, R a b → List.Forall₂ S (f a) (g b)) :
    List.Forall₂ S (as.flatMap f) (bs.flatMap g) := by
  induction h with
  | nil => exact .nil
  | cons hr _ ih =>
      rw [List.flatMap_cons, List.flatMap_cons]
      exact List.rel_append (hfg _ List.mem_cons_self _ hr)
        (ih fun a ha => hfg a (List.mem_cons_of_mem _ ha))

/-- Of two lists related item by item, related items that stand for the same give the same list. -/
theorem map_eq_of_forall₂ {α β γ : Type} {R : α → β → Prop} {f : α → γ} {g : β → γ} {as : List α}
    {bs : List β} (h : List.Forall₂ R as bs) (hfg : ∀ a ∈ as, ∀ b, R a b → f a = g b) :
    as.map f = bs.map g := by
  induction h with
  | nil => rfl
  | cons hr _ ih =>
      rw [List.map_cons, List.map_cons, hfg _ List.mem_cons_self _ hr,
        ih fun a ha => hfg a (List.mem_cons_of_mem _ ha)]

/-- What is said of all items of one list is said of all items of the other, when it is said of both
or neither of two related items. -/
theorem forall_mem_iff_of_forall₂ {α β : Type} {R : α → β → Prop} {p : α → Prop} {q : β → Prop}
    {as : List α} {bs : List β} (h : List.Forall₂ R as bs)
    (hpq : ∀ a ∈ as, ∀ b, R a b → (p a ↔ q b)) :
    (∀ a ∈ as, p a) ↔ ∀ b ∈ bs, q b := by
  induction h with
  | nil => simp
  | cons hr _ ih =>
      rw [List.forall_mem_cons, List.forall_mem_cons, hpq _ List.mem_cons_self _ hr,
        ih fun a ha => hpq a (List.mem_cons_of_mem _ ha)]

theorem forall_mem_zipIdx {α : Type} {p : α → Prop} {as : List α} {index : Nat} :
    (∀ a ∈ as.zipIdx index, p a.1) ↔ ∀ a ∈ as, p a := by
  rw [← List.forall_mem_map, List.zipIdx_map_fst]

theorem forall₂_getElem? {α β : Type} {R : α → β → Prop} {xs : List α} {ys : List β}
    (h : List.Forall₂ R xs ys) {i : Nat} {x : α} {y : β} (hx : xs[i]? = some x)
    (hy : ys[i]? = some y) : R x y := by
  induction h generalizing i with
  | nil => simp at hx
  | cons hhead _ ih =>
      cases i with
      | zero =>
          cases hx
          cases hy
          exact hhead
      | succ i => exact ih hx hy

/-- A list is related item by item to what becomes of each item at its index. -/
theorem forall₂_zipIdx_mapIdx {β γ : Type} {R : β × Nat → γ → Prop} {f : Nat → β → γ} {bs : List β}
    (h : ∀ i b, R (b, i) (f i b)) : List.Forall₂ R bs.zipIdx (bs.mapIdx f) := by
  rw [List.mapIdx_eq_zipIdx_map, List.forall₂_map_right_iff, List.forall₂_same]
  intro entry _
  exact h entry.2 entry.1

theorem eq_of_forall₂_zipIdx {β : Type} {R : β × Nat → β → Prop} {bs cs : List β}
    (h : List.Forall₂ R bs.zipIdx cs) (heq : ∀ b ∈ bs, ∀ i c, R (b, i) c → c = b) : cs = bs := by
  have hsame : bs.zipIdx.map Prod.fst = cs.map fun c => c := by
    apply map_eq_of_forall₂ h
    intro entry hentry c hc
    exact (heq entry.1 (List.fst_mem_of_mem_zipIdx hentry) entry.2 c hc).symm
  rw [List.zipIdx_map_fst, List.map_id'] at hsame
  exact hsame.symm

theorem mapIdx_eq_of_forall₂ {α β γ : Type} {f : Nat → α → γ} {g : Nat → β → γ} {as : List α}
    {bs : List β} (h : List.Forall₂ (fun a b => ∀ i, f i a = g i b) as bs) :
    as.mapIdx f = bs.mapIdx g := by
  have hlength : as.length = bs.length := h.length_eq
  apply List.ext_getElem?
  intro i
  rw [List.getElem?_mapIdx, List.getElem?_mapIdx]
  by_cases hi : i < as.length
  · have ha := List.getElem?_eq_getElem hi
    have hb := List.getElem?_eq_getElem (show i < bs.length by omega)
    rw [ha, hb, Option.map_some, Option.map_some, forall₂_getElem? h ha hb i]
  · rw [List.getElem?_eq_none (by omega), List.getElem?_eq_none (by omega)]
    rfl

end Wireframe

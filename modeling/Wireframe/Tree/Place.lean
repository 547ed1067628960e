import Wireframe.Tree

/-! # Places in a tree

A place in a tree is the list of child indices on the way down to it. `Tree.subtree?` goes there;
`Tree.located` lists every subtree in preorder together with its place.
-/

namespace Wireframe.Tree

variable {α : Type}

/-- The subtree at a place; none where the way leaves the tree. -/
def subtree? (t : Tree α) : List Nat → Option (Tree α)
  | [] => some t
  | i :: place => t.children[i]?.bind fun child => child.subtree? place

def among? (ts : List (Tree α)) : List Nat → Option (Tree α)
  | [] => none
  | i :: place => ts[i]?.bind fun t => t.subtree? place

mutual

/-- Every subtree with its place, the tree itself first. -/
def located : Tree α → List (List Nat × Tree α)
  | node a ts => ([], node a ts) :: locatedFrom 0 ts

def locatedFrom (index : Nat) : List (Tree α) → List (List Nat × Tree α)
  | [] => []
  | t :: ts => (located t).map (Prod.map (index :: ·) id) ++ locatedFrom (index + 1) ts

end

theorem subtree?_cons (a : α) (ts : List (Tree α)) (i : Nat) (place : List Nat) :
    (node a ts).subtree? (i :: place) = among? ts (i :: place) := rfl

/-- Below a list of trees stand the subtrees of each tree, their places beginning with its index. -/
theorem mem_locatedFrom {index : Nat} {ts : List (Tree α)} {site : List Nat × Tree α}
    (h : site ∈ locatedFrom index ts) :
    ∃ i t place, ts[i]? = some t ∧ (place, site.2) ∈ t.located ∧ site.1 = (index + i) :: place := by
  induction ts generalizing index with
  | nil => cases h
  | cons t ts ih =>
      rw [locatedFrom, List.mem_append] at h
      cases h with
      | inl here =>
          obtain ⟨⟨place, below⟩, hbelow, rfl⟩ := List.mem_map.mp here
          exact ⟨0, t, place, rfl, hbelow, rfl⟩
      | inr later =>
          obtain ⟨i, t', place, hi, hbelow, hplace⟩ := ih later
          refine ⟨i + 1, t', place, hi, hbelow, ?_⟩
          rw [hplace, Nat.add_assoc, Nat.add_comm 1]

theorem map_snd_locatedFrom {index : Nat} {ts : List (Tree α)}
    (h : ∀ t ∈ ts, t.located.map Prod.snd = t.subtrees) :
    (locatedFrom index ts).map Prod.snd = ts.flatMap subtrees := by
  induction ts generalizing index with
  | nil => rfl
  | cons t ts ih =>
      rw [List.forall_mem_cons] at h
      rw [locatedFrom, List.map_append, List.map_map, ih h.2, List.flatMap_cons, ← h.1]
      rfl

theorem map_snd_located (t : Tree α) : t.located.map Prod.snd = t.subtrees := by
  induction t using induct with
  | node a ts ih => rw [located, List.map_cons, map_snd_locatedFrom ih, subtrees_node]

theorem among?_of_mem {ts : List (Tree α)}
    (h : ∀ t ∈ ts, ∀ site ∈ t.located, t.subtree? site.1 = some site.2)
    {site : List Nat × Tree α} (hsite : site ∈ locatedFrom 0 ts) :
    among? ts site.1 = some site.2 := by
  obtain ⟨i, t, place, hi, hbelow, hplace⟩ := mem_locatedFrom hsite
  rw [hplace, Nat.zero_add, among?, hi, Option.bind_some]
  exact h t (List.mem_of_getElem? hi) _ hbelow

theorem subtree?_of_mem_located {t : Tree α} {site : List Nat × Tree α}
    (h : site ∈ t.located) : t.subtree? site.1 = some site.2 := by
  induction t using induct generalizing site with
  | node a ts ih =>
      rw [located, List.mem_cons] at h
      cases h with
      | inl hroot => rw [hroot, subtree?]
      | inr hbelow =>
          obtain ⟨i, t, place, -, -, hplace⟩ := mem_locatedFrom hbelow
          have hamong := among?_of_mem (fun t ht site hsite => ih t ht hsite) hbelow
          rw [hplace] at hamong ⊢
          rw [subtree?_cons, hamong]

theorem nodup_locatedFrom {index : Nat} {ts : List (Tree α)}
    (h : ∀ t ∈ ts, (t.located.map Prod.fst).Nodup) :
    ((locatedFrom index ts).map Prod.fst).Nodup := by
  induction ts generalizing index with
  | nil => exact List.nodup_nil
  | cons t ts ih =>
      rw [List.forall_mem_cons] at h
      have hhere : ((t.located.map (Prod.map (index :: ·) id)).map Prod.fst) =
          (t.located.map Prod.fst).map (index :: ·) := by
        rw [List.map_map, List.map_map]
        rfl
      rw [locatedFrom, List.map_append, hhere, List.nodup_append]
      refine ⟨List.pairwise_map.mpr (h.1.imp fun hne heq => hne (List.cons.inj heq).2),
        ih h.2, ?_⟩
      -- The places below a tree begin with its index, and later trees have greater ones.
      intro place hplace other hother
      obtain ⟨rest, -, rfl⟩ := List.mem_map.mp hplace
      obtain ⟨site, hsite, rfl⟩ := List.mem_map.mp hother
      obtain ⟨i, t', rest', -, -, hplace⟩ := mem_locatedFrom hsite
      intro heq
      rw [hplace] at heq
      have hindex := (List.cons.inj heq).1
      omega

theorem nodup_located (t : Tree α) : (t.located.map Prod.fst).Nodup := by
  induction t using induct with
  | node a ts ih =>
      rw [located, List.map_cons, List.nodup_cons]
      refine ⟨fun hmem => ?_, nodup_locatedFrom ih⟩
      obtain ⟨site, hsite, hroot⟩ := List.mem_map.mp hmem
      obtain ⟨i, t, place, -, -, hplace⟩ := mem_locatedFrom hsite
      rw [hplace] at hroot
      cases hroot

end Wireframe.Tree

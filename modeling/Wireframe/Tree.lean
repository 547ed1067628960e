/-! # Ordered trees

Elements, plans and markup are all ordered trees: a label and a list of subtrees. The traversals
that the rest of the library speaks about are here, each with the equation that its companion over
lists of trees satisfies.
-/

namespace Wireframe

inductive Tree (α : Type) where
  | node (label : α) (children : List (Tree α))

namespace Tree

variable {α β : Type}

def label : Tree α → α
  | node a _ => a

def children : Tree α → List (Tree α)
  | node _ ts => ts

def mapRoot (f : α → α) : Tree α → Tree α
  | node a ts => node (f a) ts

mutual

/-- The labels, a node before its subtrees and the subtrees in order. -/
def preorder : Tree α → List α
  | node a ts => a :: preorderAll ts

def preorderAll : List (Tree α) → List α
  | [] => []
  | t :: ts => preorder t ++ preorderAll ts

end

mutual

def subtrees : Tree α → List (Tree α)
  | node a ts => node a ts :: subtreesAll ts

def subtreesAll : List (Tree α) → List (Tree α)
  | [] => []
  | t :: ts => subtrees t ++ subtreesAll ts

end

mutual

/-- The number of nodes on the longest path from the root. -/
def height : Tree α → Nat
  | node _ ts => heightAll ts + 1

def heightAll : List (Tree α) → Nat
  | [] => 0
  | t :: ts => max (height t) (heightAll ts)

end

mutual

def map (f : α → β) : Tree α → Tree β
  | node a ts => node (f a) (mapAll f ts)

def mapAll (f : α → β) : List (Tree α) → List (Tree β)
  | [] => []
  | t :: ts => map f t :: mapAll f ts

end

@[simp] theorem label_node (a : α) (ts : List (Tree α)) : (node a ts).label = a := rfl

@[simp] theorem children_node (a : α) (ts : List (Tree α)) : (node a ts).children = ts := rfl

@[simp] theorem node_label_children (t : Tree α) : node t.label t.children = t := by
  cases t; rfl

@[simp] theorem label_mapRoot (f : α → α) (t : Tree α) : (t.mapRoot f).label = f t.label := by
  cases t; rfl

theorem preorderAll_eq_flatMap (ts : List (Tree α)) : preorderAll ts = ts.flatMap preorder := by
  induction ts with
  | nil => rfl
  | cons t ts ih => simp [preorderAll, ih]

theorem preorder_node (a : α) (ts : List (Tree α)) :
    preorder (node a ts) = a :: ts.flatMap preorder := by
  simp [preorder, preorderAll_eq_flatMap]

theorem subtreesAll_eq_flatMap (ts : List (Tree α)) : subtreesAll ts = ts.flatMap subtrees := by
  induction ts with
  | nil => rfl
  | cons t ts ih => simp [subtreesAll, ih]

theorem subtrees_node (a : α) (ts : List (Tree α)) :
    subtrees (node a ts) = node a ts :: ts.flatMap subtrees := by
  simp [subtrees, subtreesAll_eq_flatMap]

theorem mapAll_eq_map (f : α → β) (ts : List (Tree α)) : mapAll f ts = ts.map (map f) := by
  induction ts with
  | nil => rfl
  | cons t ts ih => simp [mapAll, ih]

theorem map_node (f : α → β) (a : α) (ts : List (Tree α)) :
    map f (node a ts) = node (f a) (ts.map (map f)) := by
  simp [map, mapAll_eq_map]

/-- Induction over trees: a property of all subtrees of a list passes to the node above it. -/
theorem induct {motive : Tree α → Prop}
    (node : ∀ a ts, (∀ t ∈ ts, motive t) → motive (node a ts)) (t : Tree α) : motive t :=
  @Tree.rec α motive (fun ts => ∀ t ∈ ts, motive t)
    (fun a ts ih => node a ts ih)
    (by simp)
    (fun t ts ht hts => by simpa using ⟨ht, hts⟩) t

theorem forall_mem_preorder_node {p : α → Prop} {a : α} {ts : List (Tree α)} :
    (∀ b ∈ preorder (node a ts), p b) ↔ p a ∧ ∀ t ∈ ts, ∀ b ∈ preorder t, p b := by
  rw [preorder_node, List.forall_mem_cons]
  simp only [List.mem_flatMap]
  constructor
  · rintro ⟨hroot, hbelow⟩
    exact ⟨hroot, fun t ht b hb => hbelow b ⟨t, ht, hb⟩⟩
  · rintro ⟨hroot, hbelow⟩
    exact ⟨hroot, fun b ⟨t, ht, hb⟩ => hbelow t ht b hb⟩

theorem height_node (a : α) (ts : List (Tree α)) : height (node a ts) = heightAll ts + 1 := rfl

theorem heightAll_le_iff {ts : List (Tree α)} {n : Nat} :
    heightAll ts ≤ n ↔ ∀ t ∈ ts, t.height ≤ n := by
  induction ts with
  | nil => simp [heightAll]
  | cons t ts ih => rw [heightAll, Nat.max_le, ih, List.forall_mem_cons]

theorem height_le_heightAll {t : Tree α} {ts : List (Tree α)} (h : t ∈ ts) :
    t.height ≤ heightAll ts :=
  heightAll_le_iff.mp (Nat.le_refl _) t h

theorem height_mapRoot (f : α → α) (t : Tree α) : (t.mapRoot f).height = t.height := by
  cases t; rfl

theorem map_congr {f g : α → β} {t : Tree α} (h : ∀ a ∈ t.preorder, f a = g a) :
    t.map f = t.map g := by
  induction t using induct with
  | node a ts ih =>
      rw [preorder_node, List.forall_mem_cons] at h
      rw [map_node, map_node, h.1]
      congr 1
      refine List.map_congr_left fun t ht => ih t ht fun b hb => ?_
      exact h.2 b (List.mem_flatMap_of_mem ht hb)

end Tree

end Wireframe

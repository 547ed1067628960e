import Mathlib.Data.List.Induction
import Mathlib.Data.List.Nodup
import Wireframe.Proofs.Plan.Roots
import Wireframe.Proofs.Spec.Identity

/-! # Ids that places give

An element without an id of its own is named after its place: the screen, its number on the screen,
and an index for every box that it is nested in. A name ends in a dash and digits, and before the
numbers of a name stands a word, so it tells its place even where a screen is named like an element
of another. The ids of a whole document then differ because the places do.
-/

namespace Wireframe

/-- Where an element stands: on a screen, under a number, and from there by the indices of the
nested elements down to it. -/
structure Place where
  screen : String
  number : Nat
  path : List Nat

namespace Place

def top (screen : String) (number : Nat) : Place := ⟨screen, number, []⟩

def below (p : Place) (index : Nat) : Place := { p with path := p.path ++ [index] }

def id (p : Place) : String :=
  p.path.foldl (fun id index => s!"{id}-{index}") (elementId p.screen p.number)

theorem id_top (screen : String) (number : Nat) :
    (top screen number).id = elementId screen number := rfl

theorem id_below (p : Place) (index : Nat) : (p.below index).id = s!"{p.id}-{index}" := by
  simp [id, below]

/-- Every place is reached from the top, one index after the other. -/
theorem induct {motive : Place → Prop} (top : ∀ screen number, motive (top screen number))
    (below : ∀ p index, motive p → motive (p.below index)) (p : Place) : motive p := by
  obtain ⟨screen, number, path⟩ := p
  induction path using List.reverseRec with
  | nil => exact top screen number
  | append_singleton path index ih => exact below _ index ih

/-! ## A place is read off its id -/

/-- The text ends in a dash and a number. -/
def EndsIn (s : String) (front : List Char) (n : Nat) : Prop :=
  s.toList = front ++ '-' :: Nat.toDigits 10 n

theorem endsIn_top (screen : String) (number : Nat) :
    EndsIn (top screen number).id (screen.toList ++ ['-', 'e', 'l']) number := by
  simp [EndsIn, id_top, elementId, toString]

theorem endsIn_below (p : Place) (index : Nat) : EndsIn (p.below index).id p.id.toList index := by
  simp [EndsIn, id_below, toString]

theorem endsIn_id (p : Place) : ∃ front n, EndsIn p.id front n := by
  induction p using induct with
  | top screen number => exact ⟨_, _, endsIn_top screen number⟩
  | below p index _ => exact ⟨_, _, endsIn_below p index⟩

variable {s : String} {front front' : List Char} {m n : Nat}

theorem EndsIn.ne_empty (h : EndsIn s front n) : s ≠ "" := by
  rintro rfl
  simp [EndsIn] at h

/-- The digits after a dash, read from the end. -/
theorem takeWhile_reverse_dash (front : List Char) (n : Nat) :
    (front ++ '-' :: Nat.toDigits 10 n).reverse.takeWhile (· != '-') =
      (Nat.toDigits 10 n).reverse := by
  have hdigits : ∀ c ∈ (Nat.toDigits 10 n).reverse, (c != '-') = true := by
    intro c hc
    have hdigit := Nat.isDigit_of_mem_toDigits (by decide) (by decide) (List.mem_reverse.mp hc)
    rw [bne_iff_ne]
    rintro rfl
    exact absurd hdigit (by decide)
  rw [List.reverse_append, List.reverse_cons, List.append_assoc, List.singleton_append,
    List.takeWhile_append_of_pos hdigits, List.takeWhile_cons_of_neg (by decide), List.append_nil]

/-- The last dash of a text parts it in one way. -/
theorem EndsIn.inj (h : EndsIn s front m) (h' : EndsIn s front' n) : front = front' ∧ m = n := by
  have hsame : front ++ '-' :: Nat.toDigits 10 m = front' ++ '-' :: Nat.toDigits 10 n :=
    h.symm.trans h'
  have hdigits : Nat.toDigits 10 m = Nat.toDigits 10 n := by
    rw [← List.reverse_inj, ← takeWhile_reverse_dash front, hsame, takeWhile_reverse_dash]
  obtain rfl : m = n := toString_nat_inj (congrArg String.ofList hdigits)
  exact ⟨List.append_cancel_right hsame, rfl⟩

theorem EndsIn.getLast?_isDigit (h : EndsIn s front n) : ∀ c ∈ s.toList.getLast?, c.isDigit := by
  have hne : Nat.toDigits 10 n ≠ [] := Nat.toDigits_ne_nil
  intro c hc
  rw [h, List.getLast?_append_cons, List.getLast?_cons_of_ne_nil hne] at hc
  exact Nat.isDigit_of_mem_toDigits (by decide) (by decide) (List.mem_of_getLast? hc)

/-- The word before the number of a top-level element is no number. -/
theorem id_ne_word (p : Place) (screen : String) :
    p.id.toList ≠ screen.toList ++ ['-', 'e', 'l'] := by
  obtain ⟨front, n, hends⟩ := endsIn_id p
  intro hword
  have hlast := hends.getLast?_isDigit 'l' (by simp [hword])
  exact absurd hlast (by decide)

theorem id_injective : Function.Injective id := by
  intro p q h
  induction p using induct generalizing q with
  | top screen number =>
      have hends := endsIn_top screen number
      rw [h] at hends
      induction q using induct with
      | top screen' number' =>
          obtain ⟨hscreen, rfl⟩ := hends.inj (endsIn_top screen' number')
          rw [String.toList_injective (List.append_cancel_right hscreen)]
      | below q index _ =>
          obtain ⟨hword, -⟩ := hends.inj (endsIn_below q index)
          exact absurd hword.symm (q.id_ne_word screen)
  | below p index ih =>
      have hends := endsIn_below p index
      rw [h] at hends
      induction q using induct with
      | top screen number =>
          obtain ⟨hword, -⟩ := hends.inj (endsIn_top screen number)
          exact absurd hword (p.id_ne_word screen)
      | below q index' _ =>
          obtain ⟨hid, rfl⟩ := hends.inj (endsIn_below q index')
          rw [ih (String.toList_injective hid)]

def Holds (p q : Place) : Prop := q.screen = p.screen ∧ q.number = p.number ∧ p.path <+: q.path

theorem holds_self (p : Place) : p.Holds p := ⟨rfl, rfl, List.prefix_rfl⟩

theorem Holds.of_below {p q : Place} {index : Nat} (h : (p.below index).Holds q) : p.Holds q :=
  ⟨h.1, h.2.1, (List.prefix_append p.path [index]).trans h.2.2⟩

theorem not_below_holds_self (p : Place) (index : Nat) : ¬ (p.below index).Holds p := by
  intro h
  have hlength := h.2.2.length_le
  rw [below, List.length_append, List.length_singleton] at hlength
  omega

/-- What lies below a place lies below one of its nested places only. -/
theorem index_eq_of_holds {p q : Place} {i j : Nat} (hi : (p.below i).Holds q)
    (hj : (p.below j).Holds q) : i = j := by
  have hprefix := List.prefix_of_prefix_length_le hi.2.2 hj.2.2 (by simp [below])
  have hpath : p.path ++ [i] = p.path ++ [j] := hprefix.eq_of_length (by simp [below])
  simpa using hpath

end Place

/-! ## The places of the roots in plans -/

/-- The ids are those of places that a predicate holds of, each place once. -/
def NamePlaces (ids : List (Option String)) (holds : Place → Prop) : Prop :=
  ∃ places : List Place, ids = places.map (fun p => some p.id) ∧ places.Nodup ∧
    ∀ p ∈ places, holds p

namespace NamePlaces

theorem mono {ids : List (Option String)} {holds holds' : Place → Prop} (h : NamePlaces ids holds)
    (himp : ∀ p, holds p → holds' p) : NamePlaces ids holds' := by
  obtain ⟨places, hids, hdistinct, hholds⟩ := h
  exact ⟨places, hids, hdistinct, fun p hp => himp p (hholds p hp)⟩

theorem cons {ids : List (Option String)} {holds : Place → Prop} (h : NamePlaces ids holds)
    {p : Place} (hp : ¬ holds p) : NamePlaces (some p.id :: ids) fun q => q = p ∨ holds q := by
  obtain ⟨places, rfl, hdistinct, hholds⟩ := h
  refine ⟨p :: places, rfl, List.nodup_cons.mpr ⟨fun hmem => hp (hholds p hmem), hdistinct⟩, ?_⟩
  exact List.forall_mem_cons.mpr ⟨.inl rfl, fun q hq => .inr (hholds q hq)⟩

/-- Lists that name places apart from each other name them one after the other. -/
theorem flatMap {α β : Type} {R : α → β → Prop} {ids : β → List (Option String)}
    {holds : α → Place → Prop} {xs : List α} {ys : List β} (h : List.Forall₂ R xs ys)
    (names : ∀ x ∈ xs, ∀ y, R x y → NamePlaces (ids y) (holds x))
    (apart : xs.Pairwise fun a b => ∀ p, holds a p → ¬ holds b p) :
    NamePlaces (ys.flatMap ids) fun p => ∃ x ∈ xs, holds x p := by
  induction h with
  | nil => exact ⟨[], rfl, List.nodup_nil, List.forall_mem_nil _⟩
  | @cons x y xs ys hxy _ ih =>
      rw [List.forall_mem_cons] at names
      rw [List.pairwise_cons] at apart
      obtain ⟨first, hfirst, hfirstDistinct, hfirstHolds⟩ := names.1 y hxy
      obtain ⟨rest, hrest, hrestDistinct, hrestHolds⟩ := ih names.2 apart.2
      refine ⟨first ++ rest, by rw [List.flatMap_cons, hfirst, hrest, List.map_append], ?_, ?_⟩
      · refine List.Nodup.append hfirstDistinct hrestDistinct fun p hp hp' => ?_
        obtain ⟨z, hz, hholds⟩ := hrestHolds p hp'
        exact apart.1 z hz p (hfirstHolds p hp) hholds
      · intro p hp
        rcases List.mem_append.mp hp with hp | hp
        · exact ⟨x, List.mem_cons_self, hfirstHolds p hp⟩
        · obtain ⟨z, hz, hholds⟩ := hrestHolds p hp
          exact ⟨z, List.mem_cons_of_mem _ hz, hholds⟩

/-- Ids of places are texts that are not empty, and no two of them are the same. -/
theorem nodup {ids : List (Option String)} {holds : Place → Prop} (h : NamePlaces ids holds) :
    ids.Nodup ∧ ∀ id ∈ ids, ∃ text, id = some text ∧ text ≠ "" := by
  obtain ⟨places, rfl, hdistinct, -⟩ := h
  refine ⟨hdistinct.map fun p q hsame => Place.id_injective (Option.some.inj hsame), ?_⟩
  intro id hid
  obtain ⟨p, -, rfl⟩ := List.mem_map.mp hid
  obtain ⟨front, n, hends⟩ := p.endsIn_id
  exact ⟨p.id, rfl, hends.ne_empty⟩

end NamePlaces

theorem zipIdx_pairwise_ne {α : Type} (xs : List α) (start : Nat) :
    (xs.zipIdx start).Pairwise fun a b => a.2 ≠ b.2 := by
  have hindices : ((xs.zipIdx start).map Prod.snd).Nodup := by
    rw [List.zipIdx_map_snd]
    exact List.nodup_range'
  exact List.pairwise_map.mp hindices

def Element.Anonymous (e : Element) : Prop := ∀ head ∈ e.preorder, nonempty? head.id = none

def Plan.rootIds (plan : Plan) : List (Option String) := plan.roots.map (·.elementId)

namespace Rules

variable {rules : Rules}

/-- The plan of an anonymous element names its place and places below it. -/
theorem resolve_rootIds (hrules : rules ⊆ builtin) {e : Element} (anonymous : e.Anonymous)
    {p : Place} {plan : Plan} (h : resolve rules (some p.id) e = .ok plan) :
    NamePlaces plan.rootIds p.Holds := by
  induction e using Tree.induct generalizing p plan with
  | node head children ih =>
      unfold Element.Anonymous at anonymous
      rw [Tree.preorder_node, List.forall_mem_cons] at anonymous
      have hid : resolvedId head.id (some p.id) = some p.id := by
        rw [resolvedId, anonymous.1]
      rcases resolve_cases hrules h with ⟨drawn, isFallback, hdrawn, rfl, -⟩ |
        ⟨box, nested, -, rfl, hnested, -⟩
      · have hparts := hdrawn.flatMap_roots_children
        obtain ⟨drawnHead, parts⟩ := drawn
        rw [Tree.children_node] at hparts
        rw [Plan.rootIds, Plan.roots_asElement, hparts, hid]
        exact ⟨[p], rfl, List.nodup_singleton p, by simp [Place.holds_self]⟩
      · rw [Plan.rootIds, Plan.roots_asElement, hid, List.map_cons, List.map_flatMap]
        rw [hid] at hnested
        have hnames : NamePlaces (nested.flatMap Plan.rootIds) fun q =>
            ∃ e ∈ children.zipIdx, (p.below e.2).Holds q := by
          refine NamePlaces.flatMap (resolveChildren_ok_iff.mp hnested) ?_ ?_
          · intro e he part hpart
            have hmem := List.fst_mem_of_mem_zipIdx he
            obtain ⟨front, n, hends⟩ := p.endsIn_id
            rw [childId, nonempty?_some, if_neg hends.ne_empty, Option.map_some,
              ← Place.id_below] at hpart
            exact ih e.1 hmem
              (fun head hhead => anonymous.2 head (List.mem_flatMap_of_mem hmem hhead)) hpart
          · exact (zipIdx_pairwise_ne children 0).imp
              fun hne q ha hb => hne (Place.index_eq_of_holds ha hb)
        refine (hnames.cons ?_).mono ?_
        · rintro ⟨e, -, hholds⟩
          exact p.not_below_holds_self e.2 hholds
        · rintro q (rfl | ⟨e, -, hholds⟩)
          · exact q.holds_self
          · exact hholds.of_below

/-- The plans of a screen without given ids name places on the screen. -/
theorem resolveScreen_rootIds {α : Type} (hrules : rules ⊆ builtin) {screen : Screen α}
    {id : String} (hid : screen.id = some id) (hne : id ≠ "")
    (anonymous : ∀ e ∈ screen.elements, e.Anonymous) {plans : List Plan}
    (h : rules.resolveScreen screen = .ok plans) :
    NamePlaces (plans.flatMap Plan.rootIds) fun p => p.screen = id := by
  have hnames : NamePlaces (plans.flatMap Plan.rootIds) fun q =>
      ∃ e ∈ screen.elements.zipIdx, (Place.top id (e.2 + 1)).Holds q := by
    refine NamePlaces.flatMap (resolveItems_ok_iff.mp h) ?_ ?_
    · intro e he plan hplan
      rw [hid, topLevelId, nonempty?_some, if_neg hne, Option.map_some, ← Place.id_top] at hplan
      exact resolve_rootIds hrules (anonymous e.1 (List.fst_mem_of_mem_zipIdx he)) hplan
    · refine (zipIdx_pairwise_ne screen.elements 0).imp fun hne q ha hb => hne ?_
      exact Nat.succ.inj (ha.2.1.symm.trans hb.2.1)
  refine hnames.mono ?_
  rintro q ⟨e, -, hholds⟩
  exact hholds.1

/-- Where screens have ids that differ and no element gives one, the roots of all elements in the
plans of all screens have ids that differ. -/
theorem resolveScreens_rootIds_nodup {α : Type} (hrules : rules ⊆ builtin) {spec : Spec α}
    (given : ∀ s ∈ spec.screens, ∃ id, s.id = some id ∧ id ≠ "")
    (distinct : (spec.screens.map (·.id)).Nodup)
    (anonymous : ∀ s ∈ spec.screens, ∀ e ∈ s.elements, e.Anonymous) {plans : List (List Plan)}
    (h : List.Forall₂ (fun s plans => rules.resolveScreen s = .ok plans) spec.screens plans) :
    (plans.flatten.flatMap Plan.rootIds).Nodup ∧
      ∀ id ∈ plans.flatten.flatMap Plan.rootIds, ∃ text, id = some text ∧ text ≠ "" := by
  have hnames : NamePlaces (plans.flatMap fun screen => screen.flatMap Plan.rootIds) fun p =>
      ∃ s ∈ spec.screens, s.id = some p.screen := by
    refine NamePlaces.flatMap h ?_ ?_
    · intro s hs screen hscreen
      obtain ⟨id, hid, hne⟩ := given s hs
      refine (resolveScreen_rootIds hrules hid hne (anonymous s hs) hscreen).mono ?_
      rintro p rfl
      exact hid
    · exact (List.pairwise_map.mp distinct).imp fun hne p ha hb => hne (ha.trans hb.symm)
  rw [← List.flatMap_id, List.flatMap_assoc]
  exact hnames.nodup

/-- Screens that are named like elements of each other, with boxes below boxes. -/
theorem resolveScreens_rootIds_nodup_alike :
    let text : Element := .node ⟨"text", none, []⟩ []
    let box (children : List Element) : Element := .node ⟨"box", none, []⟩ children
    let spec : Spec Number := ⟨"", [
      ⟨some "a", "", none, [box [text, box [text]], text]⟩,
      ⟨some "a-el-1", "", none, [box [text]]⟩,
      ⟨some "a-el-1-1", "", none, [text]⟩], []⟩
    ∃ plans, List.Forall₂ (fun s plans => builtin.resolveScreen s = .ok plans) spec.screens plans ∧
      plans.flatten.flatMap Plan.rootIds = [some "a-el-1", some "a-el-1-0", some "a-el-1-1",
        some "a-el-1-1-0", some "a-el-2", some "a-el-1-el-1", some "a-el-1-el-1-0",
        some "a-el-1-1-el-1"] ∧
      (plans.flatten.flatMap Plan.rootIds).Nodup := by
  intro text box spec
  have given : ∀ s ∈ spec.screens, ∃ id, s.id = some id ∧ id ≠ "" := by
    simp [spec]
  have distinct : (spec.screens.map (·.id)).Nodup := by decide
  have anonymous : ∀ s ∈ spec.screens, ∀ e ∈ s.elements, e.Anonymous := by
    simp [spec, text, box, Element.Anonymous, Tree.preorder_node, nonempty?_none]
  refine ⟨_, .cons rfl (.cons rfl (.cons rfl .nil)), by decide +kernel, ?_⟩
  exact (resolveScreens_rootIds_nodup (List.Subset.refl builtin) given distinct anonymous
    (.cons rfl (.cons rfl (.cons rfl .nil)))).1

end Rules

end Wireframe

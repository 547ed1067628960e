import Wireframe.Json.Lenient
import Wireframe.Proofs.Plan.Height
import Wireframe.Proofs.Spec.Regular

/-! # Depth of documents and height of plans

The check of a document limits how deep its values nest, and with that how high the plans of its
screens can be. An element stands at depth 4 at least, below the document, the list of screens, the
screen and its list of elements, and each further level of elements takes two levels of values: the
list of children and the child. A plan adds at most two levels to its element.
-/

namespace Wireframe

namespace Envelope

variable {limit depth : Int}

theorem excessItems?_eq_none_iff {items : List Value} :
    excessItems? limit depth items = none ↔ ∀ v ∈ items, excess? limit depth v = none := by
  induction items with
  | nil => simp [excessItems?]
  | cons v rest ih =>
      rw [excessItems?, List.forall_mem_cons]
      cases excess? limit depth v <;> simp [ih]

theorem excessMembers?_eq_none_iff {members : Members} :
    excessMembers? limit depth members = none ↔
      ∀ entry ∈ members, excess? limit depth entry.2 = none := by
  induction members with
  | nil => simp [excessMembers?]
  | cons entry rest ih =>
      rw [excessMembers?, List.forall_mem_cons]
      cases excess? limit depth entry.2 <;> simp [ih]

theorem excess?_list_eq_none_iff {items : List Value} :
    excess? limit depth (.list items) = none ↔
      depth ≤ limit ∧ ∀ v ∈ items, excess? limit (depth + 1) v = none := by
  rw [excess?, ← excessItems?_eq_none_iff]
  split
  · next hdeep => exact iff_of_false nofun fun hfits => absurd hfits.1 (by omega)
  · next hfits => exact ⟨fun hnone => ⟨by omega, hnone⟩, And.right⟩

theorem excess?_object_eq_none_iff {members : Members} :
    excess? limit depth (.object members) = none ↔
      depth ≤ limit ∧ ∀ entry ∈ members, excess? limit (depth + 1) entry.2 = none := by
  rw [excess?, ← excessMembers?_eq_none_iff]
  split
  · next hdeep => exact iff_of_false nofun fun hfits => absurd hfits.1 (by omega)
  · next hfits => exact ⟨fun hnone => ⟨by omega, hnone⟩, And.right⟩

/-- The items of a list under a key stand two levels below the object. -/
theorem excess?_item {members : Members} (h : excess? limit depth (.object members) = none)
    {key : String} {items : List Value} (hitems : (key, .list items) ∈ members) {item : Value}
    (hitem : item ∈ items) : excess? limit (depth + 2) item = none := by
  have hlist := (excess?_object_eq_none_iff.mp h).2 _ hitems
  have hbelow := (excess?_list_eq_none_iff.mp hlist).2 item hitem
  rwa [Int.add_assoc] at hbelow

theorem excess?_of_mem_screens {members : Members}
    (h : excess? limit 0 (.object members) = none) {v : Value} (hv : v ∈ screens members) :
    excess? limit 2 v = none := by
  unfold screens at hv
  split at hv
  · next items hitems =>
    cases hfound : members.value? "screens" with
    | none =>
        rw [Members.value_of_absent hfound] at hitems
        cases hitems
    | some w =>
        rw [Members.value_of_value? hfound] at hitems
        rw [hitems] at hfound
        exact excess?_item h (Members.mem_of_value? hfound) hv
  · cases hv

end Envelope

open Envelope (excess?)

namespace Element

/-- Each level of an element takes two levels of the value that it is read from. -/
theorem height_of_read {limit depth : Int} {v : Value} {e : Element} (h : read v = .ok e)
    (hdepth : excess? limit depth v = none) : depth + 2 * e.height ≤ limit + 2 := by
  induction e using Tree.induct generalizing v depth with
  | node head children ih =>
      obtain ⟨members, rfl, -, -, -, hchildren⟩ := read_ok_iff.mp h
      have hroot : depth ≤ limit := (Envelope.excess?_object_eq_none_iff.mp hdepth).1
      have hbelow : Tree.heightAll children ≤ ((limit - depth) / 2).toNat := by
        refine Tree.heightAll_le_iff.mpr fun e he => ?_
        obtain ⟨items, item, hitems, hitem, hread⟩ := exists_read_of_mem_field hchildren he
        have hchild := ih e he hread (Envelope.excess?_item hdepth hitems hitem)
        omega
      have hheight := Tree.height_node head children
      omega

theorem height_ensureId (e : Element) (screenId : String) (index : Nat) :
    (e.ensureId screenId index).height = e.height := by
  unfold ensureId
  split
  · rfl
  · exact Tree.height_mapRoot _ _

theorem height_pos (e : Element) : 0 < e.height := by
  cases e
  exact Nat.succ_pos _

end Element

/-- The elements of a screen stand two levels below it. -/
theorem Screen.height_of_read {limit depth : Int} {v : Value} {s : Screen Number}
    (h : Screen.read v = .ok s) (hdepth : excess? limit depth v = none) {e : Element}
    (he : e ∈ s.elements) : depth + 2 + 2 * e.height ≤ limit + 2 := by
  obtain ⟨members, rfl, -, -, -, helements⟩ := Screen.read_ok_iff.mp h
  obtain ⟨items, item, hitems, hitem, hread⟩ := Element.exists_read_of_mem_field helements he
  exact Element.height_of_read hread (Envelope.excess?_item hdepth hitems hitem)

namespace Spec

variable {repair : Json.Repairer} {text : String} {maxSize maxDepth : Int} {spec : Spec Number}
  {screen : Screen Number}

/-- The height of the elements that a document can have within a limit on its depth. -/
theorem load_element_height (h : load repair text maxSize maxDepth = .ok spec)
    (hscreen : screen ∈ spec.screens) {e : Element} (he : e ∈ screen.elements) :
    4 + 2 * (e.height : Int) ≤ maxDepth + 2 := by
  obtain ⟨members, given, -, hcheck, hread, rfl⟩ := load_ok_iff.mp h
  obtain ⟨-, _, ⟨⟩, hdepth, -⟩ := Envelope.check_ok_iff.mp hcheck
  obtain ⟨i, hi, rfl⟩ := List.mem_mapIdx.mp hscreen
  obtain ⟨v, hv, hgiven⟩ := exists_of_forall₂_of_mem (read_screens hread) (List.getElem_mem hi)
  obtain ⟨j, hj, rfl⟩ := List.mem_mapIdx.mp he
  rw [Element.height_ensureId]
  exact Screen.height_of_read hgiven (Envelope.excess?_of_mem_screens hdepth hv)
    (List.getElem_mem hj)

/-- The limit on the depth of a document bounds the height of every plan of its screens; where it
leaves no room for an element, the screens have none. -/
theorem load_plan_height {rules : Rules} (hrules : rules ⊆ Rules.builtin)
    (h : load repair text maxSize maxDepth = .ok spec) (hscreen : screen ∈ spec.screens) :
    (4 ≤ maxDepth → ∀ plans, rules.resolveScreen screen = .ok plans → ∀ plan ∈ plans,
        (plan.height : Int) ≤ (maxDepth - 4) / 2 + 3) ∧
      (maxDepth < 4 → screen.elements = []) := by
  constructor
  · intro _ plans hplans plan hplan
    obtain ⟨e, he, hheight⟩ := Rules.resolveScreen_height_le hrules hplans hplan
    have helement := load_element_height h hscreen he
    omega
  · intro hlow
    refine List.eq_nil_iff_forall_not_mem.mpr fun e he => ?_
    have helement := load_element_height h hscreen he
    have hpos := e.height_pos
    omega

/-- A card in a box is as high as the limit of 7 levels allows; at 3 levels a screen loads, but no
element does. -/
theorem load_plan_height_card :
    let text := "\x7b\"screens\":[\x7b\"elements\":[\x7b\"type\":\"box\",\"children\":[" ++
      "\x7b\"type\":\"card\"\x7d]\x7d]\x7d]\x7d"
    (∃ spec screen plans plan, load Json.Lenient.repair text 999 7 = .ok spec ∧
      screen ∈ spec.screens ∧
        Rules.builtin.resolveScreen screen = .ok plans ∧ plan ∈ plans ∧ plan.height = 4 ∧
        (plan.height : Int) ≤ (7 - 4) / 2 + 3) ∧
      (load Json.Lenient.repair text 999 6).isOk = false ∧
      ∃ spec screen, load Json.Lenient.repair
          "\x7b\"screens\":[\x7b\"elements\":[]\x7d]\x7d" 999 3 = .ok spec ∧
        screen ∈ spec.screens ∧ screen.elements = [] := by
  intro text
  refine ⟨?_, by decide +kernel, ?_⟩
  · have hrun : ((load Json.Lenient.repair text 999 7).toOption.any fun spec =>
        spec.screens.any fun screen =>
        (Rules.builtin.resolveScreen screen).toOption.any fun plans =>
          plans.any fun plan => plan.height == 4) = true := by
      decide +kernel
    cases h : load Json.Lenient.repair text 999 7 with
    | error cause => simp [h, Except.toOption] at hrun
    | ok spec =>
        simp only [h, Except.toOption, Option.any_some, List.any_eq_true] at hrun
        obtain ⟨screen, hscreen, hrun⟩ := hrun
        cases hplans : Rules.builtin.resolveScreen screen with
        | error cause => simp [hplans] at hrun
        | ok plans =>
            simp only [hplans, Option.any_some, List.any_eq_true, beq_iff_eq] at hrun
            obtain ⟨plan, hplan, hfour⟩ := hrun
            have hbound := (load_plan_height (List.Subset.refl _) h hscreen).1 (by decide)
            exact ⟨spec, screen, plans, plan, rfl, hscreen, hplans, hplan, hfour,
              hbound plans hplans plan hplan⟩
  · have hrun : ((load Json.Lenient.repair
        "\x7b\"screens\":[\x7b\"elements\":[]\x7d]\x7d" 999 3).toOption.any
        fun spec => !spec.screens.isEmpty) = true := by
      decide +kernel
    cases h : load Json.Lenient.repair "\x7b\"screens\":[\x7b\"elements\":[]\x7d]\x7d" 999 3 with
    | error cause => simp [h, Except.toOption] at hrun
    | ok spec =>
        simp only [h, Except.toOption, Option.any_some] at hrun
        cases hscreens : spec.screens with
        | nil => simp [hscreens] at hrun
        | cons screen rest =>
            have hscreen : screen ∈ spec.screens := by simp [hscreens]
            have hnone := (load_plan_height (List.Subset.refl _) h hscreen).2 (by decide)
            exact ⟨spec, screen, rfl, hscreen, hnone⟩

end Spec

end Wireframe

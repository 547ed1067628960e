import Wireframe.Proofs.Spec.Identity

/-! # Specs that were read

What holds of every spec that was read, whatever the document was: the props of each element stand
under keys that are no fields, at every depth, and coordinates are doubles, or zeros that were left
out. This is all that writing and reading a spec again depends on.
-/

namespace Wireframe

/-! ## Elements -/

def ElementHead.Apart (head : ElementHead) : Prop :=
  ∀ entry ∈ head.props, entry.1 ≠ "type" ∧ entry.1 ≠ "id" ∧ entry.1 ≠ "children"

namespace Element

def Apart (e : Element) : Prop := ∀ head ∈ e.preorder, head.Apart

theorem apart_node {head : ElementHead} {children : List Element} :
    Apart (.node head children) ↔ head.Apart ∧ ∀ e ∈ children, e.Apart :=
  Tree.forall_mem_preorder_node

theorem apart_propsOf (members : Members) (type : String) (id : Option String) :
    ElementHead.Apart ⟨type, id, propsOf members⟩ := by
  intro entry hentry
  have hkey := (List.mem_filter.mp hentry).2
  simpa only [Bool.not_eq_true', Bool.or_eq_false_iff, beq_eq_false_iff_ne, and_assoc] using hkey

/-- Every element of a collection that was read was read from an item of a list. -/
theorem exists_read_of_mem {v : Value} {es : List Element} (h : readCollection v = .ok es)
    {e : Element} (he : e ∈ es) : ∃ items item, v = .list items ∧ item ∈ items ∧
      read item = .ok e := by
  obtain ⟨items, hitems, heach⟩ := readCollection_ok_iff.mp h
  obtain ⟨item, hitem, hread⟩ := exists_of_forall₂_of_mem heach he
  rcases Value.asList_ok_iff.mp hitems with rfl | ⟨-, rfl⟩
  · exact ⟨items, item, rfl, hitem, hread⟩
  · cases hitem

theorem exists_read_of_mem_field {members : Members} {key : String} {es : List Element}
    (h : members.field key [] readCollection = .ok es) {e : Element} (he : e ∈ es) :
    ∃ items item, (key, .list items) ∈ members ∧ item ∈ items ∧ read item = .ok e := by
  rcases Members.field_ok_iff.mp h with ⟨v, hv, hread⟩ | ⟨-, hnone⟩
  · obtain ⟨items, item, rfl, hitem⟩ := exists_read_of_mem hread he
    exact ⟨items, item, Members.mem_of_value? hv, hitem⟩
  · rw [← hnone] at he
    cases he

theorem apart_of_read {v : Value} {e : Element} (h : read v = .ok e) : e.Apart := by
  induction e using Tree.induct generalizing v with
  | node head children ih =>
      obtain ⟨members, rfl, -, -, hprops, hchildren⟩ := read_ok_iff.mp h
      rw [apart_node]
      constructor
      · obtain ⟨type, id, props⟩ := head
        obtain rfl := hprops
        exact apart_propsOf members type id
      · intro e he
        obtain ⟨items, item, -, -, hread⟩ := exists_read_of_mem_field hchildren he
        exact ih e he hread

end Element

/-! ## Places -/

def Number.IsCoordinate (n : Number) : Prop := n = .int 0 ∨ ∃ x, n = .double x

namespace Point

theorem coordinate_of_field {members : Members} {key : String} {n : Number}
    (h : members.field key (.int 0) (fun v => v.asDouble.map Number.double) = .ok n) :
    n.IsCoordinate := by
  rcases Members.field_ok_iff.mp h with ⟨v, _, hread⟩ | ⟨_, rfl⟩
  · obtain ⟨x, _, rfl⟩ := Except.map_ok_iff.mp hread
    exact .inr ⟨x, rfl⟩
  · exact .inl rfl

theorem coordinates_of_read {v : Value} {p : Point Number} (h : Point.read v = .ok p) :
    p.x.IsCoordinate ∧ p.y.IsCoordinate := by
  obtain ⟨members, -, hx, hy⟩ := Point.read_ok_iff.mp h
  exact ⟨coordinate_of_field hx, coordinate_of_field hy⟩

theorem coordinates_of_readOptional {v : Value} {p : Point Number}
    (h : Point.readOptional v = .ok (some p)) : p.x.IsCoordinate ∧ p.y.IsCoordinate := by
  unfold readOptional at h
  split at h
  · cases h
  · obtain ⟨q, hq, hsome⟩ := Except.map_ok_iff.mp h
    obtain rfl := Option.some.inj hsome
    exact coordinates_of_read hq

end Point

/-! ## Screens -/

/-- A screen as it is read: placed at coordinates or nowhere, over elements whose props stand apart
from their fields. -/
structure Screen.Regular (s : Screen Number) : Prop where
  coordinates : ∀ p, s.position = some p → p.x.IsCoordinate ∧ p.y.IsCoordinate
  apart : ∀ e ∈ s.elements, e.Apart

theorem Screen.coordinates_of_read {v : Value} {s : Screen Number} (h : Screen.read v = .ok s)
    {p : Point Number} (hp : s.position = some p) : p.x.IsCoordinate ∧ p.y.IsCoordinate := by
  obtain ⟨members, -, -, -, hposition, -⟩ := Screen.read_ok_iff.mp h
  rw [hp] at hposition
  rcases Members.field_ok_iff.mp hposition with ⟨v, _, hread⟩ | ⟨_, hnone⟩
  · exact Point.coordinates_of_readOptional hread
  · cases hnone

theorem Screen.regular_of_read {v : Value} {s : Screen Number} (h : Screen.read v = .ok s) :
    s.Regular := by
  obtain ⟨members, -, -, -, -, helements⟩ := Screen.read_ok_iff.mp h
  refine ⟨fun p hp => coordinates_of_read h hp, fun e he => ?_⟩
  obtain ⟨items, item, -, -, hread⟩ := Element.exists_read_of_mem_field helements he
  exact Element.apart_of_read hread

theorem Spec.regular_screens {v : Value} {spec : Spec Number} (h : Spec.read v = .ok spec) :
    ∀ s ∈ spec.screens, s.Regular := by
  obtain ⟨members, rfl, -⟩ := Spec.read_ok_iff.mp h
  intro s hs
  obtain ⟨v, -, hread⟩ := exists_of_forall₂_of_mem (Spec.read_screens h) hs
  exact Screen.regular_of_read hread

end Wireframe

import Wireframe.Proofs.Outcome
import Wireframe.Proofs.Pointwise
import Wireframe.Spec.Read

/-! # What a reader accepts

Every reader of a spec is inverted once: it returns a value exactly when the object in front of it
has the fields of that value. Fields that are absent give their defaults, and collections are read
item by item.
-/

namespace Wireframe

namespace Checked

variable {α β γ : Type}

theorem ap_ok_iff {f : Checked (α → β)} {x : Checked α} {b : β} :
    ap f x = .ok b ↔ ∃ g a, f = .ok g ∧ x = .ok a ∧ g a = b :=
  both_ok_iff

theorem each_ok_iff {check : α → Checked β} {start : Nat} {xs : List α} {ys : List β} :
    each check start xs = .ok ys ↔ List.Forall₂ (fun x y => check x = .ok y) xs ys := by
  induction xs generalizing start ys with
  | nil => cases ys <;> simp [each]
  | cons x xs ih =>
      rw [each, both_ok_iff]
      constructor
      · rintro ⟨y, rest, hy, hrest, rfl⟩
        exact .cons (under_ok_iff.mp hy) (ih.mp hrest)
      · intro h
        cases h with
        | cons hy hrest => exact ⟨_, _, under_ok_iff.mpr hy, ih.mpr hrest, rfl⟩

end Checked

theorem Value.asMembers_ok_iff {v : Value} {members : Members} :
    v.asMembers = .ok members ↔ v = .object members := by
  cases v <;> simp [asMembers, Checked.fault]

theorem Value.asList_ok_iff {v : Value} {items : List Value} :
    v.asList = .ok items ↔ v = .list items ∨ v = .null ∧ items = [] := by
  cases v <;> simp [asList, Checked.fault, eq_comm]

theorem Value.asListOf_ok_iff {α : Type} {read : Value → Checked α} {v : Value} {as : List α} :
    v.asListOf read = .ok as ↔
      ∃ items, v.asList = .ok items ∧ List.Forall₂ (fun v a => read v = .ok a) items as := by
  unfold asListOf
  cases v.asList with
  | error faults => simp
  | ok items => simp [Checked.each_ok_iff]

namespace Members

variable {α : Type} {members : Members} {key other : String} {default a : α}
  {read : Value → Checked α}

theorem field_of_value? {v : Value} (h : members.value? key = some v) :
    members.field key default read = .ok a ↔ read v = .ok a := by
  rw [field, h]
  exact Checked.under_ok_iff

theorem field_of_absent (h : members.value? key = none) :
    members.field key default read = .ok default := by
  rw [field, h]

theorem field_ok_iff :
    members.field key default read = .ok a ↔
      (∃ v, members.value? key = some v ∧ read v = .ok a) ∨
        members.value? key = none ∧ default = a := by
  cases h : members.value? key with
  | none => simp [field_of_absent h]
  | some v => simp [field_of_value? h]

theorem value_of_value? {v : Value} (h : members.value? key = some v) :
    members.value key = v := by
  simp [value, h]

theorem mem_of_value? {v : Value} (h : members.value? key = some v) : (key, v) ∈ members := by
  obtain ⟨entry, hfind, rfl⟩ := Option.map_eq_some_iff.mp h
  have hkey := List.find?_some hfind
  rw [beq_iff_eq] at hkey
  rw [← hkey]
  exact List.mem_of_find?_eq_some hfind

theorem value_of_absent (h : members.value? key = none) : members.value key = .null := by
  simp [value, h]

end Members

namespace Element

theorem readItems_eq_each (index : Nat) (items : List Value) :
    readItems index items = Checked.each read index items := by
  induction items generalizing index with
  | nil => rfl
  | cons item items ih => rw [readItems, Checked.each, ih]

theorem readCollection_eq_asListOf (v : Value) : readCollection v = v.asListOf read := by
  cases v with
  | list items => exact readItems_eq_each 0 items
  | null | bool | number | string | object => rfl

theorem readCollection_ok_iff {v : Value} {es : List Element} :
    readCollection v = .ok es ↔
      ∃ items, v.asList = .ok items ∧ List.Forall₂ (fun v e => read v = .ok e) items es := by
  rw [readCollection_eq_asListOf, Value.asListOf_ok_iff]

/-- The children are the collection under the first key `children`, as every field is. -/
theorem under_readChildren (members : Members) :
    Checked.under (.key "children") (readChildren members) =
      members.field "children" [] readCollection := by
  induction members with
  | nil => rfl
  | cons entry rest ih =>
      obtain ⟨key, value⟩ := entry
      rw [readChildren, Members.field, Members.value?_cons]
      split
      · rfl
      · exact ih

theorem readChildren_eq_field (members : Members) :
    readChildren members = .ok es ↔ members.field "children" [] readCollection = .ok es := by
  rw [← under_readChildren, Checked.under_ok_iff]

theorem read_ok_iff {v : Value} {e : Element} :
    read v = .ok e ↔ ∃ members : Members, v = .object members ∧
      members.field "type" "" Value.asLooseString = .ok e.type ∧
      members.field "id" none Value.asOptionalString = .ok e.id ∧
      propsOf members = e.props ∧
      members.field "children" [] readCollection = .ok e.children := by
  obtain ⟨⟨type, id, props⟩, children⟩ := e
  cases v with
  | object members =>
      simp only [read, readHead, Checked.both_ok_iff, Checked.under_ok_iff, readChildren_eq_field]
      constructor
      · rintro ⟨head, es, ⟨type, id, htype, hid, rfl⟩, hes, ⟨⟩⟩
        exact ⟨members, rfl, htype, hid, rfl, hes⟩
      · rintro ⟨_, ⟨⟩, htype, hid, hprops, hes⟩
        refine ⟨_, _, ⟨type, id, htype, hid, rfl⟩, hes, ?_⟩
        rw [hprops]
        rfl
  | _ => simp [read, Checked.fault]

end Element

theorem Point.read_ok_iff {v : Value} {p : Point Number} :
    Point.read v = .ok p ↔ ∃ members : Members, v = .object members ∧
      members.field "x" (.int 0) (fun v => v.asDouble.map Number.double) = .ok p.x ∧
      members.field "y" (.int 0) (fun v => v.asDouble.map Number.double) = .ok p.y := by
  obtain ⟨x, y⟩ := p
  simp [Point.read, Except.bind_ok_iff, Value.asMembers_ok_iff, Checked.both_ok_iff]

theorem Screen.read_ok_iff {v : Value} {s : Screen Number} :
    Screen.read v = .ok s ↔ ∃ members : Members, v = .object members ∧
      members.field "id" none Value.asOptionalString = .ok s.id ∧
      members.field "name" "" Value.asLooseString = .ok s.name ∧
      members.field "position" none Point.readOptional = .ok s.position ∧
      members.field "elements" [] Element.readCollection = .ok s.elements := by
  obtain ⟨id, name, position, elements⟩ := s
  simp [Screen.read, Except.bind_ok_iff, Value.asMembers_ok_iff, Checked.ap_ok_iff,
    Checked.both_ok_iff, and_assoc]

theorem FlowEdge.read_ok_iff {v : Value} {f : FlowEdge} :
    FlowEdge.read v = .ok f ↔ ∃ members : Members, v = .object members ∧
      members.fieldNamed "from" "from_" none Value.asOptionalString = .ok f.source ∧
      members.field "to" none Value.asOptionalString = .ok f.target ∧
      members.field "label" none Value.asOptionalString = .ok f.label ∧
      members.field "type" none Value.asOptionalString = .ok f.type := by
  obtain ⟨source, target, label, type⟩ := f
  simp [FlowEdge.read, Except.bind_ok_iff, Value.asMembers_ok_iff, Checked.ap_ok_iff,
    Checked.both_ok_iff, and_assoc]

theorem Spec.read_ok_iff {v : Value} {spec : Spec Number} :
    Spec.read v = .ok spec ↔ ∃ members : Members, v = .object members ∧
      members.fieldNamed "appName" "app_name" "" Value.asString = .ok spec.appName ∧
      members.field "screens" [] (Value.asListOf Screen.read) = .ok spec.screens ∧
      members.field "flows" [] (Value.asListOf FlowEdge.read) = .ok spec.flows := by
  obtain ⟨appName, screens, flows⟩ := spec
  simp [Spec.read, Except.bind_ok_iff, Value.asMembers_ok_iff, Checked.ap_ok_iff,
    Checked.both_ok_iff]

end Wireframe

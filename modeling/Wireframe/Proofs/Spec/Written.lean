import Wireframe.Proofs.Spec.Loaded
import Wireframe.Spec.Write

/-! # What is written of a spec

A spec is written without the props that are null, and a coordinate that was left out is written as
the zero it stands for. `Spec.read_write` reads back everything else, whatever the spec is, as long
as its elements and coordinates are of the kind that is loaded. The objects that are written have
each key once (`Spec.sound_write`), so that they can be read as text.
-/

namespace Wireframe

/-! ## What is left of a spec -/

def ElementHead.withoutNulls (head : ElementHead) : ElementHead :=
  { head with props := head.props.filter fun entry => !entry.2.isNull }

/-- The element without the props that are null, at every depth. -/
def Element.withoutNulls (e : Element) : Element := e.map ElementHead.withoutNulls

def Point.saved (p : Point Number) : Point Number := ⟨.double p.x.toDouble, .double p.y.toDouble⟩

def Screen.saved (s : Screen Number) : Screen Number :=
  { s with position := s.position.map Point.saved, elements := s.elements.map Element.withoutNulls }

def Spec.saved (spec : Spec Number) : Spec Number :=
  { spec with screens := spec.screens.map Screen.saved }

/-! ## Fields -/

namespace Members

variable {members : Members} {key : String}

theorem value?_append (members more : Members) (key : String) :
    value? (members ++ more) key = (value? members key).or (value? more key) := by
  unfold value?
  rw [List.find?_append, Option.map_or]

theorem value?_eq_none (h : ∀ entry ∈ members, entry.1 ≠ key) : members.value? key = none := by
  unfold value?
  rw [Option.map_eq_none_iff, List.find?_eq_none]
  intro entry hentry
  rw [beq_iff_eq]
  exact h entry hentry

@[simp] theorem value?_optionalField (key : String) (s : Option String) (other : String) :
    value? (optionalField key s) other = if key = other then s.map Value.string else none := by
  cases s with
  | none => simp [optionalField]
  | some s => simp [optionalField, value?_cons]

theorem value_cons (k key : String) (v : Value) (rest : Members) :
    value ((k, v) :: rest) key = if k = key then v else value rest key := by
  unfold value
  rw [value?_cons]
  split
  · rfl
  · rfl

/-- In a table that has each key once, a null is as good as nothing. -/
theorem value_filter_isNull (keys : (members.map Prod.fst).Nodup) (key : String) :
    value (members.filter fun entry => !entry.2.isNull) key = members.value key := by
  induction members with
  | nil => rfl
  | cons entry rest ih =>
      obtain ⟨k, v⟩ := entry
      rw [List.map_cons, List.nodup_cons] at keys
      obtain ⟨hfresh, hkeys⟩ := keys
      by_cases hv : v.isNull = true
      · rw [List.filter_cons_of_neg (by simp [hv]), ih hkeys, value_cons]
        split
        · next hk =>
          have habsent : value? rest key = none := by
            refine value?_eq_none fun entry hentry hkey => hfresh ?_
            exact List.mem_map.mpr ⟨entry, hentry, hkey.trans hk.symm⟩
          rw [value_of_absent habsent]
          cases v with
          | null => rfl
          | _ => cases hv
        · rfl
      · rw [List.filter_cons_of_pos (by simp [hv]), value_cons, value_cons, ih hkeys]

/-- An optional field is read as it was written. -/
theorem field_optional {s : Option String} (h : members.value? key = s.map Value.string) :
    members.field key none Value.asOptionalString = .ok s := by
  cases s with
  | none => exact field_of_absent h
  | some s => exact (field_of_value? h).mpr rfl

theorem fieldNamed_optional {other : String} {s : Option String}
    (h : members.value? key = s.map Value.string) (hother : members.value? other = none) :
    members.fieldNamed key other none Value.asOptionalString = .ok s := by
  unfold fieldNamed
  split
  · exact field_optional h
  · next habsent =>
    cases s with
    | none => exact field_of_absent hother
    | some s => simp [has, h] at habsent

end Members

/-! ## Elements -/

namespace Element

theorem writeAll_eq_map (es : List Element) : writeAll es = es.map write := by
  induction es with
  | nil => rfl
  | cons e es ih => rw [writeAll, ih, List.map_cons]

def writtenMembers (head : ElementHead) (children : List Element) : Members :=
  ("type", .string head.type) :: optionalField "id" head.id
    ++ ("children", .list (children.map write)) :: head.withoutNulls.props

theorem write_node (head : ElementHead) (children : List Element) :
    write (.node head children) = .object (writtenMembers head children) := by
  rw [write, writeAll_eq_map]
  rfl

theorem apart_withoutNulls {head : ElementHead} (apart : head.Apart) :
    ∀ entry ∈ head.withoutNulls.props,
      entry.1 ≠ "type" ∧ entry.1 ≠ "id" ∧ entry.1 ≠ "children" :=
  fun entry hentry => apart entry (List.mem_filter.mp hentry).1

theorem propsOf_writtenMembers {head : ElementHead} (apart : head.Apart)
    (children : List Element) :
    propsOf (writtenMembers head children) = head.withoutNulls.props := by
  have hprops : propsOf head.withoutNulls.props = head.withoutNulls.props := by
    refine List.filter_eq_self.mpr ?_
    intro entry hentry
    simpa [and_assoc] using apart_withoutNulls apart entry hentry
  have hfields : propsOf (("type", .string head.type) :: optionalField "id" head.id) = [] := by
    cases head.id <;> simp [propsOf, optionalField]
  unfold writtenMembers
  rw [propsOf, List.filter_append, ← propsOf, ← propsOf, hfields, List.nil_append, propsOf,
    List.filter_cons_of_neg (by simp), ← propsOf, hprops]

theorem value?_writtenMembers {head : ElementHead} (apart : head.Apart)
    (children : List Element) :
    (writtenMembers head children).value? "type" = some (.string head.type) ∧
      (writtenMembers head children).value? "id" = head.id.map Value.string ∧
      (writtenMembers head children).value? "children" = some (.list (children.map write)) := by
  have hid : Members.value? head.withoutNulls.props "id" = none :=
    Members.value?_eq_none fun entry hentry => (apart_withoutNulls apart entry hentry).2.1
  unfold writtenMembers
  simp [Members.value?_append, Members.value?_cons, hid]

theorem withoutNulls_node (head : ElementHead) (children : List Element) :
    withoutNulls (.node head children) =
      .node head.withoutNulls (children.map withoutNulls) :=
  Tree.map_node _ _ _

theorem forall₂_map_read {es : List Element}
    (h : ∀ e ∈ es, read e.write = .ok e.withoutNulls) :
    List.Forall₂ (fun v e => read v = .ok e) (es.map write) (es.map withoutNulls) := by
  rw [List.forall₂_map_left_iff, List.forall₂_map_right_iff, List.forall₂_same]
  exact h

/-- What is written of an element is read back, but for the props that are null. -/
theorem read_write {e : Element} (apart : e.Apart) : read e.write = .ok e.withoutNulls := by
  induction e using Tree.induct with
  | node head children ih =>
      rw [apart_node] at apart
      obtain ⟨hhead, hchildren⟩ := apart
      obtain ⟨htype, hid, hitems⟩ := value?_writtenMembers hhead children
      rw [write_node, withoutNulls_node, read_ok_iff]
      refine ⟨_, rfl, ?_, ?_, propsOf_writtenMembers hhead children, ?_⟩
      · exact (Members.field_of_value? htype).mpr rfl
      · exact Members.field_optional hid
      · refine (Members.field_of_value? hitems).mpr (readCollection_ok_iff.mpr ⟨_, rfl, ?_⟩)
        exact forall₂_map_read fun e he => ih e he (hchildren e he)

theorem readCollection_write {es : List Element} (apart : ∀ e ∈ es, e.Apart) :
    readCollection (.list (writeAll es)) = .ok (es.map withoutNulls) := by
  rw [writeAll_eq_map]
  refine readCollection_ok_iff.mpr ⟨_, rfl, ?_⟩
  exact forall₂_map_read fun e he => read_write (apart e he)

/-- A prop that is null reads as one that is absent. -/
theorem prop_withoutNulls {e : Element} (sound : e.Sound) {name : String}
    (h : name ≠ "children") : e.withoutNulls.prop name = e.prop name := by
  obtain ⟨head, children⟩ := e
  rw [sound_node] at sound
  rw [withoutNulls_node]
  simp only [prop, toMembers, Members.value_cons]
  rw [if_neg h.symm, if_neg h.symm]
  rw [show props (.node head.withoutNulls (children.map withoutNulls)) =
    head.props.filter (fun entry => !entry.2.isNull) from rfl,
    Members.value_filter_isNull sound.1.props.keys]
  rfl

end Element

/-! ## Places, screens, edges -/

theorem Number.asDouble_of_isCoordinate {n : Number} (h : n.IsCoordinate) :
    (Value.number n).asDouble = .ok n.toDouble := by
  rcases h with rfl | ⟨x, rfl⟩
  · decide
  · rfl

theorem Point.read_write {p : Point Number} (hx : p.x.IsCoordinate) (hy : p.y.IsCoordinate) :
    Point.read p.write = .ok p.saved := by
  rw [Point.read_ok_iff]
  refine ⟨_, rfl, ?_, ?_⟩
  · rw [Members.field_of_value? (v := .number p.x) (by simp [Members.value?_cons]),
      Number.asDouble_of_isCoordinate hx]
    rfl
  · rw [Members.field_of_value? (v := .number p.y) (by simp [Members.value?_cons]),
      Number.asDouble_of_isCoordinate hy]
    rfl

theorem Screen.fields_write (s : Screen Number) :
    ∃ members : Members, s.write = .object members ∧
      members.value? "id" = s.id.map Value.string ∧
      members.value? "name" = some (.string s.name) ∧
      members.value? "position" = s.position.map Point.write ∧
      members.value? "elements" = some (.list (Element.writeAll s.elements)) := by
  refine ⟨_, rfl, ?_, ?_, ?_, ?_⟩
  · cases s.id <;> cases s.position <;> simp [Members.value?_append, Members.value?_cons]
  · simp [Members.value?_append, Members.value?_cons]
  · cases s.position <;> simp [Members.value?_append, Members.value?_cons]
  · cases s.position <;> simp [Members.value?_append, Members.value?_cons]

theorem Point.readOptional_write {p : Point Number} (hx : p.x.IsCoordinate)
    (hy : p.y.IsCoordinate) : Point.readOptional p.write = .ok (some p.saved) := by
  have hread := Point.read_write hx hy
  unfold Point.readOptional
  split
  · next hnull => cases hnull
  · rw [hread]
    rfl

theorem Screen.read_write {s : Screen Number} (regular : s.Regular) :
    Screen.read s.write = .ok s.saved := by
  obtain ⟨members, hwrite, hid, hname, hposition, helements⟩ := s.fields_write
  rw [Screen.read_ok_iff]
  refine ⟨members, hwrite, Members.field_optional hid, ?_, ?_, ?_⟩
  · exact (Members.field_of_value? hname).mpr rfl
  · unfold saved
    cases hp : s.position with
    | none =>
        rw [hp] at hposition
        exact Members.field_of_absent hposition
    | some p =>
        rw [hp] at hposition
        obtain ⟨hx, hy⟩ := regular.coordinates p hp
        exact (Members.field_of_value? hposition).mpr (Point.readOptional_write hx hy)
  · exact (Members.field_of_value? helements).mpr (Element.readCollection_write regular.apart)

theorem FlowEdge.read_write (f : FlowEdge) : FlowEdge.read f.write = .ok f := by
  rw [FlowEdge.read_ok_iff]
  refine ⟨_, rfl, ?_, ?_, ?_, ?_⟩
  · refine Members.fieldNamed_optional ?_ ?_
    · simp [Members.value?_append]
    · simp [Members.value?_append]
  · exact Members.field_optional (by simp [Members.value?_append])
  · exact Members.field_optional (by simp [Members.value?_append])
  · exact Members.field_optional (by simp [Members.value?_append])

/-- What is written of a spec that was read is read back. -/
theorem Spec.read_write {spec : Spec Number} (regular : ∀ s ∈ spec.screens, s.Regular) :
    Spec.read spec.write = .ok spec.saved := by
  rw [Spec.read_ok_iff]
  refine ⟨_, rfl, ?_, ?_, ?_⟩
  · unfold Members.fieldNamed
    rw [if_pos (by simp [Members.has, Members.value?_cons])]
    exact (Members.field_of_value? (v := .string spec.appName) rfl).mpr rfl
  · refine (Members.field_of_value? (v := .list (spec.screens.map Screen.write)) ?_).mpr ?_
    · simp [Members.value?_cons]
    · refine Value.asListOf_ok_iff.mpr ⟨_, rfl, ?_⟩
      unfold saved
      rw [List.forall₂_map_left_iff, List.forall₂_map_right_iff, List.forall₂_same]
      exact fun s hs => Screen.read_write (regular s hs)
  · refine (Members.field_of_value? (v := .list (spec.flows.map FlowEdge.write)) ?_).mpr ?_
    · simp [Members.value?_cons]
    · refine Value.asListOf_ok_iff.mpr ⟨_, rfl, ?_⟩
      unfold saved
      rw [List.forall₂_map_left_iff, List.forall₂_same]
      exact fun f _ => FlowEdge.read_write f

/-! ## What is written is sound -/

theorem keys_optionalField (key : String) (s : Option String) :
    ((optionalField key s).map Prod.fst).Sublist [key] := by
  cases s with
  | none => exact List.nil_sublist _
  | some s => exact List.Sublist.refl _

theorem sound_optionalField {p : Number → Prop} (key : String) (s : Option String) :
    ∀ entry ∈ optionalField key s, entry.2.Sound p := by
  cases s with
  | none => simp [optionalField]
  | some s => exact List.forall_mem_singleton.mpr (.string s)

namespace Element

theorem keys_writtenMembers {head : ElementHead} (sound : head.Sound) (children : List Element) :
    ((writtenMembers head children).map Prod.fst).Nodup := by
  have hprops : (head.withoutNulls.props.map Prod.fst).Nodup :=
    sound.props.keys.sublist (List.filter_sublist.map Prod.fst)
  have hkeys : ∀ key ∈ head.withoutNulls.props.map Prod.fst,
      key ≠ "type" ∧ key ≠ "id" ∧ key ≠ "children" := by
    intro key hkey
    obtain ⟨entry, hentry, rfl⟩ := List.mem_map.mp hkey
    exact apart_withoutNulls sound.apart entry hentry
  have hall : ("type" :: "id" :: "children" :: head.withoutNulls.props.map Prod.fst).Nodup := by
    simp only [List.nodup_cons, List.mem_cons, not_or]
    refine ⟨⟨by decide, by decide, fun h => (hkeys _ h).1 rfl⟩,
      ⟨by decide, fun h => (hkeys _ h).2.1 rfl⟩, fun h => (hkeys _ h).2.2 rfl, hprops⟩
  refine hall.sublist ?_
  unfold writtenMembers
  rw [List.map_append, List.map_cons, List.map_cons, List.cons_append]
  exact ((keys_optionalField "id" head.id).append (List.Sublist.refl _)).cons_cons "type"

theorem sound_write {e : Element} (sound : e.Sound) : e.write.Sound Number.IsWritable := by
  induction e using Tree.induct with
  | node head children ih =>
      rw [sound_node] at sound
      obtain ⟨hhead, hchildren⟩ := sound
      rw [write_node]
      refine .object (keys_writtenMembers hhead children) ?_
      unfold writtenMembers
      rw [List.forall_mem_append, List.forall_mem_cons, List.forall_mem_cons]
      refine ⟨⟨.string _, sound_optionalField _ _⟩, .list ?_, ?_⟩
      · intro v hv
        obtain ⟨e, he, rfl⟩ := List.mem_map.mp hv
        exact ih e he (hchildren e he)
      · intro entry hentry
        exact hhead.props.below entry (List.mem_filter.mp hentry).1

end Element

theorem Number.isWritable_of_isCoordinate {n : Number} (h : n.IsCoordinate) : n.IsWritable := by
  rcases h with rfl | ⟨x, rfl⟩
  · exact Text.isWritable_zero
  · trivial

theorem Point.sound_write {p : Point Number} (hx : p.x.IsCoordinate) (hy : p.y.IsCoordinate) :
    p.write.Sound Number.IsWritable := by
  refine .object (by simp) ?_
  simp only [List.forall_mem_cons]
  exact ⟨.number (Number.isWritable_of_isCoordinate hx),
    .number (Number.isWritable_of_isCoordinate hy), List.forall_mem_nil _⟩

theorem Screen.sound_write {s : Screen Number} (loaded : s.Loaded) :
    s.write.Sound Number.IsWritable := by
  obtain ⟨p, hp, hx, hy⟩ := loaded.position
  have hkeys : ["id", "name", "position", "elements"].Nodup := by decide
  unfold write
  rw [hp]
  refine .object (hkeys.sublist ?_) ?_
  · simp only [List.map_append, List.map_cons, List.map_nil, List.append_assoc]
    exact (keys_optionalField "id" s.id).append (List.Sublist.refl _)
  · simp only [List.forall_mem_append, List.forall_mem_cons]
    refine ⟨⟨⟨sound_optionalField _ _, .string _, List.forall_mem_nil _⟩,
      Point.sound_write hx hy, List.forall_mem_nil _⟩, .list ?_, List.forall_mem_nil _⟩
    intro v hv
    rw [Element.writeAll_eq_map] at hv
    obtain ⟨e, he, rfl⟩ := List.mem_map.mp hv
    exact Element.sound_write (loaded.sound e he)

theorem FlowEdge.sound_write (f : FlowEdge) : f.write.Sound Number.IsWritable := by
  have hkeys : ["from", "to", "label", "type"].Nodup := by decide
  refine .object (hkeys.sublist ?_) ?_
  · simp only [List.map_append]
    exact (((keys_optionalField _ _).append (keys_optionalField _ _)).append
      (keys_optionalField _ _)).append (keys_optionalField _ _)
  · simp only [List.forall_mem_append]
    exact ⟨⟨⟨sound_optionalField _ _, sound_optionalField _ _⟩, sound_optionalField _ _⟩,
      sound_optionalField _ _⟩

theorem Spec.sound_write {spec : Spec Number} (loaded : ∀ s ∈ spec.screens, s.Loaded) :
    spec.write.Sound Number.IsWritable := by
  refine .object (by simp) ?_
  simp only [List.forall_mem_cons]
  refine ⟨.string _, .list ?_, .list ?_, List.forall_mem_nil _⟩
  · intro v hv
    obtain ⟨s, hs, rfl⟩ := List.mem_map.mp hv
    exact Screen.sound_write (loaded s hs)
  · intro v hv
    obtain ⟨f, _, rfl⟩ := List.mem_map.mp hv
    exact FlowEdge.sound_write f

end Wireframe

import Wireframe.Proofs.Spec.Agreement

/-! # Empty collections

A producer that has nothing to put into a collection writes null, an empty list, or not even the
key. The three read the same wherever a document has a collection, whatever the producer does about
its other collections and whatever else is wrong with the document (`Spec.read_emptyForms`).
-/

namespace Wireframe

/-- How an empty collection is written. -/
inductive EmptyForm where
  | null
  | list
  | absent

/-- How every null that stands for a collection is written instead, by the path to it. -/
abbrev EmptyForms := List Step → EmptyForm

def EmptyForms.under (forms : EmptyForms) (step : Step) : EmptyForms :=
  fun path => forms (step :: path)

namespace Members

/-- The table with a null under a key in another form. -/
def writeNull (members : Members) (key : String) (form : EmptyForm) : Members :=
  match members.value? key, form with
  | some .null, .list => members.mapAt key fun _ => .list []
  | some .null, .absent => members.filter fun entry => entry.1 != key
  | _, _ => members

/-- The table with the collection under a key rewritten, and in another form where it is null. -/
def rewrite (members : Members) (key : String) (form : EmptyForm) (below : Value → Value) :
    Members :=
  (members.mapAt key below).writeNull key form

end Members

/-- The reader of a collection takes null and an empty list for nothing. -/
structure ReadsEmpty {α : Type} (read : Value → Checked (List α)) : Prop where
  null : read .null = .ok []
  list : read (.list []) = .ok []

theorem readsEmpty_readCollection : ReadsEmpty Element.readCollection := ⟨rfl, rfl⟩

theorem readsEmpty_asListOf {α : Type} (read : Value → Checked α) :
    ReadsEmpty (Value.asListOf read) :=
  ⟨rfl, rfl⟩

def Value.mapItemsIdx (f : Nat → Value → Value) : Value → Value
  | .list items => .list (items.mapIdx f)
  | v => v

namespace EmptyForms

mutual

/-- An element whose null collections take their forms, at every depth. -/
def element (forms : EmptyForms) : Value → Value
  | .object members =>
      .object (Members.writeNull (children forms members) "children" (forms [.key "children"]))
  | v => v

def children (forms : EmptyForms) : List (String × Value) → List (String × Value)
  | [] => []
  | (key, value) :: rest =>
      (key, if key = "children" then elements (forms.under (.key "children")) value else value)
        :: children forms rest

def elements (forms : EmptyForms) : Value → Value
  | .list items => .list (elementsFrom forms 0 items)
  | v => v

def elementsFrom (forms : EmptyForms) (index : Nat) : List Value → List Value
  | [] => []
  | item :: items =>
      element (forms.under (.index index)) item :: elementsFrom forms (index + 1) items

end

def screen (forms : EmptyForms) : Value → Value
  | .object fields =>
      .object (Members.rewrite fields "elements" (forms [.key "elements"])
        (forms.under (.key "elements")).elements)
  | v => v

/-- A document whose null collections take their forms: its screens and flows, the elements of its
screens, and what elements have below them. -/
def document (forms : EmptyForms) : Value → Value
  | .object members =>
      let screens := (forms.under (.key "screens")).under
      .object ((Members.rewrite members "screens" (forms [.key "screens"])
        (Value.mapItemsIdx fun i => (screens (.index i)).screen)).writeNull "flows"
          (forms [.key "flows"]))
  | v => v

end EmptyForms

/-! ## Fields -/

namespace Members

variable {members : Members} {key other : String} {form : EmptyForm} {below : Value → Value}

theorem value?_writeNull_of_ne (h : other ≠ key) :
    (members.writeNull key form).value? other = members.value? other := by
  unfold writeNull
  split
  · exact value?_mapAt_of_ne h
  · rw [value?_filter fun k => k != key, if_pos (by simpa using h)]
  · rfl

theorem value?_rewrite_of_ne (h : other ≠ key) :
    (members.rewrite key form below).value? other = members.value? other := by
  rw [rewrite, value?_writeNull_of_ne h, value?_mapAt_of_ne h]

variable {α : Type} {read : Value → Checked (List α)}

/-- A collection reads alike in every form of null. -/
theorem field_writeNull (empty : ReadsEmpty read) :
    (members.writeNull key form).field key [] read = members.field key [] read := by
  unfold writeNull
  split
  · next hvalue =>
    rw [field, field, value?_mapAt, hvalue, Option.map_some]
    dsimp only
    rw [empty.null, empty.list]
  · next hvalue =>
    rw [field, field, value?_filter fun k => k != key, hvalue, if_neg (by simp)]
    dsimp only
    rw [empty.null]
    rfl
  · rfl

/-- So it does when it is rewritten to one that reads alike. -/
theorem field_rewrite (empty : ReadsEmpty read)
    (h : ∀ v, members.value? key = some v → read (below v) = read v) :
    (members.rewrite key form below).field key [] read = members.field key [] read := by
  rw [rewrite, field_writeNull empty, field, field, value?_mapAt]
  cases hvalue : members.value? key with
  | none => rfl
  | some v =>
      rw [Option.map_some]
      dsimp only
      rw [h v hvalue]

end Members

/-! ## Elements -/

namespace Element

theorem propsOf_mapAt_children (members : Members) (f : Value → Value) :
    propsOf (members.mapAt "children" f) = propsOf members := by
  induction members with
  | nil => rfl
  | cons entry rest ih =>
      obtain ⟨key, value⟩ := entry
      rw [Members.mapAt, List.map_cons, ← Members.mapAt, propsOf, List.filter_cons, ← propsOf, ih,
        propsOf, propsOf, List.filter_cons]
      by_cases hkey : key = "children" <;> simp [hkey]

theorem propsOf_rewrite_children (members : Members) (form : EmptyForm) (below : Value → Value) :
    propsOf (members.rewrite "children" form below) = propsOf members := by
  unfold Members.rewrite Members.writeNull
  split
  · rw [propsOf_mapAt_children, propsOf_mapAt_children]
  · rw [← propsOf_mapAt_children members below, propsOf, propsOf, List.filter_filter]
    refine List.filter_congr fun entry _ => ?_
    by_cases hkey : entry.1 = "children" <;> simp [hkey]
  · exact propsOf_mapAt_children members below

theorem read_object (members : Members) :
    read (.object members) = Checked.both Tree.node (readHead members)
      (members.field "children" [] readCollection) := by
  rw [read, under_readChildren]

theorem read_rewrite {members : Members} {form : EmptyForm} {below : Value → Value}
    (h : ∀ v, members.value? "children" = some v → readCollection (below v) = readCollection v) :
    read (.object (members.rewrite "children" form below)) = read (.object members) := by
  have hother {other : String} (hne : other ≠ "children") :
      (members.rewrite "children" form below).value? other = members.value? other :=
    Members.value?_rewrite_of_ne hne
  rw [read_object, read_object, readHead, readHead, propsOf_rewrite_children,
    Members.field_congr (hother (show "type" ≠ "children" by decide)),
    Members.field_congr (hother (show "id" ≠ "children" by decide)),
    Members.field_rewrite readsEmpty_readCollection h]

end Element

namespace EmptyForms

theorem children_eq_mapAt (forms : EmptyForms) (members : Members) :
    forms.children members =
      members.mapAt "children" (forms.under (.key "children")).elements := by
  induction members with
  | nil => rfl
  | cons entry rest ih =>
      rw [children, ih]
      rfl

theorem element_object (forms : EmptyForms) (members : Members) :
    forms.element (.object members) = .object (members.rewrite "children" (forms [.key "children"])
      (forms.under (.key "children")).elements) := by
  rw [element, children_eq_mapAt]
  rfl

/-- A collection reads the same when its items do. -/
theorem readItems_elementsFrom {items : List Value}
    (h : ∀ item ∈ items, ∀ forms : EmptyForms,
      Element.read (forms.element item) = Element.read item)
    (forms : EmptyForms) (index : Nat) :
    Element.readItems index (forms.elementsFrom index items) = Element.readItems index items := by
  induction items generalizing index with
  | nil => rfl
  | cons item items ih =>
      rw [List.forall_mem_cons] at h
      rw [elementsFrom, Element.readItems, Element.readItems, h.1, ih h.2]

theorem read_element (v : Value) (forms : EmptyForms) :
    Element.read (forms.element v) = Element.read v := by
  match v with
  | .object members =>
      rw [element_object]
      refine Element.read_rewrite fun collection hcollection => ?_
      have hmem := Members.mem_of_value? hcollection
      match collection with
      | .list items =>
          exact readItems_elementsFrom (fun item hitem forms => read_element item forms) _ 0
      | .null | .bool _ | .number _ | .string _ | .object _ => rfl
  | .null | .bool _ | .number _ | .string _ | .list _ => rfl
termination_by sizeOf v
decreasing_by
  have hinner := List.sizeOf_lt_of_mem hitem
  have houter := List.sizeOf_lt_of_mem hmem
  simp only [Prod.mk.sizeOf_spec, Value.list.sizeOf_spec, Value.object.sizeOf_spec] at houter ⊢
  omega

theorem readCollection_elements (forms : EmptyForms) (v : Value) :
    Element.readCollection (forms.elements v) = Element.readCollection v := by
  cases v with
  | list items => exact readItems_elementsFrom (fun item _ => read_element item) forms 0
  | _ => rfl

end EmptyForms

/-! ## Screens and documents -/

theorem Screen.read_rewrite {fields : Members} {form : EmptyForm} {below : Value → Value}
    (h : ∀ v, Element.readCollection (below v) = Element.readCollection v) :
    Screen.read (.object (fields.rewrite "elements" form below)) =
      Screen.read (.object fields) := by
  have hother {other : String} (hne : other ≠ "elements") :
      (fields.rewrite "elements" form below).value? other = fields.value? other :=
    Members.value?_rewrite_of_ne hne
  simp only [Screen.read, Value.asMembers, Except.ok_bind]
  rw [Members.field_congr (hother (show "id" ≠ "elements" by decide)),
    Members.field_congr (hother (show "name" ≠ "elements" by decide)),
    Members.field_congr (hother (show "position" ≠ "elements" by decide)),
    Members.field_rewrite readsEmpty_readCollection fun v _ => h v]

theorem EmptyForms.read_screen (forms : EmptyForms) (v : Value) :
    Screen.read (forms.screen v) = Screen.read v := by
  cases v with
  | object fields => exact Screen.read_rewrite (readCollection_elements _)
  | _ => rfl

theorem Checked.each_mapIdx {α β : Type} {check : α → Checked β} {f : Nat → α → α}
    (h : ∀ i a, check (f i a) = check a) (start : Nat) (items : List α) :
    Checked.each check start (items.mapIdx f) = Checked.each check start items := by
  induction items generalizing start f with
  | nil => rfl
  | cons a rest ih =>
      rw [List.mapIdx_cons, each, each, h, ih fun i => h (i + 1)]

theorem Value.asListOf_mapItemsIdx {α : Type} {read : Value → Checked α} {f : Nat → Value → Value}
    (h : ∀ i v, read (f i v) = read v) (v : Value) :
    (v.mapItemsIdx f).asListOf read = v.asListOf read := by
  cases v with
  | list items => exact Checked.each_mapIdx h 0 items
  | _ => rfl

namespace Spec

variable {members : Members} {form : EmptyForm}

theorem read_rewrite_screens {below : Value → Value}
    (h : ∀ v, Value.asListOf Screen.read (below v) = Value.asListOf Screen.read v) :
    Spec.read (.object (members.rewrite "screens" form below)) = Spec.read (.object members) := by
  have hother {other : String} (hne : other ≠ "screens") :
      (members.rewrite "screens" form below).value? other = members.value? other :=
    Members.value?_rewrite_of_ne hne
  simp only [Spec.read, Value.asMembers, Except.ok_bind]
  rw [Members.fieldNamed_congr (hother (show "appName" ≠ "screens" by decide))
      (hother (show "app_name" ≠ "screens" by decide)),
    Members.field_congr (hother (show "flows" ≠ "screens" by decide)),
    Members.field_rewrite (readsEmpty_asListOf Screen.read) fun v _ => h v]

theorem read_writeNull_flows :
    Spec.read (.object (members.writeNull "flows" form)) = Spec.read (.object members) := by
  have hother {other : String} (hne : other ≠ "flows") :
      (members.writeNull "flows" form).value? other = members.value? other :=
    Members.value?_writeNull_of_ne hne
  simp only [Spec.read, Value.asMembers, Except.ok_bind]
  rw [Members.fieldNamed_congr (hother (show "appName" ≠ "flows" by decide))
      (hother (show "app_name" ≠ "flows" by decide)),
    Members.field_congr (hother (show "screens" ≠ "flows" by decide)),
    Members.field_writeNull (readsEmpty_asListOf FlowEdge.read)]

/-- Whatever is wrong with a document besides, it reads the same, to one spec or to one list of
faults, however the nulls that stand for its collections are written instead: as null, as an empty
list or not at all, each by a choice of its own. -/
theorem read_emptyForms (forms : EmptyForms) (document : Value) :
    Spec.read (forms.document document) = Spec.read document := by
  cases document with
  | object members =>
      let screens := (forms.under (.key "screens")).under
      calc Spec.read (forms.document (.object members))
        _ = Spec.read (.object (Members.rewrite members "screens" (forms [.key "screens"])
              (Value.mapItemsIdx fun i => (screens (.index i)).screen))) := read_writeNull_flows
        _ = Spec.read (.object members) :=
            read_rewrite_screens
              (Value.asListOf_mapItemsIdx fun i => (screens (.index i)).read_screen)
  | _ => rfl

example :
    let forms : EmptyForms := fun path => if path.length = 1 then .absent else .list
    let element (children : Value) : Value := .object [("children", children), ("note", .null)]
    let document (screens : List Value) (flows : Members) : Value :=
      .object (("screens", .list screens) :: flows)
    forms.document (document [.object [("elements", .null)],
        .object [("elements", .list [element (.list [element .null])])]] [("flows", .null)]) =
      document [.object [("elements", .list [])],
        .object [("elements", .list [element (.list [element (.list [])])])]] [] := rfl

end Spec

end Wireframe

import Wireframe.Proofs.Spec.Agreement
import Wireframe.Proofs.Spec.Shape

/-! # Empty ids

An empty id is no id to whoever reads a document: a screen that has one is given another, as if it
had none. The check against duplicate ids does not look at it like that. It passes over null only,
so the empty ids of two screens are a duplicate to it, although both would have been replaced.
`Spec.ofDocument_withoutBlankIds_iff` says that this is the only difference that writing null for
the empty ids of screens can make.
-/

namespace Wireframe

namespace Value

def orNull (v : Value) : Value := if v.is "" then .null else v

def withoutBlankId : Value → Value
  | .object fields => .object (Members.mapAt fields "id" orNull)
  | v => v

/-- A document whose screens have null for empty ids. -/
def withoutBlankIds : Value → Value
  | .object members => .object (Members.mapAt members "screens" (mapItems withoutBlankId))
  | v => v

theorem is_iff {v : Value} {s : String} : v.is s = true ↔ v = .string s := by
  cases v <;> simp [is]

theorem sameKey_string_right {v : Value} {s : String} :
    v.sameKey (.string s) = true ↔ v = .string s := by
  cases v <;> simp [sameKey, numeric?]

end Value

open Value (orNull withoutBlankId withoutBlankIds)

/-! ## The checks before the ids -/

namespace Envelope

section Depth

variable {limit : Int} {f : Value → Value}

theorem excessItems?_map (h : ∀ depth v, excess? limit depth (f v) = excess? limit depth v)
    (depth : Int) (items : List Value) :
    excessItems? limit depth (items.map f) = excessItems? limit depth items := by
  induction items with
  | nil => rfl
  | cons item items ih => rw [List.map_cons, excessItems?, excessItems?, h, ih]

theorem excessMembers?_mapAt (h : ∀ depth v, excess? limit depth (f v) = excess? limit depth v)
    (depth : Int) (members : Members) (key : String) :
    excessMembers? limit depth (members.mapAt key f) = excessMembers? limit depth members := by
  induction members with
  | nil => rfl
  | cons entry rest ih =>
      obtain ⟨k, v⟩ := entry
      rw [Members.mapAt, List.map_cons, ← Members.mapAt, excessMembers?, excessMembers?, ih]
      by_cases hk : k = key
      · simp only [hk, if_true, h]
      · simp only [hk, if_false]

theorem excess?_orNull (depth : Int) (v : Value) :
    excess? limit depth v.orNull = excess? limit depth v := by
  rw [orNull]
  split
  · next hblank =>
    rw [Value.is_iff.mp hblank]
    rfl
  · rfl

theorem excess?_withoutBlankId (depth : Int) (v : Value) :
    excess? limit depth v.withoutBlankId = excess? limit depth v := by
  cases v with
  | object fields => rw [withoutBlankId, excess?, excess?, excessMembers?_mapAt excess?_orNull]
  | _ => rfl

theorem excess?_mapItems (depth : Int) (v : Value) :
    excess? limit depth (v.mapItems withoutBlankId) = excess? limit depth v := by
  cases v with
  | list items =>
      rw [Value.mapItems, excess?, excess?, excessItems?_map excess?_withoutBlankId]
  | _ => rfl

theorem checkDepth_withoutBlankIds (document : Value) (limit depth : Int) :
    checkDepth document.withoutBlankIds limit depth = checkDepth document limit depth := by
  cases document with
  | object members =>
      rw [withoutBlankIds, checkDepth, checkDepth, excess?, excess?,
        excessMembers?_mapAt excess?_mapItems]
  | _ => rfl

end Depth

theorem checkList_screens (members : Members) (f : Value → Value) :
    checkList (members.mapAt "screens" (Value.mapItems f)) "screens" =
      checkList members "screens" := by
  rw [checkList, checkList, Members.value_mapAt rfl]
  cases members.value "screens" <;> rfl

theorem screens_mapAt (members : Members) (f : Value → Value) :
    screens (members.mapAt "screens" (Value.mapItems f)) = (screens members).map f := by
  rw [screens, screens, Members.value_mapAt rfl]
  cases members.value "screens" <;> rfl

theorem checkScreens_withoutBlankId (index : Nat) (screens : List Value) :
    checkScreens index (screens.map withoutBlankId) = checkScreens index screens := by
  induction screens generalizing index with
  | nil => rfl
  | cons v rest ih =>
      cases v with
      | object fields =>
          rw [List.map_cons, withoutBlankId, checkScreens, checkScreens,
            Members.value_mapAt_of_ne (by decide), ih]
      | _ => rfl

/-! ## The check of the ids -/

def named (ids : List Value) : List Value := ids.filter fun id => !id.is ""

theorem idField_withoutBlankId (v : Value) : v.withoutBlankId.idField = v.idField.orNull := by
  cases v with
  | object fields => exact Members.value_mapAt rfl
  | _ => rfl

theorem screenIds_withoutBlankId (screens : List Value) :
    screenIds (screens.map withoutBlankId) = named (screenIds screens) := by
  rw [screenIds_eq, screenIds_eq, named, List.map_map, List.filter_filter]
  induction screens with
  | nil => rfl
  | cons v rest ih =>
      simp only [List.map_cons, List.filter_cons, Function.comp_apply, idField_withoutBlankId]
      rw [ih]
      by_cases hblank : v.idField = .string ""
      · simp [hblank, orNull, Value.is, Value.isNull]
      · have hnot : v.idField.is "" = false := by
          rw [← Bool.not_eq_true, Value.is_iff]
          exact hblank
        simp [orNull, hnot]

theorem mem_named {ids : List Value} {id : Value} :
    id ∈ named ids ↔ id ∈ ids ∧ id ≠ .string "" := by
  rw [named, List.mem_filter, Bool.not_eq_true', ← Bool.not_eq_true, Value.is_iff]

theorem named_cons {id : Value} (hid : id ≠ .string "") (ids : List Value) :
    named (id :: ids) = id :: named ids := by
  apply List.filter_cons_of_pos
  rw [Bool.not_eq_true', ← Bool.not_eq_true, Value.is_iff]
  exact hid

/-- The empty ids before it do not matter to an id that is not empty. -/
theorem reports_named {seen : List Value} {id : Value} (hid : id ≠ .string "")
    (cause : EnvelopeError) : Reports (named seen) id cause ↔ Reports seen id cause := by
  have hagain : (∃ other ∈ named seen, other.sameKey id = true) ↔
      ∃ other ∈ seen, other.sameKey id = true := by
    constructor
    · rintro ⟨other, hother, hsame⟩
      exact ⟨other, (mem_named.mp hother).1, hsame⟩
    · rintro ⟨other, hother, hsame⟩
      refine ⟨other, mem_named.mpr ⟨hother, ?_⟩, hsame⟩
      rintro rfl
      exact hid (Value.sameKey_string_iff.mp hsame)
  rw [Reports, Reports, hagain]

/-- Without the empty ids the check says the same, unless it reports an empty one. -/
theorem checkIds_named (seen ids : List Value) :
    checkIds (named seen) (named ids) = checkIds seen ids ∨
      checkIds seen ids = .error (.duplicateId (.string "")) := by
  induction ids generalizing seen with
  | nil => exact .inl rfl
  | cons id rest ih =>
      by_cases hreported : ∃ report, Reports seen id report
      · obtain ⟨report, hreport⟩ := hreported
        rw [checkIds_of_reports hreport]
        by_cases hblank : id = .string ""
        · subst hblank
          rcases hreport with ⟨hkey, -⟩ | ⟨-, -, rfl⟩
          · cases hkey
          · exact .inr rfl
        · rw [named_cons hblank, checkIds_of_reports ((reports_named hblank report).mpr hreport)]
          exact .inl rfl
      · rw [not_exists] at hreported
        rw [checkIds_of_not_reports hreported]
        by_cases hblank : id = .string ""
        · subst hblank
          exact ih (.string "" :: seen)
        · have hnew : ∀ report, ¬ Reports (named seen) id report := fun report =>
            mt (reports_named hblank report).mp (hreported report)
          rw [named_cons hblank, checkIds_of_not_reports hnew, ← named_cons hblank]
          exact ih (id :: seen)

theorem checkIds_named_ne (seen ids : List Value) :
    checkIds seen (named ids) ≠ .error (.duplicateId (.string "")) := by
  intro h
  obtain ⟨before, id, after, hids, -, hreports⟩ := checkIds_error_iff.mp h
  have hmem : id ∈ named ids := by
    rw [hids]
    exact List.mem_append_right before List.mem_cons_self
  rcases hreports with ⟨-, hcause⟩ | ⟨-, -, hcause⟩
  · cases hcause
  · cases hcause
    exact (mem_named.mp hmem).2 rfl

/-! ## The whole check -/

def checkShape (members : Members) (text : Option String) (maxSize maxDepth : Int) :
    Except EnvelopeError Unit := do
  match text with
  | some text => checkSize text maxSize "Spec document"
  | none => pure ()
  checkDepth (.object members) maxDepth 0
  checkList members "screens"
  checkList members "flows"
  checkScreens 0 (screens members)

variable {members : Members} {text : Option String} {maxSize maxDepth : Int}

theorem check_object (members : Members) (text : Option String) (maxSize maxDepth : Int) :
    check (.object members) text maxSize maxDepth = (do
      checkShape members text maxSize maxDepth
      checkIds [] (screenIds (screens members))) := by
  cases text <;> simp [check, checkShape, bind_assoc]

theorem checkShape_withoutBlankIds (members : Members) (text : Option String)
    (maxSize maxDepth : Int) :
    checkShape (members.mapAt "screens" (Value.mapItems withoutBlankId)) text maxSize maxDepth =
      checkShape members text maxSize maxDepth := by
  have hdepth := checkDepth_withoutBlankIds (.object members) maxDepth 0
  have hflows : checkList (members.mapAt "screens" (Value.mapItems withoutBlankId)) "flows" =
      checkList members "flows" := by
    rw [checkList, checkList, Members.value_mapAt_of_ne (by decide)]
  rw [withoutBlankIds] at hdepth
  simp only [checkShape, hdepth, checkList_screens, hflows, screens_mapAt,
    checkScreens_withoutBlankId]

theorem checkShape_ok_iff :
    checkShape members text maxSize maxDepth = .ok () ↔
      (∀ t ∈ text, (t.utf8ByteSize : Int) ≤ maxSize) ∧
        excess? maxDepth 0 (.object members) = none ∧ checkList members "screens" = .ok () ∧
        checkList members "flows" = .ok () ∧ checkScreens 0 (screens members) = .ok () := by
  cases text <;>
    simp [checkShape, Except.bind_ok_iff, Unique.exists_iff, checkSize_ok_iff, checkDepth_ok_iff]

/-- The document is of the right shape, and the check comes to an empty id behind another one. -/
def RepeatsBlank (document : Value) (text : Option String) (maxSize maxDepth : Int) : Prop :=
  (∀ t ∈ text, (t.utf8ByteSize : Int) ≤ maxSize) ∧ ∃ members before, document = .object members ∧
    Reaches members maxDepth before (.string "") ∧ .string "" ∈ before

theorem repeatsBlank_object_iff :
    RepeatsBlank (.object members) text maxSize maxDepth ↔
      checkShape members text maxSize maxDepth = .ok () ∧
        checkIds [] (screenIds (screens members)) = .error (.duplicateId (.string "")) := by
  rw [checkShape_ok_iff, checkList_ok_iff, checkList_ok_iff, checkScreens_ok_iff,
    checkIds_error_iff]
  simp only [List.nil_append, checkIds_ok_iff]
  constructor
  · rintro ⟨hsize, _, before, ⟨⟩, hreaches, hblank⟩
    obtain ⟨after, hids⟩ := hreaches.ids
    have hreports : Reports before (.string "") (.duplicateId (.string "")) :=
      .inr ⟨rfl, ⟨_, hblank, Value.sameKey_string_iff.mpr rfl⟩, rfl⟩
    exact ⟨⟨hsize, hreaches.depth, hreaches.screens, hreaches.flows, hreaches.shape⟩, before, _,
      after, hids, ⟨hreaches.keys, hreaches.apart, by simp⟩, hreports⟩
  · rintro ⟨⟨hsize, hdepth, hscreens, hflows, hshape⟩, before, id, after, hids,
      ⟨hkeys, hapart, -⟩, ⟨-, hcause⟩ | ⟨-, ⟨other, hother, hsame⟩, hcause⟩⟩
    · cases hcause
    · cases hcause
      rw [Value.sameKey_string_right] at hsame
      subst hsame
      exact ⟨hsize, members, before, rfl,
        ⟨hdepth, hscreens, hflows, hshape, ⟨after, hids⟩, hkeys, hapart⟩, hother⟩

/-- Where an empty id is repeated the check reports it. -/
theorem check_of_repeatsBlank {document : Value}
    (h : RepeatsBlank document text maxSize maxDepth) :
    check document text maxSize maxDepth = .error (.duplicateId (.string "")) := by
  obtain ⟨-, members, -, rfl, -⟩ := id h
  obtain ⟨hshape, hids⟩ := repeatsBlank_object_iff.mp h
  rw [check_object, hshape, Except.ok_bind, hids]

/-- Where none is repeated the check says the same of null in their place. -/
theorem check_withoutBlankIds {document : Value}
    (h : ¬ RepeatsBlank document text maxSize maxDepth) :
    check document.withoutBlankIds text maxSize maxDepth =
      check document text maxSize maxDepth := by
  cases document with
  | object members =>
      rw [repeatsBlank_object_iff] at h
      rw [withoutBlankIds, check_object, check_object, checkShape_withoutBlankIds, screens_mapAt,
        screenIds_withoutBlankId]
      cases hshape : checkShape members text maxSize maxDepth with
      | error cause => rfl
      | ok _ =>
          rcases checkIds_named [] (screenIds (screens members)) with hsame | hblank
          · exact hsame
          · exact absurd ⟨hshape, hblank⟩ h
  | _ => rfl

theorem check_withoutBlankIds_ne (document : Value) (text : Option String)
    (maxSize maxDepth : Int) (h : RepeatsBlank document text maxSize maxDepth) :
    check document.withoutBlankIds text maxSize maxDepth ≠
      .error (.duplicateId (.string "")) := by
  obtain ⟨-, members, -, rfl, -⟩ := id h
  rw [withoutBlankIds, check_object, checkShape_withoutBlankIds, screens_mapAt,
    screenIds_withoutBlankId, (repeatsBlank_object_iff.mp h).1, Except.ok_bind]
  exact checkIds_named_ne [] _

end Envelope

/-! ## Reading -/

/-- Screens that differ at most in an empty id and none. -/
def Screen.SameFilled (s t : Screen Number) : Prop := ∀ index, s.ensureIds index = t.ensureIds index

namespace Value

theorem asOptionalString_orNull (v : Value) :
    Checked.Agree (fun id id' => nonempty? id = nonempty? id') v.asOptionalString
      v.orNull.asOptionalString := by
  rw [orNull]
  split
  · next hblank =>
    rw [is_iff.mp hblank]
    exact .ok rfl
  · cases v.asOptionalString with
    | ok id => exact .ok rfl
    | error faults => exact .error faults

end Value

theorem Screen.sameFilled_of_id {id id' : Option String} (h : nonempty? id = nonempty? id')
    (name : String) (position : Option (Point Number)) (elements : List Element) :
    Screen.SameFilled ⟨id, name, position, elements⟩ ⟨id', name, position, elements⟩ := by
  intro index
  rw [ensureIds, ensureIds, idAt, idAt, h]

theorem Screen.read_mapAt (fields : Members) :
    Checked.Agree Screen.SameFilled (Screen.read (.object fields))
      (Screen.read (.object (fields.mapAt "id" orNull))) := by
  have hid : Checked.Agree (fun id id' => nonempty? id = nonempty? id')
      (fields.field "id" none Value.asOptionalString)
      ((fields.mapAt "id" orNull).field "id" none Value.asOptionalString) :=
    Members.field_mapAt rfl Value.asOptionalString_orNull
  have hname : Checked.Agree Eq (fields.field "name" "" Value.asLooseString)
      ((fields.mapAt "id" orNull).field "name" "" Value.asLooseString) :=
    Members.field_mapAt_of_ne (by decide)
  have hposition : Checked.Agree Eq (fields.field "position" none Point.readOptional)
      ((fields.mapAt "id" orNull).field "position" none Point.readOptional) :=
    Members.field_mapAt_of_ne (by decide)
  have helements : Checked.Agree Eq (fields.field "elements" [] Element.readCollection)
      ((fields.mapAt "id" orNull).field "elements" [] Element.readCollection) :=
    Members.field_mapAt_of_ne (by decide)
  refine .ap (.ap (hid.both hname ?_) hposition) helements
  rintro id id' name _ hsame rfl position _ rfl elements _ rfl
  exact Screen.sameFilled_of_id hsame name position elements

theorem Screen.read_withoutBlankId (v : Value) :
    Checked.Agree Screen.SameFilled (Screen.read v) (Screen.read v.withoutBlankId) := by
  cases v with
  | object fields => exact Screen.read_mapAt fields
  | _ => exact .error _

namespace Spec

/-- The members of a document read alike with empty ids of screens and with null for them, up to
what is made of the spec by filling in. -/
theorem read_mapAt (members : Members) :
    Checked.Agree (fun spec spec' : Spec Number => spec.ensureIds = spec'.ensureIds)
      (Spec.read (.object members))
      (Spec.read (.object (members.mapAt "screens" (Value.mapItems withoutBlankId)))) := by
  generalize hagain : members.mapAt "screens" (Value.mapItems withoutBlankId) = again
  have happName : Checked.Agree Eq (members.fieldNamed "appName" "app_name" "" Value.asString)
      (again.fieldNamed "appName" "app_name" "" Value.asString) := by
    rw [← hagain]
    exact Members.fieldNamed_mapAt_of_ne (by decide) (by decide)
  have hscreens : Checked.Agree (List.Forall₂ Screen.SameFilled)
      (members.field "screens" [] (Value.asListOf Screen.read))
      (again.field "screens" [] (Value.asListOf Screen.read)) := by
    rw [← hagain]
    exact Members.field_mapAt .nil (Value.asListOf_mapItems Screen.read_withoutBlankId)
  have hflows : Checked.Agree Eq (members.field "flows" [] (Value.asListOf FlowEdge.read))
      (again.field "flows" [] (Value.asListOf FlowEdge.read)) := by
    rw [← hagain]
    exact Members.field_mapAt_of_ne (by decide)
  refine .ap (happName.both hscreens ?_) hflows
  rintro appName _ screens screens' rfl hsame flows _ rfl
  rw [ensureIds, ensureIds, mapIdx_eq_of_forall₂ hsame]

theorem read_withoutBlankIds (document : Value) :
    Checked.Agree (fun spec spec' : Spec Number => spec.ensureIds = spec'.ensureIds)
      (Spec.read document) (Spec.read document.withoutBlankIds) := by
  cases document with
  | object members => exact read_mapAt members
  | _ => exact .error _

/-- Writing null for the empty ids of screens changes what becomes of a document exactly when an
empty id is repeated, and then the document is refused for it. -/
theorem ofDocument_withoutBlankIds_iff (document : Value) (text : Option String)
    (maxSize maxDepth : Int) :
    (ofDocument document.withoutBlankIds text maxSize maxDepth =
        ofDocument document text maxSize maxDepth ↔
      ¬ Envelope.RepeatsBlank document text maxSize maxDepth) ∧
    (Envelope.RepeatsBlank document text maxSize maxDepth →
      ofDocument document text maxSize maxDepth =
        .error (.envelope (.duplicateId (.string "")))) := by
  have hrefused : Envelope.RepeatsBlank document text maxSize maxDepth →
      ofDocument document text maxSize maxDepth =
        .error (.envelope (.duplicateId (.string ""))) := by
    intro hrepeats
    rw [ofDocument, Envelope.check_of_repeatsBlank hrepeats]
  refine ⟨⟨?_, ?_⟩, hrefused⟩
  · intro hsame hrepeats
    rw [hrefused hrepeats, ofDocument] at hsame
    have hne := Envelope.check_withoutBlankIds_ne document text maxSize maxDepth hrepeats
    split at hsame
    · next cause hcheck =>
      rw [LoadError.envelope.inj (Except.error.inj hsame)] at hcheck
      exact hne hcheck
    · split at hsame
      · cases hsame
      · cases hsame
  · intro hsingle
    rw [ofDocument, ofDocument, Envelope.check_withoutBlankIds hsingle]
    cases Envelope.check document text maxSize maxDepth with
    | error cause => rfl
    | ok _ =>
        have hread := read_withoutBlankIds document
        generalize Spec.read document = given at hread
        generalize Spec.read document.withoutBlankIds = again at hread
        cases hread with
        | ok hfilled => exact congrArg Except.ok hfilled.symm
        | error faults => rfl

/-- An empty id among named ones is not repeated; behind another one it is. -/
theorem ofDocument_withoutBlankIds_iff_named :
    let document (ids : List Value) :=
      Value.object [("screens", .list (ids.map fun id => .object [("id", id)]))]
    let single := document [.string "", .string "a", .null]
    let twice := document [.string "a", .string "", .string ""]
    ofDocument single.withoutBlankIds none defaultMaxSize defaultMaxDepth =
        ofDocument single none defaultMaxSize defaultMaxDepth ∧
      Envelope.RepeatsBlank twice none defaultMaxSize defaultMaxDepth ∧
      ofDocument twice none defaultMaxSize defaultMaxDepth =
        .error (.envelope (.duplicateId (.string ""))) := by
  intro document single twice
  have hsingle : ¬ Envelope.RepeatsBlank single none defaultMaxSize defaultMaxDepth := by
    intro hrepeats
    have hrun : (Envelope.check single none defaultMaxSize defaultMaxDepth).isOk = true := by
      decide +kernel
    rw [Envelope.check_of_repeatsBlank hrepeats] at hrun
    cases hrun
  have htwice : Envelope.RepeatsBlank twice none defaultMaxSize defaultMaxDepth :=
    Envelope.repeatsBlank_object_iff.mpr ⟨rfl, rfl⟩
  exact ⟨(ofDocument_withoutBlankIds_iff single none _ _).1.mpr hsingle, htwice,
    (ofDocument_withoutBlankIds_iff twice none _ _).2 htwice⟩

/-- Two screens with empty ids are refused as duplicates, and load with ids of their own when they
have null instead. -/
theorem ofDocument_blank_refused :
    let document (id : Value) :=
      Value.object [("screens", .list [.object [("id", id)], .object [("id", id)]])]
    let outcome (document : Value) := ofDocument document none defaultMaxSize defaultMaxDepth
    (document (.string "")).withoutBlankIds = document .null ∧
      outcome (document (.string "")) = .error (.envelope (.duplicateId (.string ""))) ∧
      (outcome (document .null)).toOption.map (fun spec => spec.screens.map Screen.id) =
        some [some "screen-1", some "screen-2"] := by
  intro document outcome
  exact ⟨rfl, rfl, by decide +kernel⟩

end Spec

end Wireframe

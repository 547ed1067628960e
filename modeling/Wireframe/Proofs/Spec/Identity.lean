import Mathlib.Data.List.Nodup
import Wireframe.Json.Lenient
import Wireframe.Proofs.Spec.Accepted

/-! # Which ids a loaded spec has

Every loaded screen has an id. The check against duplicate ids looks at the ids that the document
gives, as they stand there; a number that is then read as a text and an id that is made up for a
screen or an element are compared with nothing. `Spec.load_ids` says exactly when ids still differ.
-/

namespace Wireframe

namespace Value

def idField : Value → Value
  | .object members => Members.value members "id"
  | _ => .null

/-- The id that an object gives, as it is read: a number gives its text, the empty string none. -/
def givenId (v : Value) : Option String :=
  match v.idField with
  | .string s => nonempty? (some s)
  | .number n => nonempty? (some n.fullText)
  | _ => none

def givesNumber (v : Value) : Bool :=
  match v.idField with
  | .number _ => true
  | _ => false

def elementItems : Value → List Value
  | .object members =>
      match Members.value members "elements" with
      | .list items => items
      | _ => []
  | _ => []

end Value

/-- How two screens of a document come to have the same id although no duplicate is reported. -/
inductive SharedId (screens : List Value) (i j : Nat) : Prop where
  /-- One gives as a number the text that the other gives. -/
  | read {v w : Value} {id : String} (apart : i ≠ j) (first : screens[i]? = some v)
      (second : screens[j]? = some w) (number : v.givesNumber = true) (given : v.givenId = some id)
      (same : w.givenId = some id)
  /-- One gives the id that is made up for the other, which gives none. -/
  | madeUp {v w : Value} (first : screens[i]? = some v) (second : screens[j]? = some w)
      (given : v.givenId = some s!"screen-{j + 1}") (none : w.givenId = none)

/-! ## Ids that are made up -/

theorem toString_nat_inj {m n : Nat} (h : toString m = toString n) : m = n := by
  have hdigits : Nat.toDigits 10 m = Nat.toDigits 10 n := String.ofList_injective h
  rw [← Nat.ofDigitChars_ten_toDigits (n := m), hdigits, Nat.ofDigitChars_ten_toDigits]

theorem screenId_inj {i j : Nat} (h : s!"screen-{i + 1}" = s!"screen-{j + 1}") : i = j := by
  have hnumber : toString (i + 1) = toString (j + 1) := by
    simpa [toString, ← String.toList_inj] using h
  have := toString_nat_inj hnumber
  omega

theorem elementId_inj {screenId : String} {m n : Nat}
    (h : elementId screenId m = elementId screenId n) : m = n := by
  apply toString_nat_inj
  simpa [elementId, toString, ← String.toList_inj] using h

theorem screenId_ne_empty (i : Nat) : s!"screen-{i + 1}" ≠ "" := by
  simp [toString, ← String.toList_inj]

/-! ## Ids as they are read -/

theorem nonempty?_eq_some {id : Option String} {s : String} :
    nonempty? id = some s ↔ id = some s ∧ s ≠ "" := by
  simp [nonempty?, Option.filter_eq_some_iff]

theorem Screen.idAt_ne_empty {α : Type} (s : Screen α) (index : Nat) : s.idAt index ≠ "" := by
  unfold idAt
  cases hgiven : nonempty? s.id with
  | none => exact screenId_ne_empty index
  | some id => exact (nonempty?_eq_some.mp hgiven).2

theorem Value.givenId_ne_empty {v : Value} {id : String} (h : v.givenId = some id) : id ≠ "" := by
  unfold givenId at h
  split at h
  · exact (nonempty?_eq_some.mp h).2
  · exact (nonempty?_eq_some.mp h).2
  · cases h

theorem Value.givenId_of_field {members : Members} {id : Option String}
    (h : members.field "id" none Value.asOptionalString = .ok id) :
    (Value.object members).givenId = nonempty? id := by
  rcases Members.field_ok_iff.mp h with ⟨v, hv, hread⟩ | ⟨habsent, rfl⟩
  · simp only [givenId, idField, Members.value_of_value? hv]
    cases v with
    | null => cases hread; rfl
    | string s => cases hread; rfl
    | number n =>
        obtain ⟨text, htext, rfl⟩ := Except.map_ok_iff.mp hread
        obtain ⟨-, rfl⟩ := Value.display_ok_iff.mp htext
        rw [Value.fullText_number]
    | _ => cases hread
  · simp only [givenId, idField, Members.value_of_absent habsent, nonempty?_none]

/-- The id of something read, filled in where the object gives none. -/
theorem Value.givenId_getD {members : Members} {id : Option String} (madeUp : String)
    (h : members.field "id" none Value.asOptionalString = .ok id) :
    (nonempty? id).getD madeUp = (Value.object members).givenId.getD madeUp := by
  rw [givenId_of_field h]

theorem Envelope.screenIds_eq (screens : List Value) :
    screenIds screens = (screens.map Value.idField).filter fun id => !id.isNull := by
  unfold screenIds
  apply congrArg (List.filter fun (id : Value) => !id.isNull)
  apply List.map_congr_left
  intro v _
  cases v <;> rfl

/-- Two ids that the check lets pass and that read alike were not both written as texts. -/
theorem Value.givesNumber_of_givenId_eq {v w : Value} {id : String}
    (apart : v.idField.isNull = false → w.idField.isNull = false →
      v.idField.sameKey w.idField = false)
    (hv : v.givenId = some id) (hw : w.givenId = some id) :
    v.givesNumber = true ∨ w.givesNumber = true := by
  unfold givenId at hv hw
  unfold givesNumber
  cases hfirst : v.idField with
  | number n => exact .inl rfl
  | string s =>
      cases hsecond : w.idField with
      | number n => exact .inr rfl
      | string t =>
          rw [hfirst] at hv
          rw [hsecond] at hw
          obtain ⟨hs, -⟩ := nonempty?_eq_some.mp hv
          obtain ⟨ht, -⟩ := nonempty?_eq_some.mp hw
          cases hs
          cases ht
          simp [hfirst, hsecond, isNull, sameKey] at apart
      | _ => simp [hsecond] at hw
  | _ => simp [hfirst] at hv

/-! ## Screens and elements as they are loaded -/

def Value.screenIdAt (index : Nat) (v : Value) : String := v.givenId.getD s!"screen-{index + 1}"

/-- What the ids of a loaded screen and its elements are, given the object it was read from. -/
structure Screen.LoadedFrom (index : Nat) (v : Value) (s : Screen Number) : Prop where
  id : s.id = some (v.screenIdAt index)
  length : s.elements.length = v.elementItems.length
  elements : ∀ (n : Nat) w e, v.elementItems[n]? = some w → s.elements[n]? = some e →
    e.id = some (w.givenId.getD (elementId (v.screenIdAt index) (n + 1)))

theorem Element.id_ensureId {v : Value} {e : Element} (h : Element.read v = .ok e)
    (screenId : String) (index : Nat) :
    (e.ensureId screenId index).id = some (v.givenId.getD (elementId screenId (index + 1))) := by
  obtain ⟨members, rfl, -, hid, -⟩ := Element.read_ok_iff.mp h
  rw [Value.givenId_of_field hid]
  unfold ensureId
  cases hgiven : nonempty? e.id with
  | some id => exact (nonempty?_eq_some.mp hgiven).1
  | none =>
      cases e
      rfl

theorem Screen.loadedFrom {v : Value} {s : Screen Number} (h : Screen.read v = .ok s)
    (index : Nat) : (s.ensureIds index).LoadedFrom index v := by
  obtain ⟨members, rfl, hid, -, -, helements⟩ := Screen.read_ok_iff.mp h
  have hat : s.idAt index = (Value.object members).screenIdAt index :=
    Value.givenId_getD _ hid
  have hread : List.Forall₂ (fun v e => Element.read v = .ok e)
      (Value.object members).elementItems s.elements := by
    rcases Members.field_ok_iff.mp helements with ⟨v, hv, hread⟩ | ⟨habsent, hnone⟩
    · obtain ⟨items, hitems, heach⟩ := Element.readCollection_ok_iff.mp hread
      simp only [Value.elementItems, Members.value_of_value? hv]
      rcases Value.asList_ok_iff.mp hitems with rfl | ⟨rfl, rfl⟩
      · exact heach
      · exact heach
    · simp only [Value.elementItems, Members.value_of_absent habsent, ← hnone]
      exact .nil
  refine ⟨congrArg some hat, by simp [ensureIds, hread.length_eq], ?_⟩
  intro n w e hw he
  simp only [ensureIds, List.getElem?_mapIdx, Option.map_eq_some_iff] at he
  obtain ⟨given, hgiven, rfl⟩ := he
  rw [Element.id_ensureId (forall₂_getElem? hread hw hgiven), hat]

theorem Spec.read_screens {members : Members} {given : Spec Number}
    (h : Spec.read (.object members) = .ok given) :
    List.Forall₂ (fun v s => Screen.read v = .ok s) (Envelope.screens members) given.screens := by
  obtain ⟨_, ⟨⟩, -, hscreens, -⟩ := Spec.read_ok_iff.mp h
  rcases Members.field_ok_iff.mp hscreens with ⟨v, hv, hread⟩ | ⟨habsent, hnone⟩
  · obtain ⟨items, hitems, heach⟩ := Value.asListOf_ok_iff.mp hread
    simp only [Envelope.screens, Members.value_of_value? hv]
    rcases Value.asList_ok_iff.mp hitems with rfl | ⟨rfl, rfl⟩
    · exact heach
    · exact heach
  · simp only [Envelope.screens, Members.value_of_absent habsent, ← hnone]
    exact .nil

theorem Spec.ensureIds_loadedFrom {members : Members} {given : Spec Number}
    (h : Spec.read (.object members) = .ok given) :
    given.ensureIds.screens.length = (Envelope.screens members).length ∧
      ∀ (i : Nat) v s, (Envelope.screens members)[i]? = some v →
        given.ensureIds.screens[i]? = some s → s.LoadedFrom i v := by
  have hread := Spec.read_screens h
  refine ⟨by simp [ensureIds, hread.length_eq], ?_⟩
  intro i v s hv hs
  simp only [ensureIds, List.getElem?_mapIdx, Option.map_eq_some_iff] at hs
  obtain ⟨s, hs, rfl⟩ := hs
  exact Screen.loadedFrom (forall₂_getElem? hread hv hs) i

/-! ## When ids differ -/

theorem Value.screenIdAt_of_given {v : Value} {id : String} (h : v.givenId = some id) (i : Nat) :
    v.screenIdAt i = id := by
  rw [screenIdAt, h, Option.getD_some]

theorem Value.screenIdAt_of_none {v : Value} (h : v.givenId = none) (i : Nat) :
    v.screenIdAt i = s!"screen-{i + 1}" := by
  rw [screenIdAt, h, Option.getD_none]

theorem Value.screenIdAt_ne_empty (v : Value) (i : Nat) : v.screenIdAt i ≠ "" := by
  cases h : v.givenId with
  | none => rw [screenIdAt_of_none h]; exact screenId_ne_empty i
  | some id => rw [screenIdAt_of_given h]; exact givenId_ne_empty h

theorem SharedId.screenIdAt_eq {screens : List Value} {i j : Nat} (h : SharedId screens i j) :
    i ≠ j ∧ ∃ v w, screens[i]? = some v ∧ screens[j]? = some w ∧
      v.screenIdAt i = w.screenIdAt j := by
  cases h with
  | read apart hi hj _ hv hw =>
      refine ⟨apart, _, _, hi, hj, ?_⟩
      rw [Value.screenIdAt_of_given hv, Value.screenIdAt_of_given hw]
  | madeUp hi hj hv hw =>
      refine ⟨?_, _, _, hi, hj, ?_⟩
      · rintro rfl
        cases hi.symm.trans hj
        simp [hw] at hv
      · rw [Value.screenIdAt_of_given hv, Value.screenIdAt_of_none hw]

/-- Two screens that have one id although the check let them pass share it in one of the two
ways. -/
theorem SharedId.of_screenIdAt_eq {screens : List Value} {i j : Nat} {v w : Value} (apart : i ≠ j)
    (hi : screens[i]? = some v) (hj : screens[j]? = some w)
    (hcheck : v.idField.isNull = false → w.idField.isNull = false →
      v.idField.sameKey w.idField = false)
    (h : v.screenIdAt i = w.screenIdAt j) : SharedId screens i j ∨ SharedId screens j i := by
  cases hv : v.givenId with
  | some id =>
      rw [Value.screenIdAt_of_given hv] at h
      cases hw : w.givenId with
      | some other =>
          rw [Value.screenIdAt_of_given hw] at h
          subst h
          rcases Value.givesNumber_of_givenId_eq hcheck hv hw with hnumber | hnumber
          · exact .inl (.read apart hi hj hnumber hv hw)
          · exact .inr (.read apart.symm hj hi hnumber hw hv)
      | none =>
          rw [Value.screenIdAt_of_none hw] at h
          exact .inl (.madeUp hi hj (h ▸ hv) hw)
  | none =>
      rw [Value.screenIdAt_of_none hv] at h
      cases hw : w.givenId with
      | some other =>
          rw [Value.screenIdAt_of_given hw] at h
          exact .inr (.madeUp hj hi (h ▸ hw) hv)
      | none =>
          rw [Value.screenIdAt_of_none hw] at h
          exact absurd (screenId_inj h) apart

/-- An id made up for an element differs from the other ids of its screen exactly when no element
gives it. -/
theorem Screen.LoadedFrom.madeUp_apart_iff {index : Nat} {v w : Value} {s : Screen Number} {n : Nat}
    {e : Element} (h : s.LoadedFrom index v) (hw : v.elementItems[n]? = some w)
    (hnone : w.givenId = none) (he : s.elements[n]? = some e) :
    (∀ m other, m ≠ n → s.elements[m]? = some other → other.id ≠ e.id) ↔
      ∀ u ∈ v.elementItems, u.givenId ≠ e.id := by
  have hid : e.id = some (elementId (v.screenIdAt index) (n + 1)) := by
    rw [h.elements n w e hw he, hnone, Option.getD_none]
  rw [hid]
  constructor
  · intro happart u hu hsame
    obtain ⟨m, hm⟩ := List.mem_iff_getElem?.mp hu
    have hne : m ≠ n := by
      rintro rfl
      cases hm.symm.trans hw
      simp [hnone] at hsame
    have hlt : m < s.elements.length := by
      rw [h.length]
      exact (List.getElem?_eq_some_iff.mp hm).1
    have hother := h.elements m u _ hm (List.getElem?_eq_getElem hlt)
    rw [hsame, Option.getD_some] at hother
    exact happart m _ hne (List.getElem?_eq_getElem hlt) hother
  · intro happart m other hne hm hsame
    have hlt : m < v.elementItems.length := by
      rw [← h.length]
      exact (List.getElem?_eq_some_iff.mp hm).1
    have hu := List.getElem?_eq_getElem hlt
    rw [h.elements m _ other hu hm] at hsame
    cases hgiven : (v.elementItems[m]).givenId with
    | some id =>
        rw [hgiven, Option.getD_some] at hsame
        exact happart _ (List.mem_of_getElem? hu) (hgiven.trans hsame)
    | none =>
        rw [hgiven, Option.getD_none] at hsame
        have := elementId_inj (Option.some.inj hsame)
        omega

namespace Spec

/-- What can be said of the ids of a spec loaded from a document with these screens. -/
structure IdentifiedBy (spec : Spec Number) (screens : List Value) : Prop where
  given : ∀ s ∈ spec.screens, ∃ id, s.id = some id ∧ id ≠ ""
  distinct : (spec.screens.map (·.id)).Nodup ↔ ∀ i j, ¬ SharedId screens i j
  elements : ∀ (i : Nat) v s, screens[i]? = some v → spec.screens[i]? = some s →
    ∀ (n : Nat) w e, v.elementItems[n]? = some w → w.givenId = none → s.elements[n]? = some e →
      e.id = some (elementId (v.screenIdAt i) (n + 1)) ∧
        ((∀ m other, m ≠ n → s.elements[m]? = some other → other.id ≠ e.id) ↔
          ∀ u ∈ v.elementItems, u.givenId ≠ e.id)

theorem apart_of_checkIds {screens : List Value}
    (h : Envelope.checkIds [] (Envelope.screenIds screens) = .ok ()) {i j : Nat} {v w : Value}
    (hlt : i < j) (hi : screens[i]? = some v) (hj : screens[j]? = some w)
    (hv : v.idField.isNull = false) (hw : w.idField.isNull = false) :
    v.idField.sameKey w.idField = false := by
  obtain ⟨-, hpairs, -⟩ := Envelope.checkIds_ok_iff.mp h
  rw [Envelope.screenIds_eq, List.pairwise_filter, List.pairwise_map,
    List.pairwise_iff_getElem] at hpairs
  obtain ⟨hilt, rfl⟩ := List.getElem?_eq_some_iff.mp hi
  obtain ⟨hjlt, rfl⟩ := List.getElem?_eq_some_iff.mp hj
  exact hpairs i j hilt hjlt hlt (by simp [hv]) (by simp [hw])

/-- Loaded screens have different ids exactly when no two of their objects share one. -/
theorem ids_nodup_iff {screens : List Value} {spec : Spec Number}
    (hcheck : Envelope.checkIds [] (Envelope.screenIds screens) = .ok ())
    (hlength : spec.screens.length = screens.length)
    (hloaded : ∀ (i : Nat) v s, screens[i]? = some v → spec.screens[i]? = some s →
      s.LoadedFrom i v) :
    (spec.screens.map (·.id)).Nodup ↔ ∀ i j, ¬ SharedId screens i j := by
  have hid : ∀ {i : Nat} {v : Value}, screens[i]? = some v →
      (spec.screens.map (·.id))[i]? = some (some (v.screenIdAt i)) := by
    intro i v hv
    have hlt : i < spec.screens.length := by
      rw [hlength]
      exact (List.getElem?_eq_some_iff.mp hv).1
    rw [List.getElem?_map, List.getElem?_eq_getElem hlt, Option.map_some,
      (hloaded i v _ hv (List.getElem?_eq_getElem hlt)).id]
  constructor
  · intro hdistinct i j hshared
    obtain ⟨apart, v, w, hi, hj, hsame⟩ := hshared.screenIdAt_eq
    have hlt := (List.getElem?_eq_some_iff.mp (hid hi)).1
    refine apart ((List.getElem?_inj hlt hdistinct).mp ?_)
    rw [hid hi, hid hj, hsame]
  · intro hapart
    rw [List.nodup_iff_getElem?_ne_getElem?]
    intro i j hlt hj hsame
    rw [List.length_map, hlength] at hj
    have hi := List.getElem?_eq_getElem (Nat.lt_trans hlt hj)
    have hj := List.getElem?_eq_getElem hj
    rw [hid hi, hid hj, Option.some_inj, Option.some_inj] at hsame
    have hdiffer := apart_of_checkIds hcheck hlt hi hj
    rcases SharedId.of_screenIdAt_eq (Nat.ne_of_lt hlt) hi hj hdiffer hsame with hshared | hshared
    · exact hapart _ _ hshared
    · exact hapart _ _ hshared

/-- Every screen that loads has an id. Screens share an id exactly when a number reads as the id of
another screen or a given id is the one made up for another screen; an id made up for an element is
shared exactly when an element of the screen gives it. -/
theorem load_ids {repair : Json.Repairer} {text : String} {maxSize maxDepth : Int}
    {spec : Spec Number}
    (h : load repair text maxSize maxDepth = .ok spec) :
    ∃ members, Json.extract repair text true = .ok members ∧
      spec.IdentifiedBy (Envelope.screens members) := by
  obtain ⟨members, given, hextract, hcheck, hread, rfl⟩ := load_ok_iff.mp h
  obtain ⟨-, _, ⟨⟩, -, -, -, -, hids⟩ := Envelope.check_ok_iff.mp hcheck
  obtain ⟨hlength, hloaded⟩ := ensureIds_loadedFrom hread
  refine ⟨members, hextract, ?_, ids_nodup_iff hids hlength hloaded, ?_⟩
  · intro s hs
    obtain ⟨i, hi⟩ := List.mem_iff_getElem?.mp hs
    have hlt : i < (Envelope.screens members).length := by
      rw [← hlength]
      exact (List.getElem?_eq_some_iff.mp hi).1
    have hfrom := hloaded i _ s (List.getElem?_eq_getElem hlt) hi
    exact ⟨_, hfrom.id, Value.screenIdAt_ne_empty _ i⟩
  · intro i v s hv hs n w e hw hnone he
    have hfrom := hloaded i v s hv hs
    refine ⟨?_, hfrom.madeUp_apart_iff hw hnone he⟩
    rw [hfrom.elements n w e hw he, hnone, Option.getD_none]

/-- A number as an id, an id that is made up, and an element without one. -/
theorem load_ids_mixed :
    let text := "\x7b\"screens\": [\x7b\"id\": 7, \"elements\": [\x7b\x7d]\x7d, \x7b\x7d]\x7d"
    ∃ spec, load Json.Lenient.repair text defaultMaxSize defaultMaxDepth = .ok spec ∧
      ∃ members, Json.extract Json.Lenient.repair text true = .ok members ∧
        spec.IdentifiedBy (Envelope.screens members) := by
  intro text
  have hrun : (load Json.Lenient.repair text defaultMaxSize
      defaultMaxDepth).toOption.isSome = true := by
    decide +kernel
  cases h : load Json.Lenient.repair text defaultMaxSize defaultMaxDepth with
  | error cause => simp [h, Except.toOption] at hrun
  | ok spec => exact ⟨spec, rfl, load_ids h⟩

/-- Ids are shared: a number reads as the id of another screen, a screen and an element give the id
that is made up for their neighbour. -/
theorem load_ids_shared :
    let ids (text : String) := (load Json.Lenient.repair text defaultMaxSize defaultMaxDepth).toOption.map
      fun spec => spec.screens.map fun s => (s.id, s.elements.map Element.id)
    ids "\x7b\"screens\": [\x7b\"id\": 1\x7d, \x7b\"id\": \"1\"\x7d]\x7d" =
        some [(some "1", []), (some "1", [])] ∧
      ids "\x7b\"screens\": [\x7b\"id\": \"screen-2\"\x7d, \x7b\x7d]\x7d" =
        some [(some "screen-2", []), (some "screen-2", [])] ∧
      ids "\x7b\"screens\": [\x7b\"elements\": [\x7b\"id\": \"screen-1-el-2\"\x7d, \x7b\x7d]\x7d]\x7d" =
        some [(some "screen-1", [some "screen-1-el-2", some "screen-1-el-2"])] := by
  intro ids
  decide +kernel

end Spec

end Wireframe

import Wireframe.Proofs.Json.Decoded
import Wireframe.Proofs.Spec.Regular

/-! # Loaded specs

What holds of every spec that was loaded, whatever the response was: each element has its props
under keys of their own, each key once, coordinates are doubles or zeros that were left out, and
screens and their elements have ids.
-/

namespace Wireframe

theorem elementId_ne_empty (screenId : String) (number : Nat) : elementId screenId number ≠ "" := by
  intro h
  have hchars := congrArg String.toList h
  simp [elementId, toString] at hchars

theorem Envelope.sound_of_mem_screens {members : Members} (sound : members.Sound Number.IsWritable)
    {v : Value} (hv : v ∈ screens members) : v.Sound Number.IsWritable := by
  unfold screens at hv
  cases hscreens : members.value? "screens" with
  | none =>
      rw [Members.value_of_absent hscreens] at hv
      cases hv
  | some w =>
      rw [Members.value_of_value? hscreens] at hv
      have hw := sound.below _ (Members.mem_of_value? hscreens)
      cases hw with
      | list below => exact below v hv
      | _ => cases hv

/-! ## Elements -/

/-- Props under keys that are no fields, each key once, with numbers that can be written. -/
structure ElementHead.Sound (head : ElementHead) : Prop where
  apart : ∀ entry ∈ head.props, entry.1 ≠ "type" ∧ entry.1 ≠ "id" ∧ entry.1 ≠ "children"
  props : Members.Sound Number.IsWritable head.props

namespace Element

def Sound (e : Element) : Prop := ∀ head ∈ e.preorder, head.Sound

theorem sound_node {head : ElementHead} {children : List Element} :
    Sound (.node head children) ↔ head.Sound ∧ ∀ e ∈ children, e.Sound :=
  Tree.forall_mem_preorder_node

theorem Sound.apart {e : Element} (sound : e.Sound) : e.Apart :=
  fun head hhead => (sound head hhead).apart

theorem sound_propsOf {members : Members} (sound : members.Sound Number.IsWritable)
    (type : String) (id : Option String) : ElementHead.Sound ⟨type, id, propsOf members⟩ := by
  refine ⟨apart_propsOf members type id, ?_, ?_⟩
  · exact sound.keys.sublist (List.filter_sublist.map Prod.fst)
  · intro entry hentry
    exact sound.below entry (List.mem_filter.mp hentry).1

/-- Whatever is read from a sound value is sound: an element, and each element of a collection. -/
theorem sound_of_read {v : Value} (sound : v.Sound Number.IsWritable) :
    (∀ e, read v = .ok e → e.Sound) ∧ ∀ es, readCollection v = .ok es → ∀ e ∈ es, e.Sound := by
  induction sound with
  | list _ ih =>
      refine ⟨nofun, ?_⟩
      intro es h e he
      obtain ⟨items, hitems, heach⟩ := readCollection_ok_iff.mp h
      cases hitems
      obtain ⟨v, hv, hread⟩ := exists_of_forall₂_of_mem heach he
      exact (ih v hv).1 e hread
  | object keys below ih =>
      refine ⟨?_, nofun⟩
      intro e h
      obtain ⟨members, hmembers, -, -, hprops, hchildren⟩ := read_ok_iff.mp h
      cases hmembers
      obtain ⟨⟨type, id, props⟩, children⟩ := e
      rw [sound_node]
      constructor
      · obtain rfl := hprops
        exact sound_propsOf ⟨keys, below⟩ type id
      · rcases Members.field_ok_iff.mp hchildren with ⟨v, hv, hread⟩ | ⟨-, hnone⟩
        · exact (ih _ (Members.mem_of_value? hv)).2 _ hread
        · intro e he
          cases hnone
          cases he
  | null =>
      refine ⟨nofun, ?_⟩
      intro es h
      cases h
      simp
  | bool => exact ⟨nofun, nofun⟩
  | number => exact ⟨nofun, nofun⟩
  | string => exact ⟨nofun, nofun⟩

theorem sound_ensureId {e : Element} (sound : e.Sound) (screenId : String) (index : Nat) :
    (e.ensureId screenId index).Sound := by
  unfold ensureId
  split
  · exact sound
  · obtain ⟨head, children⟩ := e
    rw [sound_node] at sound
    exact sound_node.mpr ⟨⟨sound.1.apart, sound.1.props⟩, sound.2⟩

theorem exists_id_ensureId (e : Element) (screenId : String) (index : Nat) :
    ∃ id, (e.ensureId screenId index).id = some id ∧ id ≠ "" := by
  unfold ensureId
  split
  · next id hid => exact ⟨id, nonempty?_eq_some.mp hid⟩
  · obtain ⟨head, children⟩ := e
    exact ⟨_, rfl, elementId_ne_empty screenId (index + 1)⟩

end Element

/-! ## Screens -/

/-- A screen with nothing left out, whose elements are sound. -/
structure Screen.Loaded (s : Screen Number) : Prop where
  id : ∃ id, s.id = some id ∧ id ≠ ""
  position : ∃ p, s.position = some p ∧ p.x.IsCoordinate ∧ p.y.IsCoordinate
  ids : ∀ e ∈ s.elements, ∃ id, e.id = some id ∧ id ≠ ""
  sound : ∀ e ∈ s.elements, e.Sound

theorem Screen.Loaded.regular {s : Screen Number} (loaded : s.Loaded) : s.Regular := by
  refine ⟨fun p hp => ?_, fun e he => (loaded.sound e he).apart⟩
  obtain ⟨q, hq, hcoordinates⟩ := loaded.position
  obtain rfl := Option.some.inj (hp.symm.trans hq)
  exact hcoordinates

namespace Screen

theorem sound_of_read {v : Value} {s : Screen Number} (h : Screen.read v = .ok s)
    (sound : v.Sound Number.IsWritable) : ∀ e ∈ s.elements, e.Sound := by
  obtain ⟨members, rfl, -, -, -, helements⟩ := Screen.read_ok_iff.mp h
  rcases Members.field_ok_iff.mp helements with ⟨v, hv, hread⟩ | ⟨_, hnone⟩
  · cases sound with
    | object _ below =>
        exact (Element.sound_of_read (below _ (Members.mem_of_value? hv))).2 _ hread
  · rw [← hnone]
    exact List.forall_mem_nil _

theorem loaded_ensureIds {v : Value} {s : Screen Number} (h : Screen.read v = .ok s)
    (sound : v.Sound Number.IsWritable) (index : Nat) : (s.ensureIds index).Loaded := by
  refine ⟨?_, ?_, ?_, ?_⟩
  · exact ⟨s.idAt index, rfl, s.idAt_ne_empty index⟩
  · refine ⟨_, rfl, ?_⟩
    cases hp : s.position with
    | none => exact ⟨.inr ⟨_, rfl⟩, .inr ⟨_, rfl⟩⟩
    | some p => exact coordinates_of_read h hp
  · intro e he
    obtain ⟨i, hi, rfl⟩ := List.mem_mapIdx.mp he
    exact Element.exists_id_ensureId _ _ _
  · intro e he
    obtain ⟨i, hi, rfl⟩ := List.mem_mapIdx.mp he
    exact Element.sound_ensureId (sound_of_read h sound _ (List.getElem_mem hi)) _ _

end Screen

/-- Every screen of a loaded spec is a loaded one. -/
theorem Spec.loaded_screens {repair : Json.Repairer} {text : String} {maxSize maxDepth : Int}
    {spec : Spec Number}
    (h : Spec.load repair text maxSize maxDepth = .ok spec) : ∀ s ∈ spec.screens, s.Loaded := by
  obtain ⟨members, given, hextract, -, hread, rfl⟩ := Spec.load_ok_iff.mp h
  have sound := Json.extract_sound hextract
  intro s hs
  obtain ⟨i, hi, rfl⟩ := List.mem_mapIdx.mp hs
  obtain ⟨v, hv, hscreen⟩ :=
    exists_of_forall₂_of_mem (Spec.read_screens hread) (List.getElem_mem hi)
  exact Screen.loaded_ensureIds hscreen (Envelope.sound_of_mem_screens sound hv) i

end Wireframe

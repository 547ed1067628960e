import Wireframe.Proofs.Spec.Edits

/-! # An edit that is repeated

Merging decides nothing but positions, and an update that was merged decides them the same way when
it comes again. A screen that brings its position keeps it both times. One that does not is found in
the merged spec, by its own id or, without one, by its index, and stands there already. The ids of
the merged spec have to differ for this: a screen that shares its id with an earlier one would be
moved to that one's place.
-/

namespace Wireframe

variable {α : Type}

namespace Screen

def unplaced (s : Screen α) : Screen α := { s with position := none }

/-- A screen of an update with the position that the document gives it, if there is a document. -/
def placedBy (current : Option (Spec α)) (index : Nat) (s : Screen α) : Screen α :=
  match current with
  | none => s
  | some current => current.keepPosition index s

variable {current : Option (Spec α)} {s : Screen α} {place : Point α}

theorem placedBy_of_position (h : s.position = some place) (index : Nat) :
    s.placedBy current index = s := by
  cases current with
  | none => rfl
  | some current => rw [placedBy, Spec.keepPosition, h]

theorem exists_placedBy (current : Option (Spec α)) (index : Nat) (s : Screen α) :
    ∃ position, s.placedBy current index = { s with position } := by
  cases current with
  | none => exact ⟨s.position, rfl⟩
  | some current =>
      rw [placedBy, Spec.keepPosition]
      split
      · exact ⟨s.position, rfl⟩
      · exact ⟨_, rfl⟩

theorem id_placedBy (current : Option (Spec α)) (index : Nat) (s : Screen α) :
    (s.placedBy current index).id = s.id := by
  obtain ⟨position, hplaced⟩ := s.exists_placedBy current index
  rw [hplaced]

end Screen

namespace Spec

def unplaced (spec : Spec α) : Spec α := { spec with screens := spec.screens.map Screen.unplaced }

variable {spec : Spec α} {s t : Screen α} {index : Nat}

/-- Where ids differ, a screen with the id of the one at its index, or with none, is found there. -/
theorem currentScreen?_of_nodup (distinct : (spec.screens.map Screen.id).Nodup)
    (ht : spec.screens[index]? = some t) (hid : ∀ id, nonempty? s.id = some id → t.id = some id) :
    spec.currentScreen? index s = some t := by
  rw [currentScreen?]
  cases hgiven : nonempty? s.id with
  | none => exact ht
  | some id =>
      have once := hasOnce_of_nodup distinct id
      rw [Option.bind_some, once.screen? (List.mem_of_getElem? ht) (hid id hgiven)]

variable [Scalar α]

theorem getElem?_merged (current : Option (Spec α)) (updated : Spec α) (index : Nat) :
    (mergeUpdate current updated).screens[index]? =
      updated.screens[index]?.map fun s => (s.placedBy current index).ensureIds index := by
  cases current with
  | none => rw [mergeUpdate, ensureIds, List.getElem?_mapIdx]; rfl
  | some current => exact getElem?_mergeUpdate current updated index

theorem mergeUpdate_eta (current : Option (Spec α)) (updated : Spec α) :
    mergeUpdate current updated =
      { updated with screens := (mergeUpdate current updated).screens } := by
  cases current <;> rfl

/-- But for positions, merging is normalising. -/
theorem unplaced_mergeUpdate (current : Option (Spec α)) (updated : Spec α) :
    (mergeUpdate current updated).unplaced = updated.ensureIds.unplaced := by
  have hscreens : (mergeUpdate current updated).screens.map Screen.unplaced =
      updated.ensureIds.screens.map Screen.unplaced := by
    apply List.ext_getElem?
    intro index
    rw [List.getElem?_map, List.getElem?_map, getElem?_merged, ensureIds, List.getElem?_mapIdx,
      Option.map_map, Option.map_map]
    cases updated.screens[index]? with
    | none => rfl
    | some s =>
        obtain ⟨position, hplaced⟩ := s.exists_placedBy current index
        rw [Option.map_some, Option.map_some, Function.comp_apply, Function.comp_apply, hplaced]
        rfl
  rw [unplaced, hscreens, mergeUpdate_eta]
  rfl

/-- A screen that was placed and filled in stays as it is when it comes again and is found. -/
theorem keepPosition_again (current : Option (Spec α)) {merged : Spec α}
    (hfound : merged.currentScreen? index s = some ((s.placedBy current index).ensureIds index)) :
    (merged.keepPosition index s).ensureIds index = (s.placedBy current index).ensureIds index := by
  rw [keepPosition]
  cases hplace : s.position with
  | some place => rw [Screen.placedBy_of_position hplace]
  | none =>
      obtain ⟨position, hplaced⟩ := s.exists_placedBy current index
      rw [hfound, Option.bind_some, hplaced]
      rfl

/-- Merging an update decides nothing but positions, and merging it once more changes nothing, when
the ids of the merged spec differ. -/
theorem mergeUpdate_again (current : Option (Spec α)) (updated : Spec α) :
    (mergeUpdate current updated).unplaced = updated.ensureIds.unplaced ∧
      (((mergeUpdate current updated).screens.map Screen.id).Nodup →
        mergeUpdate (some (mergeUpdate current updated)) updated =
          mergeUpdate current updated) := by
  refine ⟨unplaced_mergeUpdate current updated, ?_⟩
  intro distinct
  have hscreens : (mergeUpdate (some (mergeUpdate current updated)) updated).screens =
      (mergeUpdate current updated).screens := by
    apply List.ext_getElem?
    intro index
    have hmerged := getElem?_merged current updated index
    rw [getElem?_mergeUpdate, hmerged]
    cases hs : updated.screens[index]? with
    | none => rfl
    | some s =>
        rw [hs, Option.map_some] at hmerged
        have hfound := currentScreen?_of_nodup (s := s) distinct hmerged ?_
        · rw [Option.map_some, Option.map_some, keepPosition_again current hfound]
        · intro id hid
          obtain ⟨hgiven, hne⟩ := nonempty?_eq_some.mp hid
          exact Screen.id_ensureIds ((s.id_placedBy current index).trans hgiven) hne index
  rw [mergeUpdate_eta, hscreens, ← mergeUpdate_eta]

/-- A screen that is found by its id, one without an id that stands where the screen at its index
stood, one that brings its place, and one behind the document, on its slot of the grid. -/
theorem mergeUpdate_again_mixed :
    let screen (id : Option String) (position : Option (Point Number)) : Screen Number :=
      ⟨id, "", position, []⟩
    let current : Spec Number :=
      ⟨"", [screen (some "a") (some ⟨1, 2⟩), screen (some "b") (some ⟨3, 4⟩)], []⟩
    let updated : Spec Number := ⟨"", [screen (some "b") none, screen none none,
      screen (some "c") (some ⟨5, 6⟩), screen (some "") none], []⟩
    let merged := mergeUpdate (some current) updated
    (merged.screens.map Screen.id).Nodup ∧
      merged.screens.map (fun s => (s.id, s.position)) =
        [(some "b", some ⟨3, 4⟩), (some "screen-2", some ⟨3, 4⟩), (some "c", some ⟨5, 6⟩),
          (some "screen-4", some (Grid.place Number 3))] ∧
      mergeUpdate (some merged) updated = merged := by
  intro screen current updated merged
  have distinct : (merged.screens.map Screen.id).Nodup := by decide +kernel
  refine ⟨distinct, by decide +kernel, ?_⟩
  exact (mergeUpdate_again (some current) updated).2 distinct

end Spec

end Wireframe

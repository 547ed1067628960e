import Mathlib.Data.List.Pairwise
import Wireframe.Proofs.Spec.Identity

/-! # Screens keep their place

A document that is edited again and again: every update is merged into the document as it stands. A
screen that comes without a position is looked up by its id in the document before, so an id that
never stands for two screens keeps its place, wherever in the list its screen comes. One edit hands
the place on (`StandsAt.merged`), and `history_keeps_place` is what a run of edits keeps.
-/

namespace Wireframe

variable {α : Type}

theorem Screen.id_ensureIds [Scalar α] {s : Screen α} {id : String} (hid : s.id = some id)
    (hne : id ≠ "") (index : Nat) : (s.ensureIds index).id = some id := by
  rw [ensureIds, idAt, nonempty?_eq_some.mpr ⟨hid, hne⟩, Option.getD_some]

namespace Spec

/-- The documents that updates lead through when each is merged into the one before it, the first
document included. -/
def history [Scalar α] (spec : Spec α) : List (Spec α) → List (Spec α)
  | [] => [spec]
  | update :: updates => spec :: history (mergeUpdate (some spec) update) updates

def HasOnce (spec : Spec α) (id : String) : Prop :=
  spec.screens.Pairwise fun s t => ¬ (s.id = some id ∧ t.id = some id)

instance (spec : Spec α) (id : String) : Decidable (spec.HasOnce id) :=
  inferInstanceAs (Decidable (spec.screens.Pairwise _))

/-- A screen has the id, and every screen that has it stands at the place. -/
structure StandsAt (spec : Spec α) (id : String) (place : Point α) : Prop where
  found : ∃ s ∈ spec.screens, s.id = some id
  placed : ∀ s ∈ spec.screens, s.id = some id → s.position = some place

variable {spec current update : Spec α} {s t : Screen α} {id : String} {place : Point α}

/-! ## Screens by their id -/

theorem HasOnce.eq (once : spec.HasOnce id) (hs : s ∈ spec.screens) (ht : t ∈ spec.screens)
    (hsid : s.id = some id) (htid : t.id = some id) : s = t := by
  have symm : Std.Symm fun s t : Screen α => ¬ (s.id = some id ∧ t.id = some id) :=
    ⟨fun s t apart both => apart both.symm⟩
  by_contra hne
  exact List.Pairwise.forall once hs ht hne ⟨hsid, htid⟩

theorem hasOnce_of_nodup (distinct : (current.screens.map Screen.id).Nodup) (id : String) :
    current.HasOnce id :=
  (List.pairwise_map.mp distinct).imp fun hne both => hne (both.1.trans both.2.symm)

theorem HasOnce.standsAt (once : spec.HasOnce id) (hs : s ∈ spec.screens) (hid : s.id = some id)
    (hplace : s.position = some place) : spec.StandsAt id place where
  found := ⟨s, hs, hid⟩
  placed t ht htid := by rw [once.eq ht hs htid hid, hplace]

theorem exists_screen?_of_mem (hs : s ∈ spec.screens) (hid : s.id = some id) :
    ∃ found, spec.screen? id = some found ∧ found ∈ spec.screens ∧ found.id = some id := by
  have hsome : (spec.screen? id).isSome = true := by
    rw [screen?, screenWith?, List.find?_isSome]
    exact ⟨s, hs, beq_iff_eq.mpr hid⟩
  obtain ⟨found, hfound⟩ := Option.isSome_iff_exists.mp hsome
  have hsame : (found.id == some id) = true :=
    List.find?_some (p := fun screen : Screen α => screen.id == some id) hfound
  exact ⟨found, hfound, List.mem_of_find?_eq_some hfound, beq_iff_eq.mp hsame⟩

theorem HasOnce.screen? (once : spec.HasOnce id) (hs : s ∈ spec.screens) (hid : s.id = some id) :
    spec.screen? id = some s := by
  obtain ⟨found, hfound, hmem, hfoundId⟩ := exists_screen?_of_mem hs hid
  rw [hfound, once.eq hmem hs hfoundId hid]

theorem StandsAt.screen? (stands : spec.StandsAt id place) :
    ∃ s, spec.screen? id = some s ∧ s.position = some place := by
  obtain ⟨s, hs, hid⟩ := stands.found
  obtain ⟨found, hfound, hmem, hfoundId⟩ := exists_screen?_of_mem hs hid
  exact ⟨found, hfound, stands.placed found hmem hfoundId⟩

/-! ## One edit -/

theorem id_keepPosition (current : Spec α) (index : Nat) (s : Screen α) :
    (current.keepPosition index s).id = s.id := by
  unfold keepPosition
  split <;> rfl

/-- A screen that comes without a position gets the one that its id has in the document. -/
theorem StandsAt.position_keepPosition (stands : current.StandsAt id place) (hne : id ≠ "")
    (hid : s.id = some id) (hnone : s.position = none) (index : Nat) :
    (current.keepPosition index s).position = some place := by
  obtain ⟨found, hfound, hplace⟩ := stands.screen?
  have hcurrent : current.currentScreen? index s = some found := by
    rw [currentScreen?, nonempty?_eq_some.mpr ⟨hid, hne⟩, Option.bind_some, hfound]
  rw [keepPosition, hnone, hcurrent]
  exact hplace

/-- The screens of an update once it is merged: placed as the document says, then filled in. -/
theorem getElem?_mergeUpdate [Scalar α] (current update : Spec α) (index : Nat) :
    (mergeUpdate (some current) update).screens[index]? =
      update.screens[index]?.map fun s => (current.keepPosition index s).ensureIds index := by
  rw [mergeUpdate, ensureIds, List.getElem?_mapIdx, List.getElem?_mapIdx, Option.map_map]
  rfl

/-- A screen that an update brings without a position stands, once it is merged, where its id stood
before. -/
theorem StandsAt.merged [Scalar α] (stands : current.StandsAt id place) (hne : id ≠ "")
    (hs : s ∈ update.screens) (hid : s.id = some id) (hnone : s.position = none)
    (once : (mergeUpdate (some current) update).HasOnce id) :
    (mergeUpdate (some current) update).StandsAt id place := by
  obtain ⟨index, hindex⟩ := List.mem_iff_getElem?.mp hs
  have hmerged := getElem?_mergeUpdate current update index
  rw [hindex, Option.map_some] at hmerged
  have hkept : (current.keepPosition index s).id = some id := by rw [id_keepPosition, hid]
  have hplace := stands.position_keepPosition hne hid hnone index
  refine once.standsAt (List.mem_of_getElem? hmerged) (Screen.id_ensureIds hkept hne index) ?_
  rw [Screen.ensureIds, hplace, Option.getD_some]

/-! ## Runs of edits -/

theorem mem_history_self [Scalar α] (spec : Spec α) (updates : List (Spec α)) :
    spec ∈ history spec updates := by
  cases updates <;> exact List.mem_cons_self

/-- An id that every document of a run has at most once, and that every update brings without a
position, stands at one place in all of them. -/
theorem standsAt_history [Scalar α] {updates : List (Spec α)} (stands : spec.StandsAt id place)
    (hne : id ≠ "")
    (hupdates : ∀ update ∈ updates, ∃ s ∈ update.screens, s.id = some id ∧ s.position = none)
    (honce : ∀ later ∈ history spec updates, later.HasOnce id) :
    ∀ later ∈ history spec updates, later.StandsAt id place := by
  induction updates generalizing spec with
  | nil => exact List.forall_mem_singleton.mpr stands
  | cons update updates ih =>
      rw [List.forall_mem_cons] at hupdates
      rw [Spec.history, List.forall_mem_cons] at honce ⊢
      obtain ⟨s, hs, hid, hnone⟩ := hupdates.1
      have hnext := honce.2 _ (mem_history_self (mergeUpdate (some spec) update) updates)
      exact ⟨stands, ih (stands.merged hne hs hid hnone hnext) hupdates.2 honce.2⟩

/-- A screen keeps its place over any number of edits that bring it without a position, as long as
no document on the way has its id twice. -/
theorem history_keeps_place [Scalar α] {start : Spec α} {updates : List (Spec α)} {id : String}
    {place : Point α} (hne : id ≠ "")
    (hstart : ∃ s ∈ start.screens, s.id = some id ∧ s.position = some place)
    (hupdates : ∀ update ∈ updates, ∃ s ∈ update.screens, s.id = some id ∧ s.position = none)
    (honce : ∀ spec ∈ history start updates, spec.HasOnce id) :
    ∀ spec ∈ history start updates,
      (∃ s ∈ spec.screens, s.id = some id) ∧
        ∀ s ∈ spec.screens, s.id = some id → s.position = some place := by
  obtain ⟨s, hs, hid, hplace⟩ := hstart
  have hfirst := honce start (mem_history_self start updates)
  intro spec hspec
  have stands := standsAt_history (hfirst.standsAt hs hid hplace) hne hupdates honce spec hspec
  exact ⟨stands.found, stands.placed⟩

/-- A screen that comes behind others, one of them without an id, and then alone. -/
theorem history_keeps_place_reordered :
    let screen (id : Option String) (position : Option (Point Number)) : Screen Number :=
      ⟨id, "", position, []⟩
    let start : Spec Number :=
      ⟨"", [screen (some "b") (some ⟨1, 2⟩), screen (some "a") (some ⟨7, 9⟩)], []⟩
    let updates : List (Spec Number) := [
      ⟨"", [screen none none, screen (some "b") (some ⟨3, 4⟩), screen (some "a") none], []⟩,
      ⟨"", [screen (some "a") none], []⟩]
    (∀ spec ∈ history start updates, spec.HasOnce "a") ∧
      ∀ spec ∈ history start updates,
        (∃ s ∈ spec.screens, s.id = some "a") ∧
          ∀ s ∈ spec.screens, s.id = some "a" → s.position = some ⟨7, 9⟩ := by
  intro screen start updates
  have honce : ∀ spec ∈ history start updates, spec.HasOnce "a" := by decide +kernel
  exact ⟨honce, history_keeps_place (by decide) (by decide +kernel) (by decide +kernel) honce⟩

end Spec

end Wireframe

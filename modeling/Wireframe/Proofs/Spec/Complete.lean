import Wireframe.Json.Lenient
import Wireframe.Proofs.Spec.Loaded

/-! # Complete specs

Normalising adds what a producer left out and keeps the rest. `Spec.FilledIn` says what is added at
which place and what is kept, and all else that normalising does follows from it: whatever was
filled in is complete, and in a complete spec there is nothing to fill in. So the complete specs are
those that normalising leaves as they are, and what was loaded or merged is one of them.
-/

namespace Wireframe

variable {α : Type}

/-! ## What is filled in -/

/-- An id that was given stays, and one that is missing or empty is made up. -/
structure IdFilledIn (madeUp : String) (given filled : Option String) : Prop where
  kept : ∀ id, given = some id → id ≠ "" → filled = some id
  added : given = none ∨ given = some "" → filled = some madeUp

/-- An element with an id; nothing else about it changes, and nothing below it. -/
structure Element.FilledIn (madeUp : String) (given filled : Element) : Prop where
  id : IdFilledIn madeUp given.id filled.id
  type : filled.type = given.type
  props : filled.props = given.props
  children : filled.children = given.children

/-- The screen at an index with an id and a place, and its elements, in their order, with ids that
are made up from the one of the screen. -/
structure Screen.FilledIn [Scalar α] (index : Nat) (given filled : Screen α) : Prop where
  id : IdFilledIn s!"screen-{index + 1}" given.id filled.id
  name : filled.name = given.name
  position : filled.position = some (given.position.getD (Grid.place α index))
  elements : List.Forall₂ (fun entry e => ∃ screenId, filled.id = some screenId ∧
    Element.FilledIn (elementId screenId (entry.2 + 1)) entry.1 e)
    given.elements.zipIdx filled.elements

structure Spec.FilledIn [Scalar α] (given filled : Spec α) : Prop where
  appName : filled.appName = given.appName
  flows : filled.flows = given.flows
  screens : List.Forall₂ (fun entry s => Screen.FilledIn entry.2 entry.1 s)
    given.screens.zipIdx filled.screens

/-- Nothing is missing that normalising would add. -/
structure Screen.IsComplete (s : Screen α) : Prop where
  id : ∃ id, s.id = some id ∧ id ≠ ""
  position : s.position.isSome = true
  elements : ∀ e ∈ s.elements, ∃ id, e.id = some id ∧ id ≠ ""

def Spec.IsComplete (spec : Spec α) : Prop := ∀ s ∈ spec.screens, s.IsComplete

/-! ## Normalising fills in -/

theorem idFilledIn_getD (madeUp : String) (given : Option String) :
    IdFilledIn madeUp given (some ((nonempty? given).getD madeUp)) where
  kept id hid hne := by
    rw [nonempty?_eq_some.mpr ⟨hid, hne⟩, Option.getD_some]
  added h := by
    rcases h with rfl | rfl <;> rfl

theorem Element.filledIn_ensureId (screenId : String) (index : Nat) (e : Element) :
    e.FilledIn (elementId screenId (index + 1)) (e.ensureId screenId index) := by
  have hid := idFilledIn_getD (elementId screenId (index + 1)) e.id
  obtain ⟨head, children⟩ := e
  unfold ensureId
  cases hgiven : nonempty? (Element.id (.node head children)) with
  | none =>
      rw [hgiven] at hid
      exact ⟨hid, rfl, rfl, rfl⟩
  | some id =>
      rw [hgiven, Option.getD_some, ← (nonempty?_eq_some.mp hgiven).1] at hid
      exact ⟨hid, rfl, rfl, rfl⟩

variable [Scalar α]

theorem Screen.filledIn_ensureIds (index : Nat) (s : Screen α) :
    s.FilledIn index (s.ensureIds index) where
  id := idFilledIn_getD _ s.id
  name := rfl
  position := rfl
  elements := forall₂_zipIdx_mapIdx fun i e => ⟨_, rfl, e.filledIn_ensureId _ i⟩

theorem Spec.filledIn_ensureIds (spec : Spec α) : spec.FilledIn spec.ensureIds where
  appName := rfl
  flows := rfl
  screens := forall₂_zipIdx_mapIdx fun i s => s.filledIn_ensureIds i

/-! ## What was filled in is complete -/

section

variable {madeUp : String} {index : Nat}

theorem IdFilledIn.exists_id {given filled : Option String} (h : IdFilledIn madeUp given filled)
    (hne : madeUp ≠ "") : ∃ id, filled = some id ∧ id ≠ "" := by
  by_cases hgiven : given = none ∨ given = some ""
  · exact ⟨madeUp, h.added hgiven, hne⟩
  · cases given with
    | none => simp at hgiven
    | some id =>
        have hid : id ≠ "" := by simpa using hgiven
        exact ⟨id, h.kept id rfl hid, hid⟩

theorem Screen.FilledIn.isComplete {given filled : Screen α} (h : given.FilledIn index filled) :
    filled.IsComplete where
  id := h.id.exists_id (screenId_ne_empty index)
  position := by rw [h.position, Option.isSome_some]
  elements e he := by
    obtain ⟨_, _, screenId, _, hfilled⟩ := exists_of_forall₂_of_mem h.elements he
    exact hfilled.id.exists_id (elementId_ne_empty screenId _)

theorem Spec.FilledIn.isComplete {given filled : Spec α} (h : given.FilledIn filled) :
    filled.IsComplete := by
  intro s hs
  obtain ⟨_, _, hfilled⟩ := exists_of_forall₂_of_mem h.screens hs
  exact hfilled.isComplete

/-! ## A complete spec stays as it is -/

theorem IdFilledIn.eq {given filled : Option String} (h : IdFilledIn madeUp given filled)
    (hgiven : ∃ id, given = some id ∧ id ≠ "") : filled = given := by
  obtain ⟨id, hid, hne⟩ := hgiven
  rw [h.kept id hid hne, hid]

theorem Element.FilledIn.eq {given filled : Element} (h : given.FilledIn madeUp filled)
    (hid : ∃ id, given.id = some id ∧ id ≠ "") : filled = given := by
  have hsame := h.id.eq hid
  obtain ⟨⟨type, id, props⟩, children⟩ := given
  obtain ⟨⟨type', id', props'⟩, children'⟩ := filled
  obtain rfl : type' = type := h.type
  obtain rfl : id' = id := hsame
  obtain rfl : props' = props := h.props
  obtain rfl : children' = children := h.children
  rfl

theorem Screen.FilledIn.eq {given filled : Screen α} (h : given.FilledIn index filled)
    (complete : given.IsComplete) : filled = given := by
  obtain ⟨place, hplace⟩ := Option.isSome_iff_exists.mp complete.position
  have hid := h.id.eq complete.id
  have hname := h.name
  have hposition : filled.position = given.position := by
    rw [h.position, hplace, Option.getD_some]
  have helements : filled.elements = given.elements := by
    apply eq_of_forall₂_zipIdx h.elements
    intro e he i filled' hfilled
    obtain ⟨_, _, hfilled⟩ := hfilled
    exact hfilled.eq (complete.elements e he)
  cases given
  cases filled
  simp_all

theorem Spec.FilledIn.eq {given filled : Spec α} (h : given.FilledIn filled)
    (complete : given.IsComplete) : filled = given := by
  have happName := h.appName
  have hflows := h.flows
  have hscreens : filled.screens = given.screens := by
    apply eq_of_forall₂_zipIdx h.screens
    intro s hs i filled' hfilled
    exact hfilled.eq (complete s hs)
  cases given
  cases filled
  simp_all

end

namespace Spec

theorem isComplete_ensureIds (spec : Spec α) : spec.ensureIds.IsComplete :=
  spec.filledIn_ensureIds.isComplete

/-- The complete specs are the ones that normalising leaves as they are. -/
theorem ensureIds_eq_self_iff {spec : Spec α} : spec.ensureIds = spec ↔ spec.IsComplete := by
  constructor
  · intro h
    rw [← h]
    exact spec.isComplete_ensureIds
  · intro complete
    exact spec.filledIn_ensureIds.eq complete

/-! ## Merged and loaded specs -/

theorem isComplete_mergeUpdate (current : Option (Spec α)) (updated : Spec α) :
    (mergeUpdate current updated).IsComplete := by
  cases current with
  | none => exact isComplete_ensureIds updated
  | some current => exact isComplete_ensureIds _

theorem isComplete_of_load {repair : Json.Repairer} {text : String} {maxSize maxDepth : Int}
    {spec : Spec Number}
    (h : load repair text maxSize maxDepth = .ok spec) : spec.IsComplete := by
  obtain ⟨_, given, _, _, _, rfl⟩ := load_ok_iff.mp h
  exact given.isComplete_ensureIds

/-- Normalising only fills in what is missing, and it is stable: a normalised spec, a merged one and
a loaded one stay as they are. -/
theorem ensureIds_fills_gaps (spec : Spec α) (current : Option (Spec α)) (updated : Spec α)
    (repair : Json.Repairer) (text : String) (maxSize maxDepth : Int) :
    spec.FilledIn spec.ensureIds ∧ spec.ensureIds.ensureIds = spec.ensureIds ∧
      (mergeUpdate current updated).ensureIds = mergeUpdate current updated ∧
      ∀ loaded, load repair text maxSize maxDepth = .ok loaded → loaded.ensureIds = loaded := by
  refine ⟨spec.filledIn_ensureIds, ?_, ?_, ?_⟩
  · exact ensureIds_eq_self_iff.mpr spec.isComplete_ensureIds
  · exact ensureIds_eq_self_iff.mpr (isComplete_mergeUpdate current updated)
  · intro loaded h
    exact ensureIds_eq_self_iff.mpr (isComplete_of_load h)

/-- A screen without id and place whose elements have no id, an empty one and one of their own. -/
theorem ensureIds_fills_gaps_mixed :
    let text := "\x7b\"screens\": [\x7b\"elements\": [\x7b\x7d, \x7b\"id\": \"\"\x7d, "
      ++ "\x7b\"id\": \"own\"\x7d]\x7d]\x7d"
    ∃ loaded, load Json.Lenient.repair text defaultMaxSize defaultMaxDepth = .ok loaded ∧
      (loaded.screens.map fun s => (s.id, s.elements.map Element.id)) =
        [(some "screen-1", [some "screen-1-el-1", some "screen-1-el-2", some "own"])] ∧
      loaded.ensureIds = loaded := by
  intro text
  have hrun : ((load Json.Lenient.repair text defaultMaxSize defaultMaxDepth).toOption.any fun spec =>
      (spec.screens.map fun s => (s.id, s.elements.map Element.id)) ==
        [(some "screen-1", [some "screen-1-el-1", some "screen-1-el-2", some "own"])]) = true := by
    decide +kernel
  cases h : load Json.Lenient.repair text defaultMaxSize defaultMaxDepth with
  | error cause => simp [h, Except.toOption] at hrun
  | ok loaded =>
      rw [h, Except.toOption, Option.any_some, beq_iff_eq] at hrun
      have stable := ensureIds_fills_gaps loaded none loaded Json.Lenient.repair text defaultMaxSize
        defaultMaxDepth
      exact ⟨loaded, rfl, hrun, stable.2.2.2 loaded h⟩

end Spec

end Wireframe

import Wireframe.Proofs.Flow.Clearance
import Wireframe.Proofs.Spec.Identity

/-! # Screens without places

A screen that comes without a place is given a slot of the grid twice: by whoever fills in what is
missing, and by the router where nothing was filled in. Both go by the index in the whole document,
so passing over screens without ids moves no rectangle. Slots lie a column or a row apart, and
screens that are no larger than that do not overlap (`screenRects_unplaced`).
-/

namespace Wireframe

namespace Rect

def Apart (a b : Rect Rat) : Prop := ∀ p, ¬ (a.Encloses p ∧ b.Encloses p)

variable {a b : Rect Rat}

theorem apart_of_x (h : a.x + a.width ≤ b.x ∨ b.x + b.width ≤ a.x) : a.Apart b := by
  rintro p ⟨⟨⟨hleft, hright⟩, -⟩, ⟨hleft', hright'⟩, -⟩
  rcases h with h | h <;> linarith

theorem apart_of_y (h : a.y + a.height ≤ b.y ∨ b.y + b.height ≤ a.y) : a.Apart b := by
  rintro p ⟨⟨-, htop, hbottom⟩, -, htop', hbottom'⟩
  rcases h with h | h <;> linarith

end Rect

/-- Two slots of the grid lie in columns or in rows that are a step apart. -/
theorem Grid.slot_steps {i j : Int} (hij : i ≠ j) :
    ((slot i).1 + 400 ≤ (slot j).1 ∨ (slot j).1 + 400 ≤ (slot i).1) ∨
      ((slot i).2 + 700 ≤ (slot j).2 ∨ (slot j).2 + 700 ≤ (slot i).2) := by
  have hi := Int.mul_fdiv_add_fmod i 3
  have hj := Int.mul_fdiv_add_fmod j 3
  simp only [slot]
  -- In one row the columns differ.
  by_cases hrow : i.fdiv 3 = j.fdiv 3
  · left
    omega
  · right
    omega

namespace Flow

section Tiles

variable {α : Type} [Scalar α]

def tile (width height : α) (index : Nat) (id : String) : Rect α :=
  ⟨id, (Grid.place α index).x, (Grid.place α index).y, width, height⟩

def ofNamed (screens : List (Screen α)) (rects : List (Rect α)) : List (Rect α) :=
  ((screens.zip rects).filter fun entry => (nonempty? entry.1.id).isSome).map Prod.snd

variable {spec : Spec α} {width height : α}

/-- Where no screen has a place, every screen that has an id stands in the slot of its index. -/
theorem screenRects_of_unplaced (hunplaced : ∀ screen ∈ spec.screens, screen.position = none)
    (width height : α) :
    screenRects spec width height =
      spec.screens.zipIdx.filterMap fun entry =>
        (nonempty? entry.1.id).map (tile width height entry.2) := by
  rw [screenRects, List.mapIdx_eq_zipIdx_map, List.filterMap_map]
  refine List.filterMap_congr fun entry hentry => ?_
  have hnone := hunplaced entry.1 (List.fst_mem_of_mem_zipIdx hentry)
  simp only [Function.comp_apply, hnone, Option.getD_none]
  rfl

/-- With everything filled in, every screen has an id and stands in the slot of its index. -/
theorem screenRects_ensureIds (hunplaced : ∀ screen ∈ spec.screens, screen.position = none)
    (width height : α) :
    screenRects spec.ensureIds width height =
      spec.screens.mapIdx fun i screen => tile width height i (screen.idAt i) := by
  rw [screenRects, Spec.ensureIds, List.mapIdx_mapIdx, List.mapIdx_eq_zipIdx_map,
    List.filterMap_map, List.mapIdx_eq_zipIdx_map, ← List.filterMap_eq_map]
  refine List.filterMap_congr fun entry hentry => ?_
  have hnone := hunplaced entry.1 (List.fst_mem_of_mem_zipIdx hentry)
  have hid : nonempty? (some (entry.1.idAt entry.2)) = some (entry.1.idAt entry.2) :=
    nonempty?_eq_some.mpr ⟨rfl, entry.1.idAt_ne_empty entry.2⟩
  simp only [Function.comp_apply, Screen.ensureIds, hid, hnone, Option.getD_none,
    Option.getD_some, Option.map_some]
  rfl

/-- Filling in gives a screen that has an id no other rectangle. -/
theorem ofNamed_tiles (screens : List (Screen α)) (width height : α) :
    ofNamed screens (screens.mapIdx fun i screen => tile width height i (screen.idAt i)) =
      screens.zipIdx.filterMap fun entry =>
        (nonempty? entry.1.id).map (tile width height entry.2) := by
  rw [ofNamed, List.mapIdx_eq_zipIdx_map]
  generalize 0 = start
  induction screens generalizing start with
  | nil => rfl
  | cons screen screens ih =>
      rw [List.zipIdx_cons, List.map_cons, List.zip_cons_cons, List.filter_cons,
        List.filterMap_cons]
      cases hid : nonempty? screen.id with
      | none => simpa [hid] using ih (start + 1)
      | some id => simpa [hid, Screen.idAt] using ih (start + 1)

end Tiles

variable {width height : Rat}

theorem tile_apart (hwidth : width ≤ 400) (hheight : height ≤ 700) {i j : Nat} (hij : i ≠ j)
    (id id' : String) : (tile width height i id).Apart (tile width height j id') := by
  have hcast : ∀ {m n step : Int} {size : Rat}, m + step ≤ n → size ≤ step →
      (m : Rat) + size ≤ n := by
    intro m n step size h hsize
    have h : (m : Rat) + step ≤ n := by exact_mod_cast h
    linarith
  have hne : (i : Int) ≠ j := by exact_mod_cast hij
  rcases Grid.slot_steps hne with (h | h) | (h | h)
  · exact Rect.apart_of_x (.inl (hcast h hwidth))
  · exact Rect.apart_of_x (.inr (hcast h hwidth))
  · exact Rect.apart_of_y (.inl (hcast h hheight))
  · exact Rect.apart_of_y (.inr (hcast h hheight))

/-- A document without places, with everything filled in, has one rectangle for each of its screens,
in order and in the slots of the grid; no two of them overlap when a screen is no larger than the
steps of the grid, and those of the screens that came with an id are the rectangles that the
document had before. -/
theorem screenRects_unplaced {spec : Spec Rat}
    (hunplaced : ∀ screen ∈ spec.screens, screen.position = none) (hwidth : width ≤ 400)
    (hheight : height ≤ 700) :
    let rects := screenRects spec.ensureIds width height
    rects = (spec.screens.mapIdx fun i screen => tile width height i (screen.idAt i)) ∧
      rects.Pairwise Rect.Apart ∧
      screenRects spec width height = ofNamed spec.screens rects := by
  intro rects
  have hrects : rects = spec.screens.mapIdx fun i screen =>
      tile width height i (screen.idAt i) := screenRects_ensureIds hunplaced width height
  refine ⟨hrects, ?_, ?_⟩
  · rw [hrects, List.pairwise_iff_getElem]
    intro i j hi hj hij
    rw [List.getElem_mapIdx, List.getElem_mapIdx]
    exact tile_apart hwidth hheight hij.ne _ _
  · rw [hrects, ofNamed_tiles, screenRects_of_unplaced hunplaced]

/-- Four screens of the largest size that fits, two of them without an id. -/
theorem screenRects_unplaced_largest :
    let screens : List (Screen Rat) := [none, some "a", some "", some "b"].map fun id =>
      ⟨id, "", none, []⟩
    let spec : Spec Rat := ⟨"", screens, []⟩
    let rects := screenRects spec.ensureIds 400 700
    (∀ screen ∈ spec.screens, screen.position = none) ∧ (400 : Rat) ≤ 400 ∧ (700 : Rat) ≤ 700 ∧
      rects = (spec.screens.mapIdx fun i screen => tile 400 700 i (screen.idAt i)) ∧
      rects.Pairwise Rect.Apart ∧ screenRects spec 400 700 = ofNamed spec.screens rects := by
  intro screens spec rects
  have hunplaced : ∀ screen ∈ spec.screens, screen.position = none := by simp [spec, screens]
  exact ⟨hunplaced, le_refl _, le_refl _,
    screenRects_unplaced hunplaced (le_refl 400) (le_refl 700)⟩

end Flow

end Wireframe

import Wireframe.Flow.Path
import Wireframe.Proofs.Flow.Coordinates

/-! # Coordinates in range

Calculations with coordinates are stopped by an integer that has no double near it, one that is
given or one that comes about as a difference. For each step of a path it is said which numbers have
to be in range for it to have a result, and that nothing else stops it.
-/

namespace Wireframe

structure Point.InRange (p : Point Number) : Prop where
  x : p.x.inRange = true
  y : p.y.inRange = true

instance (p : Point Number) : Decidable p.InRange :=
  decidable_of_iff (p.x.inRange = true ∧ p.y.inRange = true)
    ⟨fun h => ⟨h.1, h.2⟩, fun h => ⟨h.x, h.y⟩⟩

/-- The way from one number to another is a number that has a double near it. -/
def Number.reaches (x y : Number) : Bool := y.meets x && (y - x).inRange

/-- The vector from one point to another has components in range. -/
structure Point.Reaches (p q : Point Number) : Prop where
  x : p.x.reaches q.x = true
  y : p.y.reaches q.y = true

instance (p q : Point Number) : Decidable (p.Reaches q) :=
  decidable_of_iff (p.x.reaches q.x = true ∧ p.y.reaches q.y = true)
    ⟨fun h => ⟨h.1, h.2⟩, fun h => ⟨h.x, h.y⟩⟩

structure Point.IsDouble (p : Point Number) : Prop where
  x : p.x.IsDouble
  y : p.y.IsDouble

theorem Point.IsDouble.inRange {p : Point Number} (h : p.IsDouble) : p.InRange :=
  ⟨h.x.inRange, h.y.inRange⟩

namespace Flow

/-- The calculation has a result, of which `P` holds, exactly when `p` does, and is stopped by a
number out of range otherwise. -/
structure Yields {α : Type} (p : Prop) (P : α → Prop) (result : Calculation α) : Prop where
  ok : p → ∃ a, result = .ok a ∧ P a
  error : ¬ p → result = .error .beyondDoubles

section

variable {α β : Type} {p q : Prop} {P : α → Prop} {Q : β → Prop} {x : Calculation α}
  {f : α → Calculation β}

theorem Yields.congr (h : Yields p P x) (hpq : p ↔ q) : Yields q P x := by rwa [← hpq]

theorem Yields.bind (hx : Yields p P x) (hf : ∀ a, p → P a → Yields q Q (f a)) :
    Yields (p ∧ q) Q (x >>= f) := by
  by_cases hp : p
  · obtain ⟨a, rfl, ha⟩ := hx.ok hp
    exact (hf a hp ha).congr (and_iff_right hp).symm
  · rw [hx.error hp]
    exact ⟨fun h => absurd h.1 hp, fun _ => rfl⟩

theorem Yields.bind_eq {a : α} (hx : Yields p (· = a) x) (hf : p → Yields q Q (f a)) :
    Yields (p ∧ q) Q (x >>= f) :=
  hx.bind fun _ hp ha => ha ▸ hf hp

theorem Yields.map {g : α → β} (hx : Yields p P x) (hg : ∀ a, P a → Q (g a)) :
    Yields p Q (x >>= fun a => pure (g a)) := by
  refine (hx.bind (q := True) fun a _ ha => ?_).congr (iff_of_eq (and_true p))
  exact ⟨fun _ => ⟨g a, rfl, hg a ha⟩, fun h => absurd trivial h⟩

theorem Yields.of_eq_ite {b : Bool} {a : α} (h : x = if b then .ok a else .error .beyondDoubles) :
    Yields (b = true) (· = a) x := by
  rw [h]
  exact ⟨fun hb => ⟨a, if_pos hb, rfl⟩, fun hb => if_neg hb⟩

end

/-! ## Steps -/

variable {radius dx dy : Number} {p q r : Point Number} {z : Double}

theorem sub_yields (x y : Number) : Yields (x.meets y = true) (· = x - y) (Scalar.sub x y) :=
  .of_eq_ite rfl

theorem length_yields (x y : Number) :
    Yields (x.inRange = true ∧ y.inRange = true)
      (· = .double (Double.hypot x.toDouble y.toDouble)) (Scalar.length x y) :=
  (Yields.of_eq_ite (b := x.inRange && y.inRange) rfl).congr (Bool.and_eq_true_iff)

theorem written_yields (p : Point Number) : Yields p.InRange (· = p) (written p) :=
  (Yields.of_eq_ite (b := p.x.inRange && p.y.inRange) rfl).congr <|
    Bool.and_eq_true_iff.trans ⟨fun h => ⟨h.1, h.2⟩, fun h => ⟨h.x, h.y⟩⟩

theorem written_of_inRange (h : p.InRange) : written p = .ok p := by
  obtain ⟨q, hq, rfl⟩ := (written_yields p).ok h
  exact hq

theorem advance_zero (hdx : dx.inRange = true) (hz : z.isZero = true) :
    advance dx (.double z) radius = .error .divisionByZero := by
  unfold advance
  rw [Number.scalar_div_double hdx, if_pos hz]
  rfl

theorem advance_ok (hdx : dx.inRange = true) (hz : z.isZero = false)
    (hradius : radius.inRange = true) : ∃ w, advance dx (.double z) radius = .ok (.double w) := by
  unfold advance
  rw [Number.scalar_div_double hdx, if_neg (by simp [hz])]
  exact ⟨_, Number.combine_eq _ rfl hradius⟩

/-- Sums and differences with doubles are doubles, and need the other number to be in range. -/
theorem combine_double_yields {f : Number → Number → Number} (x : Number) (z : Double)
    (hf : (f x (.double z)).IsDouble) :
    Yields (x.inRange = true) Number.IsDouble (Number.combine f x (.double z)) := by
  have hmeets : x.meets (.double z) = x.inRange := by
    cases x with
    | int n => exact Bool.and_true _
    | double y => rfl
  have h : Yields (x.meets (.double z) = true) (· = f x (.double z))
      (Number.combine f x (.double z)) := .of_eq_ite rfl
  rw [hmeets] at h
  refine ⟨fun hx => ?_, h.error⟩
  obtain ⟨w, hw, rfl⟩ := h.ok hx
  exact ⟨_, hw, hf⟩

/-- Where the way along a vector with a length leads is a point of doubles. -/
theorem shift_yields {f : Number → Number → Number}
    (hf : ∀ x z, (f x (.double z)).IsDouble) (hdx : dx.inRange = true) (hdy : dy.inRange = true)
    (hz : z.isZero = false) (hradius : radius.inRange = true) :
    Yields p.InRange Point.IsDouble (do
      let x ← Number.combine f p.x (← advance dx (.double z) radius)
      let y ← Number.combine f p.y (← advance dy (.double z) radius)
      return ⟨x, y⟩) := by
  obtain ⟨u, hu⟩ := advance_ok hdx hz hradius
  obtain ⟨v, hv⟩ := advance_ok hdy hz hradius
  rw [hu, hv, Except.ok_bind]
  refine ((combine_double_yields p.x u (hf _ _)).bind fun x _ hx => ?_).congr
    ⟨fun h => ⟨h.1, h.2⟩, fun h => ⟨h.x, h.y⟩⟩
  rw [Except.ok_bind]
  exact (combine_double_yields p.y v (hf _ _)).map fun y hy => ⟨hx, hy⟩

theorem along_yields (hdx : dx.inRange = true) (hdy : dy.inRange = true) (hz : z.isZero = false)
    (hradius : radius.inRange = true) :
    Yields p.InRange Point.IsDouble (along p dx dy (.double z) radius) :=
  shift_yields Number.add_double hdx hdy hz hradius

theorem before_yields (hdx : dx.inRange = true) (hdy : dy.inRange = true) (hz : z.isZero = false)
    (hradius : radius.inRange = true) :
    Yields p.InRange Point.IsDouble (before p dx dy (.double z) radius) :=
  shift_yields Number.sub_double hdx hdy hz hradius

end Flow

end Wireframe

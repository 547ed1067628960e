import Mathlib.Data.Rat.Sqrt
import Wireframe.Flow.Route
import Wireframe.Proofs.Outcome

/-! # Exact routes

Canvas geometry over the rationals, where nothing rounds: laws about lengths and places are stated
here. Centres, sides, directions and bends have a result for every two screens.
-/

namespace Wireframe

/-- Exact arithmetic. Of the lengths of vectors the rational ones are exact. -/
instance : Scalar Rat where
  whole n := n
  coordinate n := n
  add x y := .ok (x + y)
  sub x y := .ok (x - y)
  mul x y := .ok (x * y)
  div x y := if y = 0 then .error .divisionByZero else .ok (x / y)
  lt x y := decide (x < y)
  length x y := .ok (Rat.sqrt (x * x + y * y))
  isWritable _ := true

namespace Scalar

@[simp] theorem add_rat (x y : Rat) : Scalar.add x y = .ok (x + y) := rfl

@[simp] theorem sub_rat (x y : Rat) : Scalar.sub x y = .ok (x - y) := rfl

@[simp] theorem lt_rat (x y : Rat) : Scalar.lt x y = decide (x < y) := rfl

@[simp] theorem whole_rat (n : Int) : (Scalar.whole n : Rat) = n := rfl

@[simp] theorem half_rat (x : Rat) : Scalar.half x = .ok (x / 2) := rfl

theorem magnitude_rat (x : Rat) : isFarther.magnitude x = .ok |x| := by
  unfold isFarther.magnitude
  by_cases h : x < 0
  · simp [h, abs_of_neg h]
  · simp [h, abs_of_nonneg (not_lt.mp h)]

@[simp] theorem isFarther_rat (x y : Rat) :
    Scalar.isFarther x y = .ok (decide (|y| < |x|)) := by
  rw [isFarther, magnitude_rat, magnitude_rat]
  rfl

end Scalar

namespace Rect

variable (r : Rect Rat)

@[simp] theorem centerX_rat : r.centerX = .ok (r.x + r.width / 2) := rfl

@[simp] theorem centerY_rat : r.centerY = .ok (r.y + r.height / 2) := rfl

@[simp] theorem right_rat : r.right = .ok (r.x + r.width) := rfl

@[simp] theorem bottom_rat : r.bottom = .ok (r.y + r.height) := rfl

def middle : FlowDirection → Point Rat
  | .right => ⟨r.x + r.width, r.y + r.height / 2⟩
  | .left => ⟨r.x, r.y + r.height / 2⟩
  | .down => ⟨r.x + r.width / 2, r.y + r.height⟩
  | .up => ⟨r.x + r.width / 2, r.y⟩

@[simp] theorem side_rat (direction : FlowDirection) :
    r.side direction = .ok (r.middle direction) := by
  cases direction <;> rfl

end Rect

namespace Flow

/-- The direction of a vector: along its longer component, vertical when neither is longer. -/
def heading (dx dy : Rat) : FlowDirection :=
  if |dy| < |dx| then if 0 < dx then .right else .left
  else if 0 < dy then .down else .up

theorem direction_rat (source target : Rect Rat) :
    direction source target = .ok (heading
      (target.x + target.width / 2 - (source.x + source.width / 2))
      (target.y + target.height / 2 - (source.y + source.height / 2))) := by
  rw [heading]
  split <;> rename_i hfarther
  all_goals split <;> rename_i hahead
  all_goals simp [direction, bind, Except.bind, pure, Except.pure, hfarther, hahead]

/-- The points of an edge from the middle of one side to the middle of another. -/
def bent (start finish : Point Rat) (direction : FlowDirection) : List (Point Rat) :=
  if direction.isVertical then
    [start, ⟨start.x, (start.y + finish.y) / 2⟩, ⟨finish.x, (start.y + finish.y) / 2⟩, finish]
  else [start, ⟨(start.x + finish.x) / 2, start.y⟩, ⟨(start.x + finish.x) / 2, finish.y⟩, finish]

theorem bends_rat (start finish : Point Rat) (direction : FlowDirection) :
    bends start finish direction = .ok (bent start finish direction) := by
  cases direction <;> rfl

section

variable {α : Type} [Scalar α] {source target : Rect α}

theorem anchors_ok_iff {ends : Anchors α} :
    anchors source target = .ok ends ↔
      direction source target = .ok ends.direction ∧
        source.side ends.direction = .ok ends.start ∧
        target.side ends.direction.opposite = .ok ends.finish := by
  simp only [anchors, Except.bind_ok_iff, Except.pure_ok_iff]
  constructor
  · rintro ⟨way, hway, start, hstart, finish, hfinish, rfl⟩
    exact ⟨hway, hstart, hfinish⟩
  · rintro ⟨hway, hstart, hfinish⟩
    exact ⟨_, hway, _, hstart, _, hfinish, rfl⟩

theorem path_ok_iff {style : Style α} {edge : FlowEdge} {drawn : Path α} :
    path style edge source target = .ok drawn ↔
      ∃ ends, anchors source target = .ok ends ∧
        bends ends.start ends.finish ends.direction = .ok drawn.points ∧
        (nonempty? edge.label).mapM (fun text =>
          placeLabel text ends.start ends.finish ends.direction style.charWidth) =
            .ok drawn.label ∧
        roundedPath style.radius drawn.points = .ok drawn.commands ∧
        drawn.source = source.id ∧ drawn.target = target.id ∧
        drawn.direction = ends.direction := by
  simp only [path, Except.bind_ok_iff, Except.pure_ok_iff]
  constructor
  · rintro ⟨ends, hends, points, hpoints, label, hlabel, commands, hcommands, rfl⟩
    exact ⟨ends, hends, hpoints, hlabel, hcommands, rfl, rfl, rfl⟩
  · obtain ⟨commands, source, target, direction, points, label⟩ := drawn
    rintro ⟨ends, hends, hpoints, hlabel, hcommands, rfl, rfl, rfl⟩
    exact ⟨ends, hends, points, hpoints, label, hlabel, commands, hcommands, rfl⟩

def polyline (source target : Rect α) : Calculation (List (Point α)) := do
  let ends ← anchors source target
  bends ends.start ends.finish ends.direction

theorem polyline_of_path {style : Style α} {edge : FlowEdge} {routed : Path α}
    (h : path style edge source target = .ok routed) :
    polyline source target = .ok routed.points := by
  obtain ⟨ends, hends, hpoints, -⟩ := path_ok_iff.mp h
  exact Except.bind_ok_iff.mpr ⟨ends, hends, hpoints⟩

end

theorem polyline_rat (source target : Rect Rat) :
    let direction := heading
      (target.x + target.width / 2 - (source.x + source.width / 2))
      (target.y + target.height / 2 - (source.y + source.height / 2))
    polyline source target =
      .ok (bent (source.middle direction) (target.middle direction.opposite) direction) := by
  intro direction
  rw [← bends_rat]
  simp only [polyline, anchors, direction_rat, Rect.side_rat]
  rfl

end Flow

end Wireframe

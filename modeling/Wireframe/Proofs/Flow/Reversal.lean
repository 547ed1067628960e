import Mathlib.Tactic.NormNum
import Mathlib.Tactic.Ring
import Wireframe.Proofs.Flow.Exact

/-! # Edges there and back

The edge between two screens in exact arithmetic: it runs level and upright from the middle of one
side to the middle of the opposite side of the other screen. Turning the vector between the centres
around turns the heading around unless the vector is zero, so that the way back is the way there
(`routes_there_and_back`).
-/

namespace Wireframe

def Point.halfway (p q : Point Rat) : Point Rat := ⟨(p.x + q.x) / 2, (p.y + q.y) / 2⟩

namespace Rect

variable (r : Rect Rat)

def center : Point Rat := ⟨r.x + r.width / 2, r.y + r.height / 2⟩

/-- The corners at the ends of a side: the bottom for down, the top for up. -/
def corners : FlowDirection → Point Rat × Point Rat
  | .right => (⟨r.x + r.width, r.y⟩, ⟨r.x + r.width, r.y + r.height⟩)
  | .left => (⟨r.x, r.y⟩, ⟨r.x, r.y + r.height⟩)
  | .down => (⟨r.x, r.y + r.height⟩, ⟨r.x + r.width, r.y + r.height⟩)
  | .up => (⟨r.x, r.y⟩, ⟨r.x + r.width, r.y⟩)

def IsMiddle (p : Point Rat) (direction : FlowDirection) : Prop :=
  p = (r.corners direction).1.halfway (r.corners direction).2

theorem isMiddle_middle (direction : FlowDirection) :
    r.IsMiddle (r.middle direction) direction := by
  cases direction
  all_goals
    simp only [IsMiddle, corners, Point.halfway, middle, Point.mk.injEq]
    constructor <;> ring

end Rect

namespace FlowDirection

@[simp] theorem opposite_opposite (direction : FlowDirection) :
    direction.opposite.opposite = direction := by
  cases direction <;> rfl

@[simp] theorem isVertical_opposite (direction : FlowDirection) :
    direction.opposite.isVertical = direction.isVertical := by
  cases direction <;> rfl

end FlowDirection

namespace Flow

section Routes

variable {α : Type} [Scalar α] {source target : Rect α} {way : FlowDirection}
  {points : List (Point α)}

/-- The edge from one screen to another leaves in a direction and takes its way through some
points. -/
def Routes (source target : Rect α) (way : FlowDirection) (points : List (Point α)) : Prop :=
  direction source target = .ok way ∧ polyline source target = .ok points

theorem direction_of_path {style : Style α} {edge : FlowEdge} {routed : Path α}
    (h : path style edge source target = .ok routed) :
    direction source target = .ok routed.direction := by
  obtain ⟨ends, hends, -, -, -, -, -, hdirection⟩ := path_ok_iff.mp h
  rw [hdirection]
  exact (anchors_ok_iff.mp hends).1

theorem Routes.of_path (h : Routes source target way points) {style : Style α} {edge : FlowEdge}
    {routed : Path α} (hpath : path style edge source target = .ok routed) :
    routed.direction = way ∧ routed.points = points :=
  ⟨Except.ok.inj ((direction_of_path hpath).symm.trans h.1),
    Except.ok.inj ((polyline_of_path hpath).symm.trans h.2)⟩

end Routes

/-! ## The way there -/

/-- Neighbours share a coordinate: every segment is level or upright. -/
def Orthogonal (points : List (Point Rat)) : Prop :=
  points.IsChain fun p q => p.x = q.x ∨ p.y = q.y

/-- Four points from the middle of one side to the middle of the opposite side of the other
screen. -/
structure Attached (source target : Rect Rat) (direction : FlowDirection)
    (points : List (Point Rat)) : Prop where
  four : points.length = 4
  orthogonal : Orthogonal points
  start : ∃ p, points.head? = some p ∧ source.IsMiddle p direction
  finish : ∃ p, points.getLast? = some p ∧ target.IsMiddle p direction.opposite

theorem orthogonal_bent (start finish : Point Rat) (direction : FlowDirection) :
    Orthogonal (bent start finish direction) := by
  unfold bent
  split <;> simp [Orthogonal]

theorem attached_bent (source target : Rect Rat) (direction : FlowDirection) :
    Attached source target direction
      (bent (source.middle direction) (target.middle direction.opposite) direction) where
  four := by unfold bent; split <;> rfl
  orthogonal := orthogonal_bent _ _ direction
  start := ⟨source.middle direction, by unfold bent; split <;> rfl, source.isMiddle_middle _⟩
  finish := ⟨target.middle direction.opposite, by unfold bent; split <;> rfl,
    target.isMiddle_middle _⟩

/-! ## The way back -/

/-- Only a vector without length has no heading to turn around. -/
theorem heading_neg {dx dy : Rat} (h : dx ≠ 0 ∨ dy ≠ 0) :
    heading (-dx) (-dy) = (heading dx dy).opposite := by
  unfold heading
  rw [abs_neg, abs_neg]
  split
  case isTrue hlevel =>
    have hdx : dx ≠ 0 := abs_pos.mp ((abs_nonneg dy).trans_lt hlevel)
    rcases hdx.lt_or_gt with hneg | hpos
    · rw [if_pos (neg_pos.mpr hneg), if_neg hneg.asymm]
      rfl
    · rw [if_neg (neg_neg_of_pos hpos).asymm, if_pos hpos]
      rfl
  case isFalse hupright =>
    -- A tie counts as upright, so that only the other component could be zero here.
    have hdy : dy ≠ 0 := by
      rintro rfl
      rw [abs_zero, abs_pos, not_not] at hupright
      exact h.elim (absurd hupright) (absurd rfl)
    rcases hdy.lt_or_gt with hneg | hpos
    · rw [if_pos (neg_pos.mpr hneg), if_neg hneg.asymm]
      rfl
    · rw [if_neg (neg_neg_of_pos hpos).asymm, if_pos hpos]
      rfl

theorem bent_reverse (start finish : Point Rat) (direction : FlowDirection) :
    bent finish start direction.opposite = (bent start finish direction).reverse := by
  unfold bent
  rw [FlowDirection.isVertical_opposite, add_comm finish.x, add_comm finish.y]
  split <;> rfl

def bearing (source target : Rect Rat) : FlowDirection :=
  heading (target.center.x - source.center.x) (target.center.y - source.center.y)

theorem routes_rat (source target : Rect Rat) :
    let way := bearing source target
    Routes source target way
      (bent (source.middle way) (target.middle way.opposite) way) :=
  ⟨direction_rat source target, polyline_rat source target⟩

theorem bearing_swap {source target : Rect Rat} (h : source.center ≠ target.center) :
    bearing target source = (bearing source target).opposite := by
  unfold bearing
  rw [← heading_neg, neg_sub, neg_sub]
  by_contra hzero
  rw [not_or, not_not, not_not, sub_eq_zero, sub_eq_zero] at hzero
  exact h (congrArg₂ Point.mk hzero.1.symm hzero.2.symm)

/-- The edge between two screens of any sizes has four points with level and upright segments
between them, from the middle of the side that its direction names to the middle of the opposite
side. Unless the centres are one point, the edge back has the same points in reverse order and the
opposite direction. -/
theorem routes_there_and_back (a b : Rect Rat) :
    ∃ way points, Routes a b way points ∧ Attached a b way points ∧
      (∀ style edge routed, path style edge a b = .ok routed →
        routed.direction = way ∧ routed.points = points) ∧
      (a.center ≠ b.center → Routes b a way.opposite points.reverse ∧
        ∀ style edge routed, path style edge b a = .ok routed →
          routed.direction = way.opposite ∧ routed.points = points.reverse) := by
  have hthere := routes_rat a b
  refine ⟨_, _, hthere, attached_bent a b _, fun _ _ _ => hthere.of_path, fun hcenters => ?_⟩
  have hback := routes_rat b a
  simp only [bearing_swap hcenters, FlowDirection.opposite_opposite, bent_reverse] at hback
  exact ⟨hback, fun _ _ _ => hback.of_path⟩

/-- Centres that are as far apart in width as in height: upright on both ways. -/
theorem routes_there_and_back_tie :
    let a : Rect Rat := ⟨"a", 0, 0, 10, 10⟩
    let b : Rect Rat := ⟨"b", 20, -20, 10, 10⟩
    a.center ≠ b.center ∧ bearing a b = .up ∧
      ∃ way points, Routes a b way points ∧ Attached a b way points ∧
        Routes b a way.opposite points.reverse := by
  intro a b
  have hcenters : a.center ≠ b.center := by
    intro heq
    have hx : a.x + a.width / 2 = b.x + b.width / 2 := congrArg Point.x heq
    norm_num [a, b] at hx
  obtain ⟨way, points, hroutes, hattached, -, hback⟩ := routes_there_and_back a b
  refine ⟨hcenters, ?_, way, points, hroutes, hattached, (hback hcenters).1⟩
  norm_num [bearing, heading, Rect.center, a, b]

end Flow

end Wireframe

import Mathlib.Tactic.Linarith
import Mathlib.Tactic.NormNum
import Mathlib.Tactic.Ring
import Wireframe.Proofs.Flow.Exact

/-! # Edges and the screens that they join

An edge leaves and enters along the axis on which the centres of its screens are farther apart.
`polyline_clear_iff` says when it keeps out of both: exactly when the screens are apart along that
axis. Tall screens side by side can be farther apart by their centres in height than in width, and
then the edge runs through them (`polyline_enters`).
-/

namespace Wireframe

/-- The point lies strictly inside the screen. -/
def Rect.Encloses (r : Rect Rat) (p : Point Rat) : Prop :=
  (r.x < p.x ∧ p.x < r.x + r.width) ∧ r.y < p.y ∧ p.y < r.y + r.height

namespace Flow

def OnSegment (a b p : Point Rat) : Prop :=
  ∃ t : Rat, 0 ≤ t ∧ t ≤ 1 ∧ p.x = a.x + t * (b.x - a.x) ∧ p.y = a.y + t * (b.y - a.y)

/-- The point lies on a segment between two neighbours of a list of points. -/
inductive OnLine (p : Point Rat) : List (Point Rat) → Prop where
  | here {a b : Point Rat} {rest : List (Point Rat)} (on : OnSegment a b p) :
      OnLine p (a :: b :: rest)
  | later {a : Point Rat} {rest : List (Point Rat)} (on : OnLine p rest) : OnLine p (a :: rest)

theorem onSegment_right (a b : Point Rat) : OnSegment a b b :=
  ⟨1, zero_le_one, le_refl _, by ring, by ring⟩

/-- What is between two bounds at both ends of a segment is between them on all of it. -/
theorem between_of_convex {lo hi a b t : Rat} (hlo : 0 ≤ t) (hhi : t ≤ 1)
    (ha : lo ≤ a ∧ a ≤ hi) (hb : lo ≤ b ∧ b ≤ hi) :
    lo ≤ a + t * (b - a) ∧ a + t * (b - a) ≤ hi := by
  constructor <;> nlinarith

theorem OnLine.x_between {lo hi : Rat} {p : Point Rat} {points : List (Point Rat)}
    (on : OnLine p points) (h : ∀ q ∈ points, lo ≤ q.x ∧ q.x ≤ hi) : lo ≤ p.x ∧ p.x ≤ hi := by
  induction on with
  | @here a b rest on =>
      obtain ⟨t, hlo, hhi, hx, -⟩ := on
      rw [hx]
      exact between_of_convex hlo hhi (h a (by simp)) (h b (by simp))
  | later _ ih => exact ih fun q hq => h q (List.mem_cons_of_mem _ hq)

theorem OnLine.y_between {lo hi : Rat} {p : Point Rat} {points : List (Point Rat)}
    (on : OnLine p points) (h : ∀ q ∈ points, lo ≤ q.y ∧ q.y ≤ hi) : lo ≤ p.y ∧ p.y ≤ hi := by
  induction on with
  | @here a b rest on =>
      obtain ⟨t, hlo, hhi, -, hy⟩ := on
      rw [hy]
      exact between_of_convex hlo hhi (h a (by simp)) (h b (by simp))
  | later _ ih => exact ih fun q hq => h q (List.mem_cons_of_mem _ hq)

def Clear (points : List (Point Rat)) (a b : Rect Rat) : Prop :=
  ∀ p, OnLine p points → ¬ a.Encloses p ∧ ¬ b.Encloses p

theorem Clear.symm {points : List (Point Rat)} {a b : Rect Rat} (h : Clear points a b) :
    Clear points b a :=
  fun p on => (h p on).symm

theorem clear_of_x_between {points : List (Point Rat)} {a b : Rect Rat}
    (h : ∀ q ∈ points, a.x + a.width ≤ q.x ∧ q.x ≤ b.x) : Clear points a b := by
  intro p on
  obtain ⟨hlo, hhi⟩ := on.x_between h
  exact ⟨fun inside => not_lt.mpr hlo inside.1.2, fun inside => not_lt.mpr hhi inside.1.1⟩

theorem clear_of_y_between {points : List (Point Rat)} {a b : Rect Rat}
    (h : ∀ q ∈ points, a.y + a.height ≤ q.y ∧ q.y ≤ b.y) : Clear points a b := by
  intro p on
  obtain ⟨hlo, hhi⟩ := on.y_between h
  exact ⟨fun inside => not_lt.mpr hlo inside.2.2, fun inside => not_lt.mpr hhi inside.2.1⟩

theorem not_clear_of_bend {start bend : Point Rat} {rest : List (Point Rat)} {a b : Rect Rat}
    (h : a.Encloses bend) : ¬ Clear (start :: bend :: rest) a b :=
  fun clear => (clear bend (.here (onSegment_right start bend))).1 h

/-! ## Bent lines -/

theorem bent_x_between {lo hi : Rat} {start finish : Point Rat} (direction : FlowDirection)
    (hstart : lo ≤ start.x ∧ start.x ≤ hi) (hfinish : lo ≤ finish.x ∧ finish.x ≤ hi) :
    ∀ q ∈ bent start finish direction, lo ≤ q.x ∧ q.x ≤ hi := by
  have hmiddle : lo ≤ (start.x + finish.x) / 2 ∧ (start.x + finish.x) / 2 ≤ hi := by
    constructor <;> linarith
  unfold bent
  split <;> simp [hstart, hfinish, hmiddle]

theorem bent_y_between {lo hi : Rat} {start finish : Point Rat} (direction : FlowDirection)
    (hstart : lo ≤ start.y ∧ start.y ≤ hi) (hfinish : lo ≤ finish.y ∧ finish.y ≤ hi) :
    ∀ q ∈ bent start finish direction, lo ≤ q.y ∧ q.y ≤ hi := by
  have hmiddle : lo ≤ (start.y + finish.y) / 2 ∧ (start.y + finish.y) / 2 ≤ hi := by
    constructor <;> linarith
  unfold bent
  split <;> simp [hstart, hfinish, hmiddle]

/-- How far a screen begins beyond the end of another in a direction; negative where they overlap
along it. -/
def gap (a b : Rect Rat) : FlowDirection → Rat
  | .right => b.x - (a.x + a.width)
  | .left => a.x - (b.x + b.width)
  | .down => b.y - (a.y + a.height)
  | .up => a.y - (b.y + b.height)

def extent (r : Rect Rat) (direction : FlowDirection) : Rat :=
  if direction.isVertical then r.height else r.width

theorem bent_clear {a b : Rect Rat} {direction : FlowDirection} (h : 0 ≤ gap a b direction) :
    Clear (bent (a.middle direction) (b.middle direction.opposite) direction) a b := by
  cases direction <;> simp only [gap, sub_nonneg] at h
  case right => exact clear_of_x_between (bent_x_between _ ⟨le_refl _, h⟩ ⟨h, le_refl _⟩)
  case left => exact (clear_of_x_between (bent_x_between _ ⟨h, le_refl _⟩ ⟨le_refl _, h⟩)).symm
  case down => exact clear_of_y_between (bent_y_between _ ⟨le_refl _, h⟩ ⟨h, le_refl _⟩)
  case up => exact (clear_of_y_between (bent_y_between _ ⟨h, le_refl _⟩ ⟨le_refl _, h⟩)).symm

/-- Where two screens overlap along the direction of an edge, by less than their sizes together, its
first bend lies behind the side that it leaves. -/
theorem not_bent_clear {a b : Rect Rat} {direction : FlowDirection} (hwidth : 0 < a.width)
    (hheight : 0 < a.height) (h : gap a b direction < 0)
    (hextent : -(2 * extent a direction) < gap a b direction) :
    ¬ Clear (bent (a.middle direction) (b.middle direction.opposite) direction) a b := by
  cases direction
  all_goals
    simp only [gap, extent, FlowDirection.isVertical, if_true, Bool.false_eq_true, if_false]
      at h hextent
    refine not_clear_of_bend ⟨⟨?_, ?_⟩, ?_, ?_⟩
    all_goals
      dsimp only [Rect.middle, FlowDirection.opposite]
      linarith

/-- Of two screens of one size the one ahead begins beyond the end of the other when the distance of
their centres along the heading is at least their size. -/
theorem gap_heading_nonneg_iff {a b : Rect Rat} (hwidths : b.width = a.width)
    (hheights : b.height = a.height) :
    0 ≤ gap a b (heading (b.x - a.x) (b.y - a.y)) ↔
      if |b.y - a.y| < |b.x - a.x| then a.width ≤ |b.x - a.x| else a.height ≤ |b.y - a.y| := by
  unfold heading
  split
  · split
    case isTrue hahead =>
      rw [abs_of_pos hahead, gap]
      constructor <;> intro h <;> linarith
    case isFalse hbehind =>
      rw [abs_of_nonpos (not_lt.mp hbehind), gap, hwidths]
      constructor <;> intro h <;> linarith
  · split
    case isTrue hahead =>
      rw [abs_of_pos hahead, gap]
      constructor <;> intro h <;> linarith
    case isFalse hbehind =>
      rw [abs_of_nonpos (not_lt.mp hbehind), gap, hheights]
      constructor <;> intro h <;> linarith

theorem neg_extent_lt_gap_heading {a b : Rect Rat} (hwidth : 0 < a.width) (hheight : 0 < a.height)
    (hwidths : b.width = a.width) (hheights : b.height = a.height) :
    -(2 * extent a (heading (b.x - a.x) (b.y - a.y))) <
      gap a b (heading (b.x - a.x) (b.y - a.y)) := by
  unfold heading
  split <;> split <;> rename_i hahead
  all_goals
    simp only [gap, extent, FlowDirection.isVertical, if_true, Bool.false_eq_true, if_false]
    linarith

/-- An edge between two screens of one size keeps out of both of them exactly when they are apart
along the axis on which their centres are farther apart. -/
theorem polyline_clear_iff {source target : Rect Rat} (hwidth : 0 < source.width)
    (hheight : 0 < source.height) (hwidths : target.width = source.width)
    (hheights : target.height = source.height) :
    ∃ points, polyline source target = .ok points ∧
      (∀ style edge routed, path style edge source target = .ok routed →
        routed.points = points) ∧
      points.length = 4 ∧
      (Clear points source target ↔
        if |target.y - source.y| < |target.x - source.x| then
          source.width ≤ |target.x - source.x|
        else source.height ≤ |target.y - source.y|) := by
  have hline := polyline_rat source target
  have hx : target.x + target.width / 2 - (source.x + source.width / 2) = target.x - source.x := by
    rw [hwidths]
    ring
  have hy : target.y + target.height / 2 - (source.y + source.height / 2) =
      target.y - source.y := by
    rw [hheights]
    ring
  rw [hx, hy] at hline
  refine ⟨_, hline, ?_, ?_, ?_⟩
  · intro style edge routed hrouted
    exact Except.ok.inj ((polyline_of_path hrouted).symm.trans hline)
  · unfold bent
    split <;> rfl
  · rw [← gap_heading_nonneg_iff hwidths hheights]
    constructor
    · intro clear
      by_contra hoverlap
      exact not_bent_clear hwidth hheight (not_le.mp hoverlap)
        (neg_extent_lt_gap_heading hwidth hheight hwidths hheights) clear
    · exact bent_clear

/-- Two tall screens, the second to the left of the first and far above it. -/
theorem polyline_clear_above :
    let source : Rect Rat := ⟨"a", 0, 0, 280, 600⟩
    let target : Rect Rat := ⟨"b", -601 / 2, -650, 280, 600⟩
    ∃ points, polyline source target = .ok points ∧ Clear points source target := by
  intro source target
  have hwidth : 0 < source.width := by norm_num [source]
  have hheight : 0 < source.height := by norm_num [source]
  have hwidths : target.width = source.width := rfl
  have hheights : target.height = source.height := rfl
  obtain ⟨points, hpoints, -, -, hclear⟩ := polyline_clear_iff hwidth hheight hwidths hheights
  refine ⟨points, hpoints, hclear.mpr ?_⟩
  norm_num [source, target, abs_of_neg]

/-- Two tall screens side by side whose centres are farther apart in height than in width: the edge
begins at the bottom of the first and goes up through it. -/
theorem polyline_enters :
    let source : Rect Rat := ⟨"a", 0, 0, 280, 600⟩
    let target : Rect Rat := ⟨"b", 300, 400, 280, 600⟩
    (∀ p, ¬ (source.Encloses p ∧ target.Encloses p)) ∧
      ∃ points, polyline source target = .ok points ∧
        ∃ p, OnLine p points ∧ source.Encloses p := by
  intro source target
  have hheading : heading (300 + 280 / 2 - (0 + 280 / 2)) (400 + 600 / 2 - (0 + 600 / 2)) =
      .down := by
    norm_num [heading, abs_of_pos]
  have hline := polyline_rat source target
  simp only [source, target, hheading] at hline
  refine ⟨?_, _, hline, ⟨140, 500⟩, ?_, ?_⟩
  · rintro p ⟨⟨⟨-, hleft⟩, -⟩, ⟨hright, -⟩, -⟩
    simp only [source, target] at hleft hright
    linarith
  · refine .here ⟨1, zero_le_one, le_refl _, ?_, ?_⟩
    all_goals norm_num [Rect.middle, FlowDirection.opposite]
  · norm_num [Rect.Encloses, source]

end Flow

end Wireframe

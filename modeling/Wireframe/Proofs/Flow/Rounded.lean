import Wireframe.Proofs.Flow.Clearance
import Wireframe.Proofs.Flow.Reversal

/-! # Rounded corners

The path through a line of level and upright segments, in exact arithmetic. It takes every corner in
one turn, and between two turns it is straight. A curve never reaches beyond the middle of a
segment: where a turn begins lies in the second half of the segment before the corner, and where it
ends in the first half of the segment behind. Two curves on one segment therefore leave each other
room, and the path never doubles back (`roundedPath_strokes`).
-/

namespace Wireframe

namespace Flow

inductive Turn (α : Type) where
  | sharp (corner : Point α)
  | round (start corner finish : Point α)

namespace Turn

variable {α : Type}

def corner : Turn α → Point α
  | sharp corner => corner
  | round _ corner _ => corner

def start : Turn α → Point α
  | sharp corner => corner
  | round start _ _ => start

def finish : Turn α → Point α
  | sharp corner => corner
  | round _ _ finish => finish

def IsRound : Turn α → Prop
  | sharp _ => False
  | round _ _ _ => True

/-- What is drawn for a turn: a line to where it begins and, when it is round, a curve that the
corner controls. -/
def commands : Turn α → List (Command α)
  | sharp corner => [.line corner]
  | round start corner finish => [.line start, .curve corner finish]

end Turn

section Line

variable {α : Type}

def segments (points : List (Point α)) : List (Point α × Point α) := points.zip points.tail

def corners (points : List (Point α)) : List (Point α × Point α × Point α) :=
  points.zip (segments points.tail)

/-- The straight parts of a path through turns: from the end of each to the start of the next. -/
def strokes (first : Point α) (turns : List (Turn α)) (last : Point α) :
    List (Point α × Point α) :=
  (first :: turns.map Turn.finish).zip (turns.map Turn.start ++ [last])

end Line

def distanceSq (p q : Point Rat) : Rat := (q.x - p.x) ^ 2 + (q.y - p.y) ^ 2

/-- A turn at a corner: round exactly between segments of twice the radius at least, and then from
and to points at the radius from the corner. -/
structure Takes (radius : Rat) (around : Point Rat × Point Rat × Point Rat) (turn : Turn Rat) :
    Prop where
  corner : turn.corner = around.2.1
  round_iff : turn.IsRound ↔ (2 * radius) ^ 2 ≤ distanceSq around.1 around.2.1 ∧
    (2 * radius) ^ 2 ≤ distanceSq around.2.1 around.2.2
  ends : turn.IsRound → distanceSq turn.start around.2.1 = radius ^ 2 ∧
    distanceSq around.2.1 turn.finish = radius ^ 2

/-- A stroke on a segment, in the direction of the segment. -/
structure Stays (segment stroke : Point Rat × Point Rat) : Prop where
  start : OnSegment segment.1 segment.2 stroke.1
  finish : OnSegment segment.1 segment.2 stroke.2
  forward : distanceSq segment.1 stroke.1 ≤ distanceSq segment.1 stroke.2

/-! ## Halves of segments -/

def part (p q : Point Rat) (t : Rat) : Point Rat :=
  ⟨p.x + t * (q.x - p.x), p.y + t * (q.y - p.y)⟩

/-- The point lies between an end of a segment and its middle. -/
def FirstHalf (p q a : Point Rat) : Prop := ∃ t, 0 ≤ t ∧ t ≤ 1 / 2 ∧ a = part p q t

def SecondHalf (p q a : Point Rat) : Prop := ∃ t, 1 / 2 ≤ t ∧ t ≤ 1 ∧ a = part p q t

theorem firstHalf_self (p q : Point Rat) : FirstHalf p q p :=
  ⟨0, le_refl _, by norm_num, by simp [part]⟩

theorem secondHalf_self (p q : Point Rat) : SecondHalf p q q :=
  ⟨1, by norm_num, le_refl _, by simp [part]⟩

theorem onSegment_part {t : Rat} (p q : Point Rat) (hlo : 0 ≤ t) (hhi : t ≤ 1) :
    OnSegment p q (part p q t) :=
  ⟨t, hlo, hhi, rfl, rfl⟩

theorem distanceSq_part (p q : Point Rat) (t : Rat) :
    distanceSq p (part p q t) = t ^ 2 * distanceSq p q := by
  simp only [distanceSq, part]
  ring

theorem distanceSq_part_right (p q : Point Rat) (t : Rat) :
    distanceSq (part p q t) q = (1 - t) ^ 2 * distanceSq p q := by
  simp only [distanceSq, part]
  ring

theorem distanceSq_nonneg (p q : Point Rat) : 0 ≤ distanceSq p q :=
  add_nonneg (sq_nonneg _) (sq_nonneg _)

/-- From the first half of a segment to its second half it goes forward. -/
theorem stays_of_halves {p q a b : Point Rat} (ha : FirstHalf p q a) (hb : SecondHalf p q b) :
    Stays (p, q) (a, b) := by
  obtain ⟨t, hpos, hhalf, rfl⟩ := ha
  obtain ⟨s, hhalf', hone, rfl⟩ := hb
  refine ⟨onSegment_part p q hpos (by linarith), onSegment_part p q (by linarith) hone, ?_⟩
  dsimp only
  rw [distanceSq_part, distanceSq_part]
  have hsq : t ^ 2 ≤ s ^ 2 := pow_le_pow_left₀ hpos (hhalf.trans hhalf') 2
  exact mul_le_mul_of_nonneg_right hsq (distanceSq_nonneg p q)

/-! ## Corners -/

theorem length_rat {p q : Point Rat} (h : p.x = q.x ∨ p.y = q.y) :
    ∃ length, Scalar.length (q.x - p.x) (q.y - p.y) = .ok length ∧ 0 ≤ length ∧
      length ^ 2 = distanceSq p q := by
  have hsqrt : ∀ d : Rat, Rat.sqrt (d * d) = |d| := Rat.sqrt_eq
  rcases h with h | h
  · refine ⟨|q.y - p.y|, ?_, abs_nonneg _, by simp [distanceSq, h]⟩
    show Except.ok (Rat.sqrt _) = _
    rw [h, sub_self, mul_zero, zero_add, hsqrt]
  · refine ⟨|q.x - p.x|, ?_, abs_nonneg _, by simp [distanceSq, h]⟩
    show Except.ok (Rat.sqrt _) = _
    rw [h, sub_self, mul_zero, add_zero, hsqrt]

theorem advance_rat {component length distance : Rat} (h : length ≠ 0) :
    advance component length distance = .ok (component / length * distance) := by
  show (if length = 0 then _ else _) >>= _ = _
  rw [if_neg h]
  rfl

theorem before_rat {p q : Point Rat} {length radius : Rat} (h : length ≠ 0) :
    before q (q.x - p.x) (q.y - p.y) length radius = .ok (part p q (1 - radius / length)) := by
  unfold before
  rw [advance_rat h, advance_rat h]
  show Except.ok _ = _
  simp only [part, Except.ok.injEq, Point.mk.injEq]
  constructor <;> ring

theorem along_rat {p q : Point Rat} {length radius : Rat} (h : length ≠ 0) :
    along p (q.x - p.x) (q.y - p.y) length radius = .ok (part p q (radius / length)) := by
  unfold along
  rw [advance_rat h, advance_rat h]
  show Except.ok _ = _
  simp only [part, Except.ok.injEq, Point.mk.injEq]
  constructor <;> ring

section Corner

variable {radius length₁ length₂ : Rat} {p q r : Point Rat}

theorem corner_sharp (h₁ : Scalar.length (q.x - p.x) (q.y - p.y) = .ok length₁)
    (h₂ : Scalar.length (r.x - q.x) (r.y - q.y) = .ok length₂)
    (hshort : length₁ < 2 * radius ∨ length₂ < 2 * radius) :
    corner radius p q r = .ok [.line q] := by
  have hneeded : Scalar.mul radius (Scalar.whole 2) = .ok (2 * radius) :=
    congrArg Except.ok (mul_comm _ _)
  have htest : (Scalar.lt length₁ (2 * radius) || Scalar.lt length₂ (2 * radius)) = true := by
    simpa using hshort
  unfold corner
  simp only [Scalar.sub_rat, Except.ok_bind, h₁, h₂, hneeded, htest, if_true]
  rfl

theorem corner_round (hradius : 0 < radius)
    (h₁ : Scalar.length (q.x - p.x) (q.y - p.y) = .ok length₁)
    (h₂ : Scalar.length (r.x - q.x) (r.y - q.y) = .ok length₂)
    (hlong₁ : 2 * radius ≤ length₁) (hlong₂ : 2 * radius ≤ length₂) :
    corner radius p q r =
      .ok [.line (part p q (1 - radius / length₁)), .curve q (part q r (radius / length₂))] := by
  have hneeded : Scalar.mul radius (Scalar.whole 2) = .ok (2 * radius) :=
    congrArg Except.ok (mul_comm _ _)
  have htest : (Scalar.lt length₁ (2 * radius) || Scalar.lt length₂ (2 * radius)) = false := by
    simpa using ⟨hlong₁, hlong₂⟩
  have hpos₁ : length₁ ≠ 0 := by linarith
  have hpos₂ : length₂ ≠ 0 := by linarith
  unfold corner
  simp only [Scalar.sub_rat, Except.ok_bind, h₁, h₂, hneeded, htest, Bool.false_eq_true, if_false,
    before_rat hpos₁, along_rat hpos₂]
  rfl

/-- Next to a segment of twice the radius a turn stays within its half of the segment. -/
theorem radius_div_le_half (hradius : 0 < radius) (hlong : 2 * radius ≤ length₁) :
    0 ≤ radius / length₁ ∧ radius / length₁ ≤ 1 / 2 := by
  have hpos : 0 < length₁ := by linarith
  refine ⟨(div_pos hradius hpos).le, ?_⟩
  rw [div_le_iff₀ hpos]
  linarith

/-- A corner between level and upright segments is taken in one turn, which keeps to the halves of
the segments next to the corner. -/
theorem corner_turn (hradius : 0 < radius) (hbefore : p.x = q.x ∨ p.y = q.y)
    (hbehind : q.x = r.x ∨ q.y = r.y) :
    ∃ turn : Turn Rat, corner radius p q r = .ok turn.commands ∧ Takes radius (p, q, r) turn ∧
      SecondHalf p q turn.start ∧ FirstHalf q r turn.finish := by
  obtain ⟨length₁, h₁, hnonneg₁, hsq₁⟩ := length_rat hbefore
  obtain ⟨length₂, h₂, hnonneg₂, hsq₂⟩ := length_rat hbehind
  have hlong : ((2 * radius) ^ 2 ≤ distanceSq p q ∧ (2 * radius) ^ 2 ≤ distanceSq q r) ↔
      2 * radius ≤ length₁ ∧ 2 * radius ≤ length₂ := by
    have hneeded : 0 ≤ 2 * radius := by linarith
    rw [← hsq₁, ← hsq₂, sq_le_sq₀ hneeded hnonneg₁, sq_le_sq₀ hneeded hnonneg₂]
  by_cases hround : 2 * radius ≤ length₁ ∧ 2 * radius ≤ length₂
  · obtain ⟨hlo₁, hhi₁⟩ := radius_div_le_half hradius hround.1
    obtain ⟨hlo₂, hhi₂⟩ := radius_div_le_half hradius hround.2
    have hne₁ : length₁ ^ 2 ≠ 0 := pow_ne_zero 2 (by linarith)
    have hne₂ : length₂ ^ 2 ≠ 0 := pow_ne_zero 2 (by linarith)
    have hstart : distanceSq (part p q (1 - radius / length₁)) q = radius ^ 2 := by
      rw [distanceSq_part_right, ← hsq₁, sub_sub_cancel, div_pow, div_mul_cancel₀ _ hne₁]
    have hfinish : distanceSq q (part q r (radius / length₂)) = radius ^ 2 := by
      rw [distanceSq_part, ← hsq₂, div_pow, div_mul_cancel₀ _ hne₂]
    exact ⟨.round (part p q (1 - radius / length₁)) q (part q r (radius / length₂)),
      corner_round hradius h₁ h₂ hround.1 hround.2,
      ⟨rfl, iff_of_true trivial (hlong.mpr hround), fun _ => ⟨hstart, hfinish⟩⟩,
      ⟨_, by linarith, by linarith, rfl⟩, ⟨_, hlo₂, hhi₂, rfl⟩⟩
  · have hshort := hround
    rw [not_and_or, not_le, not_le] at hshort
    exact ⟨.sharp q, corner_sharp h₁ h₂ hshort,
      ⟨rfl, iff_of_false id (mt hlong.mp hround), False.elim⟩,
      secondHalf_self p q, firstHalf_self q r⟩

end Corner

/-! ## Paths -/

variable {radius : Rat}

/-- From a point in the first half of the first segment on, the path takes the corners in turns and
stays on the segments between them. -/
theorem rest_strokes (hradius : 0 < radius) {previous : Point Rat} {points : List (Point Rat)}
    (hpoints : points ≠ []) (horthogonal : Orthogonal (previous :: points)) :
    ∃ turns last, points.getLast? = some last ∧
      rest radius previous points = .ok (turns.flatMap Turn.commands ++ [.line last]) ∧
      List.Forall₂ (Takes radius) (corners (previous :: points)) turns ∧
      ∀ start, (∀ next ∈ points.head?, FirstHalf previous next start) →
        List.Forall₂ Stays (segments (previous :: points)) (strokes start turns last) := by
  induction points generalizing previous with
  | nil => exact absurd rfl hpoints
  | cons point points ih =>
      rw [Orthogonal, List.isChain_cons_cons] at horthogonal
      cases points with
      | nil =>
          refine ⟨[], point, rfl, rfl, .nil, fun start hstart => ?_⟩
          exact .cons (stays_of_halves (hstart point rfl) (secondHalf_self previous point)) .nil
      | cons next points =>
          obtain ⟨turn, hcorner, htakes, hbegins, hends⟩ := corner_turn hradius horthogonal.1
            (List.isChain_cons_cons.mp horthogonal.2).1
          obtain ⟨turns, last, hlast, hrest, hturns, hstrokes⟩ :=
            ih (List.cons_ne_nil _ _) horthogonal.2
          refine ⟨turn :: turns, last, ?_, ?_, .cons htakes hturns, fun start hstart => ?_⟩
          · rw [List.getLast?_cons_cons, hlast]
          · rw [rest, hcorner, Except.ok_bind, hrest, Except.ok_bind, List.flatMap_cons,
              List.append_assoc]
            rfl
          · have hfrom : ∀ other ∈ (next :: points).head?, FirstHalf point other turn.finish := by
              rintro _ ⟨⟩
              exact hends
            exact .cons (stays_of_halves (hstart point rfl) hbegins) (hstrokes _ hfrom)

/-- The path through a line of level and upright segments takes each corner in one turn, round
exactly between segments of twice the radius at least, and each straight part of it lies on its
segment and goes forward on it. -/
theorem roundedPath_strokes (hradius : 0 < radius) {points : List (Point Rat)}
    (hlength : 2 ≤ points.length) (horthogonal : Orthogonal points) :
    ∃ first turns last, points.head? = some first ∧ points.getLast? = some last ∧
      roundedPath radius points =
        .ok (.move first :: (turns.flatMap Turn.commands ++ [.line last])) ∧
      List.Forall₂ (Takes radius) (corners points) turns ∧
      List.Forall₂ Stays (segments points) (strokes first turns last) := by
  match points, hlength with
  | first :: second :: points, _ =>
      obtain ⟨turns, last, hlast, hrest, hturns, hstrokes⟩ :=
        rest_strokes hradius (List.cons_ne_nil _ _) horthogonal
      refine ⟨first, turns, last, rfl, ?_, ?_, hturns, hstrokes first ?_⟩
      · rw [List.getLast?_cons_cons, hlast]
      · show (do let more ← rest radius first (second :: points); _) = _
        rw [hrest]
        rfl
      · rintro _ ⟨⟩
        exact firstHalf_self first second

/-- Segments of exactly twice the radius, and a point that stands there twice. -/
theorem roundedPath_strokes_tight :
    let points : List (Point Rat) := [⟨0, 0⟩, ⟨24, 0⟩, ⟨24, 24⟩, ⟨24, 24⟩, ⟨0, 24⟩]
    (0 : Rat) < 12 ∧ 2 ≤ points.length ∧ Orthogonal points ∧ ∃ first turns last,
      points.head? = some first ∧ points.getLast? = some last ∧
      roundedPath 12 points = .ok (.move first :: (turns.flatMap Turn.commands ++ [.line last])) ∧
      List.Forall₂ (Takes 12) (corners points) turns ∧
      List.Forall₂ Stays (segments points) (strokes first turns last) := by
  intro points
  have hradius : (0 : Rat) < 12 := by norm_num
  have hlength : 2 ≤ points.length := by simp [points]
  have horthogonal : Orthogonal points := by simp [Orthogonal, points]
  exact ⟨hradius, hlength, horthogonal, roundedPath_strokes hradius hlength horthogonal⟩

end Flow

end Wireframe

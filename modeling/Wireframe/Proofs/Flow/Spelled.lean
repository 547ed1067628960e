import Wireframe.Proofs.Double.Characters
import Wireframe.Proofs.Flow.Ranges
import Wireframe.Proofs.Flow.Routable
import Wireframe.Proofs.Flow.Rounded

/-! # The words of path data

Split at its blanks, the text of a path is a sequence of commands with nothing missing and nothing
left over: it begins at the first point, takes every corner in one turn, in order, and ends at the
last point. A turn is round exactly between two segments that are measured to be no shorter than
twice the radius (`roundedPath_spells`). The lengths are measured in doubles, so a segment may be
shorter and yet count as long enough (`roundedPath_rounds_short`). Only a number out of range keeps
a path from having its text.
-/

namespace Wireframe

namespace Flow

variable {radius : Number}

/-! ## Words -/

theorem Command.forall_mem_words {P : String → Prop}
    (letters : ∀ letter ∈ ["M", "L", "Q"], P letter) (numbers : ∀ x : Number, P x.compact)
    (command : Command Number) : ∀ word ∈ command.words, P word := by
  have point : ∀ p : Point Number, ∀ word ∈ pointWords p, P word := fun p =>
    List.forall_mem_cons.mpr ⟨numbers p.x, List.forall_mem_singleton.mpr (numbers p.y)⟩
  cases command with
  | move target => exact List.forall_mem_cons.mpr ⟨letters "M" (by simp), point target⟩
  | line target => exact List.forall_mem_cons.mpr ⟨letters "L" (by simp), point target⟩
  | curve control target =>
      exact List.forall_mem_cons.mpr ⟨letters "Q" (by simp),
        List.forall_mem_append.mpr ⟨point control, point target⟩⟩

theorem blank_notMem_words (command : Command Number) :
    ∀ word ∈ command.words, ' ' ∉ word.toList := by
  refine command.forall_mem_words (by decide) fun x hblank => ?_
  exact absurd (x.isNumeral_compact ' ' hblank) (by decide)

theorem ne_empty_of_mem_words (command : Command Number) : ∀ word ∈ command.words, word ≠ "" :=
  command.forall_mem_words (by decide) Number.compact_ne_empty

theorem words_ne_nil (command : Command Number) : command.words ≠ [] := by
  cases command <;> exact List.cons_ne_nil _ _

/-- Splitting at blanks gives the words of the commands back. -/
theorem splitOn_pathText {commands : List (Command Number)} (h : commands ≠ []) :
    (pathText commands).toList.splitOn ' ' =
      (commands.flatMap Command.words).map String.toList := by
  rw [pathText, String.toList_intercalate]
  refine List.splitOn_intercalate ' ' ?_ ?_
  · rw [List.forall_mem_map, List.forall_mem_flatMap]
    exact fun command _ => blank_notMem_words command
  · obtain ⟨command, commands, rfl⟩ := List.exists_cons_of_ne_nil h
    simp [words_ne_nil]

/-- The words for a turn: a line to its corner or, when it is round, a line to where it begins and a
curve that the corner controls. -/
def Turn.words : Turn Number → List String
  | .sharp corner => "L" :: pointWords corner
  | .round start corner finish =>
      "L" :: pointWords start ++ "Q" :: pointWords corner ++ pointWords finish

theorem Turn.words_commands (turn : Turn Number) :
    turn.commands.flatMap Command.words = turn.words := by
  cases turn <;> simp [Turn.commands, Turn.words, Command.words]

/-! ## Turns -/

def IsLong (radius : Number) (p q : Point Number) : Prop :=
  (Number.double (distance p q)).lt (radius * .int 2) = false

/-- A turn at a corner, round exactly between two long segments. -/
structure TurnsAt (radius : Number) (around : Point Number × Point Number × Point Number)
    (turn : Turn Number) : Prop where
  corner : turn.corner = around.2.1
  round_iff : turn.IsRound ↔ IsLong radius around.1 around.2.1 ∧ IsLong radius around.2.1 around.2.2

theorem IsLong.isZero_eq {p q : Point Number} (h : IsLong radius p q)
    (hpos : (Number.int 0).lt radius = true) : (distance p q).isZero = false := by
  refine Bool.eq_false_iff.mpr fun hzero => ?_
  rw [IsLong, Number.lt_of_isZero hzero (Number.mul_two_pos hpos)] at h
  cases h

/-- Behind a point the commands take each corner in one turn and end at the last point. -/
def FollowsFrom (radius : Number) (previous : Point Number) (points : List (Point Number))
    (commands : List (Command Number)) : Prop :=
  ∃ turns last, points.getLast? = some last ∧
    commands = turns.flatMap Turn.commands ++ [.line last] ∧
    List.Forall₂ (TurnsAt radius) (corners (previous :: points)) turns

/-- The commands go from the first point to the last one and take each corner in one turn. -/
def Follows (radius : Number) (points : List (Point Number)) (commands : List (Command Number)) :
    Prop :=
  ∃ first turns last, points.head? = some first ∧ points.getLast? = some last ∧
    commands = .move first :: (turns.flatMap Turn.commands ++ [.line last]) ∧
    List.Forall₂ (TurnsAt radius) (corners points) turns

theorem FollowsFrom.follows {first second : Point Number} {points : List (Point Number)}
    {commands : List (Command Number)} (h : FollowsFrom radius first (second :: points) commands) :
    Follows radius (first :: second :: points) (.move first :: commands) := by
  obtain ⟨turns, last, hlast, rfl, hturns⟩ := h
  exact ⟨first, turns, last, rfl, hlast, rfl, hturns⟩

theorem reaches_iff {p q : Point Number} :
    p.Reaches q ↔ (q.x.meets p.x = true ∧ q.y.meets p.y = true) ∧
      (q.x - p.x).inRange = true ∧ (q.y - p.y).inRange = true := by
  constructor
  · rintro ⟨hx, hy⟩
    obtain ⟨hmeets, hdx⟩ := Bool.and_eq_true_iff.mp hx
    obtain ⟨hmeets', hdy⟩ := Bool.and_eq_true_iff.mp hy
    exact ⟨⟨hmeets, hmeets'⟩, hdx, hdy⟩
  · rintro ⟨⟨hmeets, hmeets'⟩, hdx, hdy⟩
    exact ⟨Bool.and_eq_true_iff.mpr ⟨hmeets, hdx⟩, Bool.and_eq_true_iff.mpr ⟨hmeets', hdy⟩⟩

section

variable (hpos : (Number.int 0).lt radius = true) (hrange : radius.inRange = true)
  {a b c : Point Number}

include hpos hrange

/-- Once the lengths are known, only the corner itself has to be in range. -/
theorem turn_yields (hfirst : a.Reaches b) (hsecond : b.Reaches c) :
    Yields b.InRange
      (fun commands => ∃ turn, commands = turn.commands ∧ TurnsAt radius (a, b, c) turn)
      (if Scalar.lt (Number.double (distance a b)) (radius * .int 2) ||
          Scalar.lt (Number.double (distance b c)) (radius * .int 2) then
        return [.line (← written b)]
      else do
        let start ← before b (b.x - a.x) (b.y - a.y) (.double (distance a b)) radius
        let finish ← along b (c.x - b.x) (c.y - b.y) (.double (distance b c)) radius
        return [.line (← written start), .curve (← written b) (← written finish)]) := by
  obtain ⟨-, hdx₁, hdy₁⟩ := reaches_iff.mp hfirst
  obtain ⟨-, hdx₂, hdy₂⟩ := reaches_iff.mp hsecond
  split
  · next hshort =>
    have hshort : ¬ (IsLong radius a b ∧ IsLong radius b c) := by
      rintro ⟨hlong₁, hlong₂⟩
      exact absurd hshort (Bool.eq_false_iff.mp (Bool.or_eq_false_iff.mpr ⟨hlong₁, hlong₂⟩))
    refine (written_yields b).map ?_
    rintro _ rfl
    exact ⟨.sharp _, rfl, rfl, iff_of_false id hshort⟩
  · next hlong =>
    obtain ⟨hlong₁, hlong₂⟩ : IsLong radius a b ∧ IsLong radius b c :=
      Bool.or_eq_false_iff.mp (Bool.eq_false_iff.mpr hlong)
    have hstart := before_yields (p := b) hdx₁ hdy₁ (hlong₁.isZero_eq hpos) hrange
    have hfinish := along_yields (p := b) hdx₂ hdy₂ (hlong₂.isZero_eq hpos) hrange
    refine Yields.congr (p := b.InRange ∧ b.InRange ∧ b.InRange) (hstart.bind
      fun start _ hstart => hfinish.bind fun finish _ hfinish => ?_) (by simp)
    rw [written_of_inRange hstart.inRange, written_of_inRange hfinish.inRange]
    refine (written_yields b).map ?_
    rintro _ rfl
    exact ⟨.round start _ finish, rfl, rfl, iff_of_true trivial ⟨hlong₁, hlong₂⟩⟩

/-- A corner is taken in one turn when it is in range and so are the vectors from and to its
neighbours. -/
theorem corner_yields (a b c : Point Number) :
    Yields (b.InRange ∧ a.Reaches b ∧ b.Reaches c)
      (fun commands => ∃ turn, commands = turn.commands ∧ TurnsAt radius (a, b, c) turn)
      (corner radius a b c) := by
  have hneeded : Scalar.mul radius (Scalar.whole 2) = .ok (radius * .int 2) :=
    Number.combine_eq _ hrange Number.within_two.inRange
  have hsteps : Yields (b.x.meets a.x = true ∧ b.y.meets a.y = true ∧ c.x.meets b.x = true ∧
      c.y.meets b.y = true ∧ ((b.x - a.x).inRange = true ∧ (b.y - a.y).inRange = true) ∧
      ((c.x - b.x).inRange = true ∧ (c.y - b.y).inRange = true) ∧ b.InRange)
      (fun commands => ∃ turn, commands = turn.commands ∧ TurnsAt radius (a, b, c) turn)
      (corner radius a b c) := by
    unfold corner
    refine (sub_yields b.x a.x).bind_eq fun hx₁ => ?_
    refine (sub_yields b.y a.y).bind_eq fun hy₁ => ?_
    refine (sub_yields c.x b.x).bind_eq fun hx₂ => ?_
    refine (sub_yields c.y b.y).bind_eq fun hy₂ => ?_
    refine (length_yields _ _).bind_eq fun hfirst => ?_
    refine (length_yields _ _).bind_eq fun hsecond => ?_
    rw [hneeded]
    exact turn_yields hpos hrange (reaches_iff.mpr ⟨⟨hx₁, hy₁⟩, hfirst⟩)
      (reaches_iff.mpr ⟨⟨hx₂, hy₂⟩, hsecond⟩)
  refine hsteps.congr ?_
  rw [reaches_iff, reaches_iff]
  tauto

/-- From the second point on, a path takes the corners in turns and ends at the last point. -/
theorem rest_yields {previous : Point Number} {points : List (Point Number)}
    (hpoints : points ≠ []) :
    Yields ((∀ p ∈ points, p.InRange) ∧
        (2 ≤ points.length → (previous :: points).IsChain Point.Reaches))
      (FollowsFrom radius previous points) (rest radius previous points) := by
  induction points generalizing previous with
  | nil => exact absurd rfl hpoints
  | cons point points ih =>
      cases points with
      | nil =>
          refine ((written_yields point).map ?_).congr (by simp)
          rintro _ rfl
          exact ⟨[], _, rfl, rfl, .nil⟩
      | cons next points =>
          have hcorner := corner_yields hpos hrange previous point next
          have hrest := @ih point (List.cons_ne_nil next points)
          refine (hcorner.bind fun here _ hhere => hrest.map fun more hmore => ?_).congr ?_
          · obtain ⟨turn, rfl, hturn⟩ := hhere
            obtain ⟨turns, last, hlast, rfl, hturns⟩ := hmore
            refine ⟨turn :: turns, last, hlast, ?_, .cons hturn hturns⟩
            rw [List.flatMap_cons, List.append_assoc]
          · -- The next corner needs the way to the next point as well, if there is such a corner.
            have htwo : 2 ≤ (point :: next :: points).length := by simp
            have hlast : ¬ 2 ≤ (next :: points).length →
                (next :: points).IsChain Point.Reaches := by
              cases points with
              | nil => exact fun _ => .singleton next
              | cons last points => exact fun h => absurd (by simp) h
            rw [List.forall_mem_cons (a := point), forall_prop_of_true htwo]
            simp only [List.isChain_cons_cons]
            tauto

/-- The numbers that the calculation of a path meets are in range: its coordinates and, if it has
corners, the components of the vectors between neighbouring points. -/
structure Joined (points : List (Point Number)) : Prop where
  inRange : ∀ p ∈ points, p.InRange
  vectors : 3 ≤ points.length → points.IsChain Point.Reaches

instance (points : List (Point Number)) : Decidable (Joined points) :=
  decidable_of_iff ((∀ p ∈ points, p.InRange) ∧
    (3 ≤ points.length → points.IsChain Point.Reaches))
    ⟨fun h => ⟨h.1, h.2⟩, fun h => ⟨h.inRange, h.vectors⟩⟩

theorem roundedPath_yields {points : List (Point Number)} (hpoints : points ≠ []) :
    Yields (Joined points) (Follows radius points) (roundedPath radius points) := by
  match points, hpoints with
  | [only], _ =>
      refine ((written_yields only).map ?_).congr ?_
      · rintro _ rfl
        exact ⟨_, [], _, rfl, rfl, rfl, .nil⟩
      · exact ⟨fun h => ⟨List.forall_mem_singleton.mpr h, nofun⟩,
          fun h => h.inRange only List.mem_cons_self⟩
  | first :: second :: points, _ =>
      have hrest := (rest_yields hpos hrange (List.cons_ne_nil second points)).map
        fun commands (h : FollowsFrom radius first (second :: points) commands) => h.follows
      refine ((written_yields first).bind_eq fun _ => hrest).congr ⟨?_, fun h => ?_⟩
      · rintro ⟨hfirst, hpoints, hvectors⟩
        exact ⟨List.forall_mem_cons.mpr ⟨hfirst, hpoints⟩,
          fun h => hvectors (Nat.le_of_succ_le_succ h)⟩
      · obtain ⟨hfirst, hpoints⟩ := List.forall_mem_cons.mp h.inRange
        exact ⟨hfirst, hpoints, fun hcorners => h.vectors (Nat.succ_le_succ hcorners)⟩

end

/-- The text is path data through the points: nothing where there is no point, and otherwise the
words of a command to the first point, of the turns in order, and of a line to the last point. -/
inductive Spells (radius : Number) : List (Point Number) → String → Prop where
  | nothing : Spells radius [] ""
  | through {points : List (Point Number)} {text : String} {words : List String}
      {first last : Point Number} {turns : List (Turn Number)}
      (split : text.toList.splitOn ' ' = words.map String.toList)
      (whole : ∀ word ∈ words, word ≠ "")
      (commands : words =
        "M" :: pointWords first ++ turns.flatMap Turn.words ++ "L" :: pointWords last)
      (start : points.head? = some first) (finish : points.getLast? = some last)
      (turns : List.Forall₂ (TurnsAt radius) (corners points) turns) : Spells radius points text

theorem Follows.spells {points : List (Point Number)} {commands : List (Command Number)}
    (h : Follows radius points commands) : Spells radius points (pathText commands) := by
  obtain ⟨first, turns, last, hfirst, hlast, rfl, hturns⟩ := h
  refine .through (splitOn_pathText (List.cons_ne_nil _ _)) ?_ ?_ hfirst hlast hturns
  · exact List.forall_mem_flatMap.mpr fun command _ => ne_empty_of_mem_words command
  · rw [List.flatMap_cons, List.flatMap_append, List.flatMap_assoc]
    simp only [Turn.words_commands, List.flatMap_singleton]
    rfl

/-- Points of doubles are joined, also where a difference is beyond every double: it is infinite
then. -/
theorem joined_of_isDouble {points : List (Point Number)} (h : ∀ p ∈ points, p.IsDouble) :
    Joined points := by
  have reaches : ∀ x y : Number, x.IsDouble → y.IsDouble → x.reaches y = true := by
    rintro _ _ ⟨x, rfl⟩ ⟨y, rfl⟩
    rfl
  refine ⟨fun p hp => (h p hp).inRange, fun _ => List.Pairwise.isChain ?_⟩
  exact List.pairwise_of_forall_mem_list fun p hp q hq =>
    ⟨reaches _ _ (h p hp).x (h q hq).x, reaches _ _ (h p hp).y (h q hq).y⟩

/-- With integers a difference can be out of range where its ends are not. -/
example : let far : Int := 15 * 10 ^ 307
    let points : List (Point Number) := [⟨.int far, 0⟩, ⟨.int (-far), 0⟩, ⟨0, 0⟩]
    (∀ p ∈ points, p.InRange) ∧ ¬ Joined points := by decide +kernel

end Flow

end Wireframe

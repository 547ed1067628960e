import Wireframe.Proofs.Flow.Exact
import Wireframe.Proofs.Flow.Ranges
import Wireframe.Settings.Basic

/-! # When a route divides by zero

Next to a segment without length a corner has no direction to follow. With a positive radius such a
corner is never rounded; with radius zero every corner is, so a path fails exactly when two of its
neighbouring points stand at one place. Nothing else can go wrong with coordinates of moderate size.
-/

namespace Wireframe

structure Point.Within (bound : Nat) (p : Point Number) : Prop where
  x : p.x.Within bound
  y : p.y.Within bound

instance (bound : Nat) (p : Point Number) : Decidable (p.Within bound) :=
  decidable_of_iff (p.x.Within bound ∧ p.y.Within bound)
    ⟨fun h => ⟨h.1, h.2⟩, fun h => ⟨h.x, h.y⟩⟩

theorem Point.Within.mono {p : Point Number} {m n : Nat} (h : p.Within m) (hmn : m ≤ n) :
    p.Within n :=
  ⟨h.x.mono hmn, h.y.mono hmn⟩

theorem Point.Within.inRange {p : Point Number} (h : p.Within (2 ^ 54)) : p.InRange :=
  ⟨h.x.inRange, h.y.inRange⟩

structure Rect.Within (bound : Nat) (r : Rect Number) : Prop where
  x : r.x.Within bound
  y : r.y.Within bound
  width : r.width.Within bound
  height : r.height.Within bound

instance (bound : Nat) (r : Rect Number) : Decidable (r.Within bound) :=
  decidable_of_iff (r.x.Within bound ∧ r.y.Within bound ∧ r.width.Within bound ∧
    r.height.Within bound) ⟨fun h => ⟨h.1, h.2.1, h.2.2.1, h.2.2.2⟩,
      fun h => ⟨h.x, h.y, h.width, h.height⟩⟩

/-- Two points stand at one place: their coordinates have equal finite values. -/
def Point.Coincides (p q : Point Number) : Prop :=
  (∃ x, p.x.toRat? = some x ∧ q.x.toRat? = some x) ∧ ∃ y, p.y.toRat? = some y ∧ q.y.toRat? = some y

namespace Flow

/-- A radius that is not below zero and has a double near it. -/
structure Admissible (radius : Number) : Prop where
  nonneg : radius.isZero = true ∨ (Number.int 0).lt radius = true
  inRange : radius.inRange = true

/-- No two neighbouring points stand at one place. -/
def Advances (points : List (Point Number)) : Prop :=
  points.IsChain fun p q => ¬ p.Coincides q

/-- The calculation has a result exactly when `p` holds, and divides by zero otherwise. -/
def OkIff {α : Type} (p : Prop) (result : Calculation α) : Prop :=
  (p → ∃ a, result = .ok a) ∧ (¬ p → result = .error .divisionByZero)

section

variable {α β : Type} {p q : Prop} {x : Calculation α} {f : α → Calculation β}

theorem OkIff.congr (h : OkIff p x) (hpq : p ↔ q) : OkIff q x := by rwa [← hpq]

theorem OkIff.of_ok {a : α} (hp : p) (hx : x = .ok a) : OkIff p x :=
  ⟨fun _ => ⟨a, hx⟩, fun h => absurd hp h⟩

theorem OkIff.of_error (hp : ¬ p) : OkIff p (.error .divisionByZero : Calculation α) :=
  ⟨fun h => absurd h hp, fun _ => rfl⟩

theorem OkIff.bind (hx : OkIff p x) (hf : ∀ a, x = .ok a → OkIff q (f a)) :
    OkIff (p ∧ q) (x >>= f) := by
  by_cases hp : p
  · obtain ⟨a, rfl⟩ := hx.1 hp
    exact (hf a rfl).congr (and_iff_right hp).symm
  · rw [hx.2 hp]
    exact .of_error fun h => hp h.1

theorem OkIff.map (hx : OkIff p x) (g : α → β) : OkIff p (x >>= fun a => pure (g a)) :=
  (hx.bind fun _ _ => OkIff.of_ok trivial rfl).congr (iff_of_eq (and_true p))

end

/-! ## Corners -/

variable {radius : Number} {z : Double} {a b c : Point Number} {dx dy : Number}

theorem along_zero (hdx : dx.Within (2 ^ 54)) (hz : z.isZero = true) :
    along b dx dy (.double z) radius = .error .divisionByZero := by
  unfold along
  rw [advance_zero hdx.inRange hz]
  rfl

theorem before_zero (hdx : dx.Within (2 ^ 54)) (hz : z.isZero = true) :
    before b dx dy (.double z) radius = .error .divisionByZero := by
  unfold before
  rw [advance_zero hdx.inRange hz]
  rfl

theorem along_ok (hb : b.Within (2 ^ 54)) (hdx : dx.Within (2 ^ 54)) (hdy : dy.Within (2 ^ 54))
    (hz : z.isZero = false) (hradius : radius.inRange = true) :
    ∃ p, along b dx dy (.double z) radius = .ok p ∧ p.Within (2 ^ 54) := by
  obtain ⟨p, hp, hdouble⟩ := (along_yields hdx.inRange hdy.inRange hz hradius).ok hb.inRange
  exact ⟨p, hp, hdouble.x.within, hdouble.y.within⟩

theorem before_ok (hb : b.Within (2 ^ 54)) (hdx : dx.Within (2 ^ 54)) (hdy : dy.Within (2 ^ 54))
    (hz : z.isZero = false) (hradius : radius.inRange = true) :
    ∃ p, before b dx dy (.double z) radius = .ok p ∧ p.Within (2 ^ 54) := by
  obtain ⟨p, hp, hdouble⟩ := (before_yields hdx.inRange hdy.inRange hz hradius).ok hb.inRange
  exact ⟨p, hp, hdouble.x.within, hdouble.y.within⟩

def distance (a b : Point Number) : Double :=
  Double.hypot (b.x - a.x).toDouble (b.y - a.y).toDouble

theorem distance_isZero (ha : a.Within (2 ^ 52)) (hb : b.Within (2 ^ 52)) :
    (distance a b).isZero = true ↔ a.Coincides b := by
  unfold distance
  rw [Double.hypot_isZero, Number.toDouble_isZero, Number.toDouble_isZero, Bool.and_eq_true,
    Number.sub_isZero_iff hb.x ha.x, Number.sub_isZero_iff hb.y ha.y]
  exact and_congr (exists_congr fun _ => and_comm) (exists_congr fun _ => and_comm)

/-- Where a corner is rounded, both segments that meet there need a length. -/
theorem corner_okIff_lengths (ha : a.Within (2 ^ 52)) (hb : b.Within (2 ^ 52))
    (hc : c.Within (2 ^ 52)) (hradius : radius.inRange = true) :
    OkIff ((Number.double (distance a b)).lt (radius * .int 2) = true ∨
        (Number.double (distance b c)).lt (radius * .int 2) = true ∨
        (distance a b).isZero = false ∧ (distance b c).isZero = false) (corner radius a b c) := by
  have ha' := ha.mono (show 2 ^ 52 ≤ 2 ^ 54 by norm_num)
  have hb' := hb.mono (show 2 ^ 52 ≤ 2 ^ 54 by norm_num)
  have hc' := hc.mono (show 2 ^ 52 ≤ 2 ^ 54 by norm_num)
  have hdx₁ := (hb.x.sub ha.x).mono (show _ ≤ 2 ^ 54 by norm_num)
  have hdy₁ := (hb.y.sub ha.y).mono (show _ ≤ 2 ^ 54 by norm_num)
  have hdx₂ := (hc.x.sub hb.x).mono (show _ ≤ 2 ^ 54 by norm_num)
  have hdy₂ := (hc.y.sub hb.y).mono (show _ ≤ 2 ^ 54 by norm_num)
  have hlength₁ : Scalar.length (b.x - a.x) (b.y - a.y) = .ok (.double (distance a b)) :=
    Number.scalar_length hdx₁ hdy₁
  have hlength₂ : Scalar.length (c.x - b.x) (c.y - b.y) = .ok (.double (distance b c)) :=
    Number.scalar_length hdx₂ hdy₂
  have hneeded : Scalar.mul radius (Scalar.whole 2) = .ok (radius * .int 2) :=
    Number.combine_eq _ hradius Number.within_two.inRange
  unfold corner
  simp only [Number.scalar_sub hb'.x ha'.x, Number.scalar_sub hb'.y ha'.y,
    Number.scalar_sub hc'.x hb'.x, Number.scalar_sub hc'.y hb'.y, hlength₁, hlength₂, hneeded,
    written_of_inRange hb'.inRange, Except.ok_bind]
  split
  · next hsharp =>
    have hsharp' := (Bool.or_eq_true _ _).mp hsharp
    exact .of_ok (hsharp'.imp_right .inl) rfl
  · next hround =>
    have hround' := not_or.mp (mt (Bool.or_eq_true _ _).mpr hround)
    have hneed : ∀ q : Prop, (Scalar.lt (Number.double (distance a b)) (radius * .int 2) = true ∨
        Scalar.lt (Number.double (distance b c)) (radius * .int 2) = true ∨ q) ↔ q := fun q => by
      rw [or_iff_right hround'.1, or_iff_right hround'.2]
    refine OkIff.congr ?_ (hneed _).symm
    cases hzero₁ : (distance a b).isZero with
    | true =>
        rw [before_zero hdx₁ hzero₁]
        exact .of_error fun h => Bool.noConfusion h.1
    | false =>
        obtain ⟨start, hstart, hwithin⟩ := before_ok hb' hdx₁ hdy₁ hzero₁ hradius
        rw [hstart, Except.ok_bind]
        cases hzero₂ : (distance b c).isZero with
        | true =>
            rw [along_zero hdx₂ hzero₂]
            exact .of_error fun h => Bool.noConfusion h.2
        | false =>
            obtain ⟨finish, hfinish, hwithin'⟩ := along_ok hb' hdx₂ hdy₂ hzero₂ hradius
            rw [hfinish, Except.ok_bind, written_of_inRange hwithin.inRange,
              written_of_inRange hwithin'.inRange]
            exact .of_ok ⟨rfl, rfl⟩ rfl

/-- A corner divides by zero only with radius zero, where a segment has no length. -/
theorem corner_okIff (ha : a.Within (2 ^ 52)) (hb : b.Within (2 ^ 52)) (hc : c.Within (2 ^ 52))
    (admissible : Admissible radius) :
    OkIff (radius.isZero = true → ¬ a.Coincides b ∧ ¬ b.Coincides c) (corner radius a b c) := by
  refine (corner_okIff_lengths ha hb hc admissible.inRange).congr ?_
  rw [← distance_isZero ha hb, ← distance_isZero hb hc, Bool.not_eq_true, Bool.not_eq_true]
  rcases admissible.nonneg with hzero | hpos
  · -- Nothing is shorter than twice zero, so no corner stays sharp.
    have hnone : ∀ p q : Point Number,
        ¬ (Number.double (distance p q)).lt (radius * .int 2) = true := fun p q =>
      Bool.eq_false_iff.mp (Number.not_lt_of_isZero (Double.hypot_isNegative _ _)
        (Number.mul_two_isZero hzero))
    rw [or_iff_right (hnone a b), or_iff_right (hnone b c), forall_prop_of_true hzero]
  · have hsharp : ∀ p q : Point Number, (distance p q).isZero = true →
        (Number.double (distance p q)).lt (radius * .int 2) = true :=
      fun p q h => Number.lt_of_isZero h (Number.mul_two_pos hpos)
    refine iff_of_true ?_ fun h => absurd h (by simp [Number.isZero_of_pos hpos])
    cases h₁ : (distance a b).isZero with
    | true => exact .inl (hsharp a b h₁)
    | false =>
        cases h₂ : (distance b c).isZero with
        | true => exact .inr (.inl (hsharp b c h₂))
        | false => exact .inr (.inr ⟨rfl, rfl⟩)

/-! ## Paths -/

variable {first : Point Number} {points : List (Point Number)}

theorem rest_okIff (admissible : Admissible radius)
    (hpoints : ∀ p ∈ first :: points, p.Within (2 ^ 52)) :
    OkIff (radius.isZero = true → 2 ≤ points.length → Advances (first :: points))
      (rest radius first points) := by
  induction points generalizing first with
  | nil => exact .of_ok (fun _ h => absurd h (by simp)) rfl
  | cons point points ih =>
      rw [List.forall_mem_cons] at hpoints
      have hpoint := hpoints.2 point List.mem_cons_self
      cases points with
      | nil =>
          refine .of_ok (a := [.line point]) (fun _ h => absurd h (by simp)) ?_
          rw [rest, written_of_inRange (hpoint.mono (by norm_num)).inRange]
          rfl
      | cons next points =>
          have hcorner := corner_okIff hpoints.1 hpoint
            (hpoints.2 next (List.mem_cons_of_mem _ List.mem_cons_self)) admissible
          refine (hcorner.bind fun here _ => (ih hpoints.2).map fun more => here ++ more).congr ?_
          unfold Advances
          cases points with
          | nil => simp
          | cons last points =>
              simp only [List.isChain_cons_cons, List.length_cons, Nat.le_add_left, forall_const]
              constructor
              · rintro ⟨here, more⟩ hzero
                exact ⟨(here hzero).1, more hzero⟩
              · intro h
                exact ⟨fun hzero => ⟨(h hzero).1, (h hzero).2.1⟩, fun hzero => (h hzero).2⟩

/-- A path through points has its commands unless, with radius zero, it has a corner and two
neighbouring points stand at one place. -/
theorem roundedPath_okIff (admissible : Admissible radius)
    (hpoints : ∀ p ∈ points, p.Within (2 ^ 52)) :
    OkIff (radius.isZero = true → 3 ≤ points.length → Advances points)
      (roundedPath radius points) := by
  cases points with
  | nil => exact .of_ok (fun _ h => absurd h (by simp)) rfl
  | cons first points =>
      have hfirst := (hpoints first List.mem_cons_self).mono (show 2 ^ 52 ≤ 2 ^ 54 by norm_num)
      cases points with
      | nil =>
          refine .of_ok (a := [.move first, .line first]) (fun _ h => absurd h (by simp)) ?_
          rw [roundedPath, written_of_inRange hfirst.inRange]
          rfl
      | cons second points =>
          have hrest := (rest_okIff admissible hpoints).map fun more => Command.move first :: more
          rw [roundedPath, written_of_inRange hfirst.inRange, Except.ok_bind]
          · exact hrest.congr (by simp)
          · nofun

/-! ## Edges -/

variable {r source target : Rect Number} {start finish : Point Number}

theorem centerX_ok (hr : r.Within (2 ^ 51)) : ∃ z, r.centerX = .ok (.double z) := by
  obtain ⟨w, hw⟩ := Number.scalar_half (hr.width.mono (by norm_num))
  obtain ⟨z, hz⟩ := Number.add_double r.x w
  refine ⟨z, ?_⟩
  unfold Rect.centerX
  rw [hw, Except.ok_bind, Number.scalar_add (hr.x.mono (by norm_num)) (Number.within_double w), hz]

theorem centerY_ok (hr : r.Within (2 ^ 51)) : ∃ z, r.centerY = .ok (.double z) := by
  obtain ⟨w, hw⟩ := Number.scalar_half (hr.height.mono (by norm_num))
  obtain ⟨z, hz⟩ := Number.add_double r.y w
  refine ⟨z, ?_⟩
  unfold Rect.centerY
  rw [hw, Except.ok_bind, Number.scalar_add (hr.y.mono (by norm_num)) (Number.within_double w), hz]

theorem side_ok (hr : r.Within (2 ^ 51)) (direction : FlowDirection) :
    ∃ p, r.side direction = .ok p ∧ p.Within (2 ^ 52) := by
  obtain ⟨x, hx⟩ := centerX_ok hr
  obtain ⟨y, hy⟩ := centerY_ok hr
  have hright : r.right = .ok (r.x + r.width) :=
    Number.scalar_add (hr.x.mono (by norm_num)) (hr.width.mono (by norm_num))
  have hbottom : r.bottom = .ok (r.y + r.height) :=
    Number.scalar_add (hr.y.mono (by norm_num)) (hr.height.mono (by norm_num))
  cases direction with
  | right =>
      refine ⟨⟨r.x + r.width, .double y⟩, ?_, hr.x.add hr.width, trivial⟩
      rw [Rect.side, hright, hy]
      rfl
  | left =>
      refine ⟨⟨r.x, .double y⟩, ?_, hr.x.mono (by norm_num), trivial⟩
      rw [Rect.side, hy]
      rfl
  | down =>
      refine ⟨⟨.double x, r.y + r.height⟩, ?_, trivial, hr.y.add hr.height⟩
      rw [Rect.side, hx, hbottom]
      rfl
  | up =>
      refine ⟨⟨.double x, r.y⟩, ?_, trivial, hr.y.mono (by norm_num)⟩
      rw [Rect.side, hx]
      rfl

theorem magnitude_ok (z : Double) :
    ∃ x, Scalar.isFarther.magnitude (Number.double z) = .ok x := by
  unfold Scalar.isFarther.magnitude
  split
  · exact ⟨_, Number.combine_int_left _ rfl _⟩
  · exact ⟨_, rfl⟩

theorem direction_ok (hsource : source.Within (2 ^ 51)) (htarget : target.Within (2 ^ 51)) :
    ∃ d, direction source target = .ok d := by
  obtain ⟨sx, hsx⟩ := centerX_ok hsource
  obtain ⟨sy, hsy⟩ := centerY_ok hsource
  obtain ⟨tx, htx⟩ := centerX_ok htarget
  obtain ⟨ty, hty⟩ := centerY_ok htarget
  obtain ⟨u, hu⟩ := magnitude_ok (tx - sx)
  obtain ⟨v, hv⟩ := magnitude_ok (ty - sy)
  have hdx : Scalar.sub (Number.double tx) (.double sx) = .ok (.double (tx - sx)) := rfl
  have hdy : Scalar.sub (Number.double ty) (.double sy) = .ok (.double (ty - sy)) := rfl
  unfold direction Scalar.isFarther
  simp only [htx, hsx, hty, hsy, hdx, hdy, hu, hv, Except.ok_bind, pure, Except.pure]
  split
  all_goals exact ⟨_, rfl⟩

theorem midpoint_ok {x y : Number} (hx : x.Within (2 ^ 52)) (hy : y.Within (2 ^ 52)) :
    ∃ z, midpoint x y = .ok (.double z) := by
  unfold midpoint
  rw [Number.scalar_add (hx.mono (by norm_num)) (hy.mono (by norm_num)), Except.ok_bind]
  exact Number.scalar_half ((hx.add hy).mono (by norm_num))

theorem bends_ok (hstart : start.Within (2 ^ 52)) (hfinish : finish.Within (2 ^ 52))
    (direction : FlowDirection) :
    ∃ points, bends start finish direction = .ok points ∧ points.length = 4 ∧
      ∀ p ∈ points, p.Within (2 ^ 52) := by
  unfold bends
  split
  · obtain ⟨y, hy⟩ := midpoint_ok hstart.y hfinish.y
    rw [hy]
    refine ⟨_, rfl, rfl, ?_⟩
    simp only [List.forall_mem_cons]
    exact ⟨hstart, ⟨hstart.x, trivial⟩, ⟨hfinish.x, trivial⟩, hfinish, List.forall_mem_nil _⟩
  · obtain ⟨x, hx⟩ := midpoint_ok hstart.x hfinish.x
    rw [hx]
    refine ⟨_, rfl, rfl, ?_⟩
    simp only [List.forall_mem_cons]
    exact ⟨hstart, ⟨trivial, hstart.y⟩, ⟨trivial, hfinish.y⟩, hfinish, List.forall_mem_nil _⟩

theorem polyline_ok (hsource : source.Within (2 ^ 51)) (htarget : target.Within (2 ^ 51)) :
    ∃ ends points, anchors source target = .ok ends ∧
      bends ends.start ends.finish ends.direction = .ok points ∧ ends.start.Within (2 ^ 52) ∧
      ends.finish.Within (2 ^ 52) ∧ points.length = 4 ∧ ∀ p ∈ points, p.Within (2 ^ 52) := by
  obtain ⟨direction, hdirection⟩ := direction_ok hsource htarget
  obtain ⟨start, hstart, hwithin⟩ := side_ok hsource direction
  obtain ⟨finish, hfinish, hwithin'⟩ := side_ok htarget direction.opposite
  obtain ⟨points, hpoints, hlength, hall⟩ := bends_ok hwithin hwithin' direction
  refine ⟨⟨start, finish, direction⟩, points, ?_, hpoints, hwithin, hwithin', hlength, hall⟩
  simp only [anchors, hdirection, hstart, hfinish, Except.ok_bind]
  rfl

theorem placeLabel_ok {text : String} (hstart : start.Within (2 ^ 52))
    (hfinish : finish.Within (2 ^ 52)) (htext : (Number.int text.length).inRange = true)
    (direction : FlowDirection) (charWidth : Number) :
    ∃ label, placeLabel text start finish direction charWidth = .ok label := by
  have hplace : ∀ n : Int, (Number.int n).inRange = true → ∀ x : Number,
      Scalar.add x (Scalar.whole n) = .ok (x + .int n) ∧
        Scalar.sub x (Scalar.whole n) = .ok (x - .int n) := fun n hn x =>
    ⟨Number.combine_int_right _ hn x, Number.combine_int_right _ hn x⟩
  obtain ⟨x, hx⟩ := midpoint_ok hstart.x hfinish.x
  obtain ⟨y, hy⟩ := midpoint_ok hstart.y hfinish.y
  have hwidth : Scalar.mul (Scalar.whole text.length) charWidth =
      .ok (.int text.length * charWidth) := Number.combine_int_left _ htext charWidth
  unfold placeLabel
  cases direction.isVertical
  all_goals simp only [hx, hy, hwidth, (hplace 4 rfl _).2, (hplace 14 rfl _).2, (hplace 8 rfl _).1,
    (hplace 10 rfl _).1, (hplace 10 rfl _).2, Except.ok_bind]
  all_goals exact ⟨_, rfl⟩

theorem label_ok {label : Option String} (hstart : start.Within (2 ^ 52))
    (hfinish : finish.Within (2 ^ 52))
    (htext : ∀ text ∈ label, (Number.int text.length).inRange = true) (direction : FlowDirection)
    (charWidth : Number) :
    ∃ placed, (nonempty? label).mapM (fun text =>
      placeLabel text start finish direction charWidth) = .ok placed := by
  cases hlabel : nonempty? label with
  | none => exact ⟨none, rfl⟩
  | some text =>
      obtain ⟨placed, hplaced⟩ := placeLabel_ok hstart hfinish
        (htext text (Option.filter_eq_some_iff.mp hlabel).1) direction charWidth
      refine ⟨some placed, ?_⟩
      rw [Option.mapM_some, hplaced]
      rfl

/-- An edge becomes a path unless, with radius zero, two neighbouring points of it stand at one
place. -/
theorem path_okIff {style : Style Number} {edge : FlowEdge} (admissible : Admissible style.radius)
    (hsource : source.Within (2 ^ 51)) (htarget : target.Within (2 ^ 51))
    (htext : ∀ text ∈ edge.label, (Number.int text.length).inRange = true) :
    OkIff (style.radius.isZero = true →
      ∀ points, polyline source target = .ok points → Advances points)
      (path style edge source target) := by
  obtain ⟨ends, points, hends, hpoints, hstart, hfinish, hlength, hall⟩ :=
    polyline_ok hsource htarget
  obtain ⟨placed, hplaced⟩ := label_ok hstart hfinish htext ends.direction style.charWidth
  have hpolyline : polyline source target = .ok points := by
    rw [polyline, hends, Except.ok_bind, hpoints]
  unfold path
  rw [hends, Except.ok_bind, hpoints, Except.ok_bind, hplaced, Except.ok_bind]
  refine ((roundedPath_okIff admissible hall).map _).congr ?_
  rw [hpolyline, hlength]
  simp

theorem rect?_mem {rects : List (Rect Number)} {id : Option String} (h : rect? rects id = some r) :
    r ∈ rects := by
  obtain ⟨id, -, hfind⟩ := Option.bind_eq_some_iff.mp h
  exact List.mem_reverse.mp (List.mem_of_find?_eq_some hfind)

def AllAdvance (rects : List (Rect Number)) (edges : List FlowEdge) : Prop :=
  ∀ edge ∈ edges, ∀ source target points, rect? rects edge.source = some source →
    rect? rects edge.target = some target → polyline source target = .ok points → Advances points

theorem allAdvance_cons {rects : List (Rect Number)} {edge : FlowEdge} {edges : List FlowEdge}
    (hsource : rect? rects edge.source = some source)
    (htarget : rect? rects edge.target = some target) :
    AllAdvance rects (edge :: edges) ↔
      (∀ points, polyline source target = .ok points → Advances points) ∧
        AllAdvance rects edges := by
  unfold AllAdvance
  rw [List.forall_mem_cons]
  refine and_congr_left fun _ => ⟨fun h points => h source target points hsource htarget, ?_⟩
  intro h s t points hs ht
  rw [hsource] at hs
  rw [htarget] at ht
  cases hs
  cases ht
  exact h points

theorem allAdvance_cons_of_missing {rects : List (Rect Number)} {edge : FlowEdge}
    {edges : List FlowEdge} (hmissing : ∀ source target, rect? rects edge.source = some source →
      rect? rects edge.target = some target → False) :
    AllAdvance rects (edge :: edges) ↔ AllAdvance rects edges := by
  unfold AllAdvance
  rw [List.forall_mem_cons]
  exact and_iff_right fun s t _ hs ht => (hmissing s t hs ht).elim

theorem route_okIff {style : Style Number} {rects : List (Rect Number)} {edges : List FlowEdge}
    (admissible : Admissible style.radius) (hrects : ∀ r ∈ rects, r.Within (2 ^ 51))
    (htext : ∀ edge ∈ edges, ∀ text ∈ edge.label, (Number.int text.length).inRange = true) :
    OkIff (style.radius.isZero = true → AllAdvance rects edges) (route style rects edges) := by
  induction edges with
  | nil => exact .of_ok (fun _ => List.forall_mem_nil _) rfl
  | cons edge edges ih =>
      rw [List.forall_mem_cons] at htext
      unfold route
      split
      · next source target hsource htarget =>
        have hpath := path_okIff admissible (hrects source (rect?_mem hsource))
          (hrects target (rect?_mem htarget)) htext.1
        refine (hpath.bind fun here _ => (ih htext.2).map fun more => here :: more).congr ?_
        rw [allAdvance_cons hsource htarget, ← imp_and]
      · next hmissing =>
        exact (ih htext.2).congr (imp_congr_right fun _ =>
          (allAdvance_cons_of_missing fun s t hs ht => hmissing s t hs ht).symm)

/-- Paths and routes have a result for every positive radius, and with radius zero exactly when no
two neighbouring points of a path with corners stand at one place. Otherwise a division by zero is
all that happens. -/
theorem routing_okIff {radius : Number} (admissible : Admissible radius) :
    (∀ points : List (Point Number), (∀ p ∈ points, p.Within (2 ^ 52)) →
      OkIff (radius.isZero = true → 3 ≤ points.length → Advances points)
        (roundedPath radius points)) ∧
    ∀ (rects : List (Rect Number)) (edges : List FlowEdge) (charWidth : Number),
      (∀ r ∈ rects, r.Within (2 ^ 51)) →
      (∀ edge ∈ edges, ∀ text ∈ edge.label, (Number.int text.length).inRange = true) →
      OkIff (radius.isZero = true → AllAdvance rects edges)
        (route ⟨radius, charWidth⟩ rects edges) :=
  ⟨fun _ hpoints => roundedPath_okIff admissible hpoints,
    fun _ _ charWidth hrects htext =>
      @route_okIff ⟨radius, charWidth⟩ _ _ admissible hrects htext⟩

/-- Two screens level with each other: the two bends of an edge between them are one point. -/
def levelScreens : List (Rect Number) :=
  [⟨"a", .int 0, .int 0, .int 280, .int 600⟩, ⟨"b", .int 400, .int 0, .int 280, .int 600⟩]

def levelEdge : FlowEdge := ⟨some "a", some "b", none, none⟩

/-- Points of a path, the second one twice. -/
def repeatedPoints : List (Point Number) :=
  [⟨.int 0, .int 0⟩, ⟨.int 10, .int 0⟩, ⟨.int 10, .int 0⟩, ⟨.int 20, .int 0⟩]

/-- With a radius of 12 both have their paths. -/
theorem routing_okIff_level :
    (∃ commands, roundedPath (.int 12) repeatedPoints = .ok commands) ∧
      ∃ paths, route ⟨.int 12, .double 7⟩ levelScreens [levelEdge] = .ok paths := by
  have admissible : Admissible (.int 12) := ⟨.inr rfl, rfl⟩
  have hradius : ¬ (Number.int 12).isZero = true := by decide
  obtain ⟨hpaths, hroutes⟩ := routing_okIff admissible
  exact ⟨(hpaths repeatedPoints (by decide)).1 fun h => absurd h hradius,
    (hroutes levelScreens [levelEdge] (.double 7) (by decide) (by simp [levelEdge])).1 fun h =>
      absurd h hradius⟩

/-- With radius zero, which the settings accept, neither has a path. -/
theorem routing_divides_level :
    Settings.nonnegative (.number (.int 0)) = .ok 0 ∧
      roundedPath (.double 0) repeatedPoints = .error .divisionByZero ∧
      route ⟨.double 0, .double 7⟩ levelScreens [levelEdge] = .error .divisionByZero := by
  have haccepted : (Settings.nonnegative (.number (.int 0))).toOption.any (· == 0) = true := by
    decide +kernel
  refine ⟨?_, ?_, ?_⟩
  · cases h : Settings.nonnegative (.number (.int 0)) with
    | error cause => simp [h, Except.toOption] at haccepted
    | ok x =>
        obtain rfl : x = 0 := by simpa [h, Except.toOption] using haccepted
        rfl
  · rw [← Except.error?_eq_some_iff]
    decide +kernel
  · rw [← Except.error?_eq_some_iff]
    decide +kernel

end Flow

end Wireframe

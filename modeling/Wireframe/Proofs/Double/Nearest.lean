import Mathlib.Algebra.Order.Ring.Abs
import Wireframe.Double.Arithmetic
import Wireframe.Proofs.Double.ReadBack

/-! # What rounding cannot lose

A magnitude of at least one unit, `2 ^ -1074`, is never rounded to zero, and one below `2 ^ 1023`
never to an infinity. The finite doubles are whole numbers of units, so two of them that differ
have a difference other than zero (gradual underflow), and only the vector with two zeros has
length zero.
-/

namespace Wireframe

namespace Double

variable {negative : Bool} {n d m : Nat} {exponent : Int} {x y : Double} {p q : Rat}

theorem natPow_mul_zpow (k : Nat) (exponent : Int) :
    ((2 ^ k : Nat) : Rat) * 2 ^ exponent = 2 ^ ((k : Int) + exponent) := by
  rw [Nat.cast_pow, Nat.cast_ofNat, ← zpow_natCast, ← zpow_add₀ (by norm_num)]

/-- The mantissa that a magnitude is rounded to at its own exponent. -/
theorem unitsNearest_bounds (hn : 0 < n) (hd : 0 < d)
    (hexponent : exponent = max (-1074) (floorLog2 n d - 52)) :
    unitsNearest n d exponent ≤ 2 ^ 53 ∧
      (2 ^ 52 ≤ unitsNearest n d exponent ∨ exponent = -1074) := by
  obtain ⟨hlow, hhigh⟩ := floorLog2_spec hn hd
  constructor
  · refine unitsNearest_le hd (hhigh.le.trans ?_)
    rw [natPow_mul_zpow]
    exact zpow_le_zpow_right₀ (by norm_num) (by omega)
  · by_cases hleast : exponent = -1074
    · exact .inr hleast
    · refine .inl (le_unitsNearest hd (le_trans ?_ hlow))
      rw [natPow_mul_zpow]
      exact zpow_le_zpow_right₀ (by norm_num) (by omega)

theorem unitsNearest_pos (hd : 0 < d) (h : (2 : Rat) ^ (-1074 : Int) ≤ (n : Rat) / d) :
    0 < n ∧ 0 < unitsNearest n d (max (-1074) (floorLog2 n d - 52)) := by
  have hn : 0 < n := by
    rcases Nat.eq_zero_or_pos n with rfl | hn
    · rw [Nat.cast_zero, zero_div] at h
      exact absurd h (not_le.mpr (by positivity))
    · exact hn
  refine ⟨hn, ?_⟩
  rcases (unitsNearest_bounds hn hd rfl).2 with hnormal | hleast
  · exact lt_of_lt_of_le (by positivity) hnormal
  · rw [hleast]
    exact le_unitsNearest hd (by rwa [Nat.cast_one, one_mul])

/-- A magnitude of at least one unit stays above zero. -/
theorem ofQuotient_eq_pack (hd : 0 < d) (h : (2 : Rat) ^ (-1074 : Int) ≤ (n : Rat) / d) :
    ∃ m exponent, 0 < m ∧ ofQuotient negative n d = pack negative m exponent := by
  obtain ⟨hn, hpos⟩ := unitsNearest_pos hd h
  unfold ofQuotient
  rw [if_neg hn.ne']
  dsimp only
  split
  · exact ⟨_, _, by decide, rfl⟩
  · exact ⟨_, _, hpos, rfl⟩

theorem ofQuotient_isFinite (hd : 0 < d) (h : (n : Rat) / d < 2 ^ (1023 : Int)) :
    (ofQuotient negative n d).isFinite = true := by
  unfold ofQuotient
  by_cases hn : n = 0
  · rw [if_pos hn]
    rfl
  have hn' : 0 < n := Nat.pos_of_ne_zero hn
  have hfloor : floorLog2 n d < 1023 :=
    (zpow_lt_zpow_iff_right₀ (by norm_num)).mp (lt_of_le_of_lt (floorLog2_spec hn' hd).1 h)
  have hbounds := unitsNearest_bounds hn' hd rfl
  rw [if_neg hn]
  dsimp only
  generalize hexponent : max (-1074) (floorLog2 n d - 52) = exponent at hbounds ⊢
  split
  · rw [pack_of_stored ⟨by decide, by omega, by omega, .inl (by decide)⟩]
    rfl
  · next hcarry =>
    have hlt : unitsNearest n d exponent < Nat.pow 2 53 := Nat.lt_of_le_of_ne hbounds.1 hcarry
    rw [pack_of_stored ⟨hlt, by omega, by omega, hbounds.2⟩]
    rfl

/-! ## Zeros -/

theorem natAbs_num_div_den (q : Rat) : (q.num.natAbs : Rat) / q.den = |q| := by
  have hden : (0 : Rat) < q.den := by exact_mod_cast q.den_pos
  rw [Nat.cast_natAbs, Int.cast_abs, ← abs_of_pos hden, ← abs_div, Rat.num_div_den]

theorem ofQuotient_isZero (hd : 0 < d) (h : (2 : Rat) ^ (-1074 : Int) ≤ (n : Rat) / d) :
    (ofQuotient negative n d).isZero = false := by
  obtain ⟨m, exponent, hm, hpack⟩ := ofQuotient_eq_pack hd h
  rw [hpack]
  unfold pack
  split
  · exact beq_false_of_ne hm.ne'
  · rfl

theorem ofRat_isZero (h : (2 : Rat) ^ (-1074 : Int) ≤ |q|) (negative : Bool) :
    (ofRat q negative).isZero = false :=
  ofQuotient_isZero q.den_pos (le_of_le_of_eq h (natAbs_num_div_den q).symm)

theorem toRat?_neg (x : Double) : (-x).toRat? = x.toRat?.map fun q => -q := by
  cases x with
  | finite negative mantissa exponent stored =>
      cases negative with
      | false => rfl
      | true => exact congrArg some (Rat.neg_neg _).symm
  | infinite negative => rfl
  | nan => rfl

theorem exists_units (h : x.toRat? = some q) : ∃ k : Int, q = k * 2 ^ (-1074 : Int) := by
  cases x with
  | finite negative mantissa exponent stored =>
      have hleast : -1074 ≤ exponent := stored.2.1
      obtain ⟨k, hk⟩ := Int.eq_ofNat_of_zero_le (a := exponent + 1074) (by omega)
      have hunits : (mantissa : Rat) * twoPow exponent =
          ((mantissa * 2 ^ k : Nat) : Int) * 2 ^ (-1074 : Int) := by
        rw [Int.cast_natCast, twoPow_eq_zpow, Nat.cast_mul, mul_assoc, natPow_mul_zpow]
        congr 2
        omega
      cases negative with
      | false => exact ⟨_, (Option.some_inj.mp h).symm.trans hunits⟩
      | true =>
          refine ⟨-((mantissa * 2 ^ k : Nat) : Int), (Option.some_inj.mp h).symm.trans ?_⟩
          rw [if_pos rfl, hunits, Int.cast_neg, neg_mul]
  | infinite negative => cases h
  | nan => cases h

theorem unit_le_abs_of_units {k : Int} (hk : k ≠ 0) :
    (2 : Rat) ^ (-1074 : Int) ≤ |(k : Rat) * 2 ^ (-1074 : Int)| := by
  have hone : (1 : Rat) ≤ |(k : Rat)| := by exact_mod_cast Int.one_le_abs hk
  have hunit : (0 : Rat) < 2 ^ (-1074 : Int) := by positivity
  rw [abs_mul, abs_of_pos hunit]
  exact le_mul_of_one_le_left hunit.le hone

theorem unit_le_abs (hx : x.toRat? = some p) (hp : p ≠ 0) : (2 : Rat) ^ (-1074 : Int) ≤ |p| := by
  obtain ⟨k, rfl⟩ := exists_units hx
  exact unit_le_abs_of_units fun hk => hp (by rw [hk, Int.cast_zero, zero_mul])

/-- The difference of two values, if there is one, is at least one unit. -/
theorem unit_le_abs_sub (hx : x.toRat? = some p) (hy : y.toRat? = some q) (hne : p ≠ q) :
    (2 : Rat) ^ (-1074 : Int) ≤ |p - q| := by
  obtain ⟨k, rfl⟩ := exists_units hx
  obtain ⟨l, rfl⟩ := exists_units hy
  have hkl : k - l ≠ 0 := fun h => hne (by rw [Int.sub_eq_zero.mp h])
  have hunits := unit_le_abs_of_units hkl
  rwa [Int.cast_sub, sub_mul] at hunits

theorem isZero_iff (x : Double) : x.isZero = true ↔ x.toRat? = some 0 := by
  cases x with
  | finite negative mantissa exponent stored =>
      have hpow : twoPow exponent ≠ 0 := by
        rw [twoPow_eq_zpow]
        positivity
      have hzero : (mantissa : Rat) * twoPow exponent = 0 ↔ mantissa = 0 := by
        rw [mul_eq_zero, or_iff_left hpow, Nat.cast_eq_zero]
      have hmantissa : (finite negative mantissa exponent stored).isZero = true ↔ mantissa = 0 :=
        beq_iff_eq
      rw [hmantissa, ← hzero]
      cases negative with
      | false => exact Option.some_inj.symm
      | true => exact (neg_eq_zero.symm).trans Option.some_inj.symm
  | infinite negative => exact iff_of_false nofun nofun
  | nan => exact iff_of_false nofun nofun

theorem add_of_toRat? (hx : x.toRat? = some p) (hy : y.toRat? = some q) :
    x + y = ofRat (p + q) (x.isNegative && y.isNegative) := by
  cases x with
  | finite s m e hm =>
      cases y with
      | finite t n f hn =>
          show add _ _ = _
          rw [add, hx, hy]
          rfl
      | infinite t => cases hy
      | nan => cases hy
  | infinite s => cases hx
  | nan => cases hx

theorem mul_of_toRat? (hx : x.toRat? = some p) (hy : y.toRat? = some q) :
    x * y = ofRat (p * q) (x.isNegative != y.isNegative) := by
  cases x with
  | finite s m e hm =>
      cases y with
      | finite t n f hn =>
          show mul _ _ = _
          rw [mul, hx, hy]
          rfl
      | infinite t => cases hy
      | nan => cases hy
  | infinite s => cases hx
  | nan => cases hx

theorem toRat?_of_isFinite (h : x.isFinite = true) : ∃ q, x.toRat? = some q :=
  Option.isSome_iff_exists.mp ((toRat?_isSome x).trans h)

theorem isFinite_of_add_isZero (h : (x + y).isZero = true) :
    x.isFinite = true ∧ y.isFinite = true := by
  cases x with
  | finite s m e hm =>
      cases y with
      | finite t n f hn => exact ⟨rfl, rfl⟩
      | infinite t => exact absurd h Bool.false_ne_true
      | nan => exact absurd h Bool.false_ne_true
  | infinite s =>
      cases y with
      | finite t n f hn => exact absurd h Bool.false_ne_true
      | infinite t => cases s <;> cases t <;> exact absurd h Bool.false_ne_true
      | nan => exact absurd h Bool.false_ne_true
  | nan => exact absurd h Bool.false_ne_true

theorem ofRat_zero_isZero (negative : Bool) : (ofRat 0 negative).isZero = true := rfl

/-- Two doubles have the difference zero exactly when they have one finite value. -/
theorem sub_isZero_iff (x y : Double) :
    (x - y).isZero = true ↔ ∃ q, x.toRat? = some q ∧ y.toRat? = some q := by
  have hsub : x - y = x + -y := rfl
  constructor
  · intro hzero
    rw [hsub] at hzero
    obtain ⟨hx, hy⟩ := isFinite_of_add_isZero hzero
    obtain ⟨p, hp⟩ := toRat?_of_isFinite hx
    obtain ⟨q, hq⟩ : ∃ q, y.toRat? = some q := by
      obtain ⟨q, hq⟩ := toRat?_of_isFinite hy
      rw [toRat?_neg, Option.map_eq_some_iff] at hq
      exact ⟨hq.choose, hq.choose_spec.1⟩
    refine ⟨p, hp, ?_⟩
    by_contra hne
    have hpq : p ≠ q := by
      rintro rfl
      exact hne hq
    have hneg : (-y).toRat? = some (-q) := by rw [toRat?_neg, hq, Option.map_some]
    rw [add_of_toRat? hp hneg, ← sub_eq_add_neg,
      ofRat_isZero (unit_le_abs_sub hp hq hpq)] at hzero
    exact Bool.false_ne_true hzero
  · rintro ⟨q, hx, hy⟩
    have hneg : (-y).toRat? = some (-q) := by rw [toRat?_neg, hy, Option.map_some]
    rw [hsub, add_of_toRat? hx hneg, ← sub_eq_add_neg, sub_self]
    exact ofRat_zero_isZero _

theorem ofRat_pos (h : (2 : Rat) ^ (-1074 : Int) ≤ q) (negative : Bool) :
    (∃ p, (ofRat q negative).toRat? = some p ∧ 0 < p) ∨ ofRat q negative = .infinite false := by
  have hnum : 0 < q.num := Rat.num_pos.mpr (lt_of_lt_of_le (by positivity) h)
  obtain ⟨m, exponent, hm, hpack⟩ := ofQuotient_eq_pack q.den_pos
    (h.trans ((le_abs_self q).trans_eq (natAbs_num_div_den q).symm))
  unfold ofRat
  rw [if_neg hnum.ne', decide_eq_false hnum.asymm, hpack]
  unfold pack
  split
  · refine .inl ⟨_, rfl, ?_⟩
    rw [twoPow_eq_zpow]
    exact mul_pos (by exact_mod_cast hm) (by positivity)
  · exact .inr rfl

/-! ## Lengths -/

theorem abs_isZero (x : Double) : x.abs.isZero = x.isZero := by cases x <;> rfl

theorem pack_isNegative (m : Nat) (exponent : Int) :
    (pack negative m exponent).isNegative = negative := by
  unfold pack
  split <;> rfl

theorem ofQuotient_isNegative (negative : Bool) (n d : Nat) :
    (ofQuotient negative n d).isNegative = negative := by
  unfold ofQuotient
  dsimp only
  split
  · rfl
  · split
    · exact pack_isNegative _ _
    · exact pack_isNegative _ _

/-- The root that `sqrtRat` takes of a number scaled to at least `2 ^ 112`. -/
theorem two_pow_le_sqrt (hq : (2 : Rat) ^ (112 : Int) ≤ q) : 2 ^ 56 ≤ Nat.sqrt q.floor.toNat := by
  have hfloor : (2 : Int) ^ 112 ≤ q.floor := by
    rw [Rat.le_floor_iff]
    exact_mod_cast hq
  rw [Nat.le_sqrt]
  omega

theorem sqrtRat_isZero (hq : (2 : Rat) ^ (-2148 : Int) ≤ q) : (sqrtRat q).isZero = false := by
  have hpos : 0 < q := lt_of_lt_of_le (by positivity) hq
  have hnum : 0 < q.num := Rat.num_pos.mpr hpos
  obtain ⟨hlow, hhigh⟩ := floorLog2_spec (Int.natAbs_pos.mpr hnum.ne') q.den_pos
  rw [quotient_num_den hpos.le] at hlow hhigh
  unfold sqrtRat
  rw [if_neg (not_le.mpr hnum)]
  dsimp only
  generalize floorLog2 q.num.natAbs q.den = log at hlow hhigh ⊢
  have hlog : -2148 < log + 1 :=
    (zpow_lt_zpow_iff_right₀ (by norm_num)).mp (lt_of_le_of_lt hq hhigh)
  generalize hunit : log / 2 - 56 = unit
  have hscaled : (2 : Rat) ^ (112 : Int) ≤ q / (twoPow unit * twoPow unit) := by
    rw [twoPow_eq_zpow, le_div_iff₀ (by positivity), ← zpow_add₀ (by norm_num),
      ← zpow_add₀ (by norm_num)]
    exact (zpow_le_zpow_right₀ (by norm_num) (by omega)).trans hlow
  have hroot := two_pow_le_sqrt hscaled
  generalize Nat.sqrt (q / (twoPow unit * twoPow unit)).floor.toNat = root at hroot ⊢
  refine ofRat_isZero (le_trans ?_ (le_abs_self _)) false
  have hhalf : ∀ exact : Bool, (root : Rat) ≤ mkRat (2 * root + if exact then 0 else 1) 2 := by
    intro exact
    rw [Rat.mkRat_eq_div, Nat.cast_ofNat, le_div_iff₀ (by norm_num)]
    split
    all_goals push_cast
    all_goals linarith
  calc (2 : Rat) ^ (-1074 : Int) ≤ 2 ^ (((56 : Nat) : Int) + unit) :=
        zpow_le_zpow_right₀ (by norm_num) (by omega)
    _ = ((2 ^ 56 : Nat) : Rat) * 2 ^ unit := (natPow_mul_zpow 56 unit).symm
    _ ≤ root * 2 ^ unit := by gcongr
    _ ≤ _ := by rw [twoPow_eq_zpow]; gcongr; exact hhalf _

theorem ofRat_isNegative (hq : 0 ≤ q) : (ofRat q).isNegative = false := by
  have hnum : ¬ q.num < 0 := not_lt.mpr (Rat.num_nonneg.mpr hq)
  unfold ofRat
  rw [ofQuotient_isNegative, decide_eq_false hnum, ite_self]

theorem sqrtRat_isNegative (q : Rat) : (sqrtRat q).isNegative = false := by
  unfold sqrtRat
  split
  · rfl
  · refine ofRat_isNegative (mul_nonneg (Rat.mkRat_nonneg ?_ 2) ?_)
    · positivity
    · rw [twoPow_eq_zpow]
      positivity

theorem unit_le_mul_self (hx : x.toRat? = some p) (hp : p ≠ 0) :
    (2 : Rat) ^ (-2148 : Int) ≤ p * p := by
  have hunit := unit_le_abs hx hp
  calc (2 : Rat) ^ (-2148 : Int) = 2 ^ (-1074 : Int) * 2 ^ (-1074 : Int) := by
        rw [← zpow_add₀ (by norm_num)]; rfl
    _ ≤ |p| * |p| := by gcongr
    _ = p * p := abs_mul_abs_self p

theorem hypot_of_toRat? (hx : x.toRat? = some p) (hy : y.toRat? = some q) :
    hypot x y =
      if y.isZero then x.abs else if x.isZero then y.abs else sqrtRat (p * p + q * q) := by
  cases x with
  | finite s m e hm =>
      cases y with
      | finite t n f hn =>
          rw [hypot, hx, hy]
      | infinite t => cases hy
      | nan => cases hy
  | infinite s => cases hx
  | nan => cases hx

/-- Only the vector of two zeros has length zero. -/
theorem hypot_isZero (x y : Double) : (hypot x y).isZero = (x.isZero && y.isZero) := by
  by_cases hfinite : x.isFinite = true ∧ y.isFinite = true
  · obtain ⟨p, hp⟩ := toRat?_of_isFinite hfinite.1
    obtain ⟨q, hq⟩ := toRat?_of_isFinite hfinite.2
    rw [hypot_of_toRat? hp hq]
    cases hy : y.isZero with
    | true => rw [if_pos rfl, abs_isZero, Bool.and_true]
    | false =>
        rw [if_neg Bool.false_ne_true, Bool.and_false]
        split
        · rw [abs_isZero, hy]
        · next hx =>
          have hne : p ≠ 0 := by
            rintro rfl
            exact hx ((isZero_iff x).mpr hp)
          have hself := unit_le_mul_self hp hne
          exact sqrtRat_isZero (hself.trans (le_add_of_nonneg_right (mul_self_nonneg q)))
  · cases x <;> cases y <;> simp_all [hypot, isFinite, isZero]

theorem hypot_isNegative (x y : Double) : (hypot x y).isNegative = false := by
  by_cases hfinite : x.isFinite = true ∧ y.isFinite = true
  · obtain ⟨p, hp⟩ := toRat?_of_isFinite hfinite.1
    obtain ⟨q, hq⟩ := toRat?_of_isFinite hfinite.2
    rw [hypot_of_toRat? hp hq]
    split
    · cases x <;> rfl
    · split
      · cases y <;> rfl
      · exact sqrtRat_isNegative _
  · cases x <;> cases y <;> simp_all [hypot, isFinite, isNegative]

end Double

end Wireframe

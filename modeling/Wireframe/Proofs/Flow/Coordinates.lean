import Wireframe.Proofs.Double.Nearest
import Wireframe.Proofs.Outcome
import Wireframe.Scalar

/-! # Arithmetic on coordinates

A coordinate is a double, or an integer of moderate size: both have one value, and the operations of
`Scalar` on them have results. A difference is zero exactly when the values are equal, and so is a
length exactly when both components are. The order compares values.
-/

namespace Wireframe

namespace Double

variable {n : Int}

theorem ofRat_isFinite {q : Rat} (h : |q| ≤ 2 ^ 54) (negative : Bool) :
    (ofRat q negative).isFinite = true := by
  refine ofQuotient_isFinite q.den_pos ?_
  rw [natAbs_num_div_den]
  calc |q| ≤ 2 ^ (54 : Int) := h
    _ < 2 ^ (1023 : Int) := zpow_lt_zpow_right₀ (by norm_num) (by norm_num)

theorem ofInt_isFinite (h : n.natAbs ≤ 2 ^ 54) : (ofInt n).isFinite = true := by
  refine ofQuotient_isFinite Nat.one_pos ?_
  rw [Nat.cast_one, div_one]
  calc (n.natAbs : Rat) ≤ 2 ^ (54 : Int) := by exact_mod_cast h
    _ < 2 ^ (1023 : Int) := zpow_lt_zpow_right₀ (by norm_num) (by norm_num)

theorem ofInt_isZero (n : Int) : (ofInt n).isZero = true ↔ n = 0 := by
  constructor
  · intro hzero
    by_contra hn
    have hone : (1 : Rat) ≤ n.natAbs := by exact_mod_cast Int.natAbs_pos.mpr hn
    have hunit : (2 : Rat) ^ (-1074 : Int) ≤ (n.natAbs : Rat) / (1 : Nat) := by
      rw [Nat.cast_one, div_one]
      exact (zpow_le_one_of_nonpos₀ (by norm_num) (by norm_num)).trans hone
    rw [ofInt, ofQuotient_isZero Nat.one_pos hunit] at hzero
    exact Bool.false_ne_true hzero
  · rintro rfl
    rfl

theorem ofInt_toRat? (h : n.natAbs < 2 ^ 53) : (ofInt n).toRat? = some (n : Rat) := by
  by_cases hn : n = 0
  · rw [hn, Int.cast_zero, ← isZero_iff, ofInt_isZero]
  have hpos : 0 < n.natAbs := Int.natAbs_pos.mpr hn
  have hlog : n.natAbs.log2 < 53 := (Nat.log2_lt hpos.ne').mpr h
  -- The mantissa fills 53 bits.
  have hlow : 2 ^ 52 ≤ n.natAbs * 2 ^ (52 - n.natAbs.log2) := by
    calc 2 ^ 52 = 2 ^ n.natAbs.log2 * 2 ^ (52 - n.natAbs.log2) := by
          rw [← Nat.pow_add]; congr 1; omega
      _ ≤ _ := Nat.mul_le_mul_right _ (Nat.log2_self_le hpos.ne')
  have hhigh : n.natAbs * 2 ^ (52 - n.natAbs.log2) < 2 ^ 53 := by
    calc n.natAbs * 2 ^ (52 - n.natAbs.log2)
        < 2 ^ (n.natAbs.log2 + 1) * 2 ^ (52 - n.natAbs.log2) :=
          Nat.mul_lt_mul_of_pos_right Nat.lt_log2_self (by positivity)
      _ = 2 ^ 53 := by rw [← Nat.pow_add]; congr 1; omega
  have stored : Stored (n.natAbs * 2 ^ (52 - n.natAbs.log2)) (-(52 - n.natAbs.log2 : Nat)) :=
    ⟨hhigh, by omega, by omega, .inl hlow⟩
  have hvalue : ((n.natAbs * 2 ^ (52 - n.natAbs.log2) : Nat) : Rat) *
      2 ^ (-(52 - n.natAbs.log2 : Nat) : Int) = n.natAbs := by
    rw [Nat.cast_mul, mul_assoc, natPow_mul_zpow, add_neg_cancel, zpow_zero, mul_one]
  have hexact : ofQuotient (decide (n < 0)) n.natAbs 1 = .finite _ _ _ stored :=
    ofQuotient_exact stored (by positivity) Nat.one_pos (by rw [hvalue, Nat.cast_one, div_one])
  rw [ofInt, hexact]
  unfold toRat?
  dsimp only
  rw [twoPow_eq_zpow, hvalue, Nat.cast_natAbs, Int.cast_abs]
  congr 1
  split
  · next hneg =>
    rw [abs_of_neg (by exact_mod_cast of_decide_eq_true hneg), Rat.neg_neg]
  · next hneg =>
    rw [abs_of_nonneg (by exact_mod_cast not_lt.mp (mt decide_eq_true hneg))]

end Double

namespace Number

def toRat? : Number → Option Rat
  | .int n => some n
  | .double x => x.toRat?

/-- The doubles, and the integers up to a bound. -/
def Within (bound : Nat) : Number → Prop
  | .int n => n.natAbs ≤ bound
  | .double _ => True

instance (bound : Nat) : (n : Number) → Decidable (n.Within bound)
  | .int n => inferInstanceAs (Decidable (n.natAbs ≤ bound))
  | .double _ => inferInstanceAs (Decidable True)

variable {a b : Nat} {x y : Number} {z : Double} {p q : Rat}

theorem Within.mono (h : x.Within a) (hab : a ≤ b) : x.Within b := by
  cases x with
  | int n => exact Nat.le_trans h hab
  | double x => exact trivial

theorem within_double (z : Double) : (Number.double z).Within b := trivial

theorem Within.add (hx : x.Within a) (hy : y.Within b) : (x + y).Within (a + b) := by
  cases x with
  | double x => exact trivial
  | int m =>
      cases y with
      | double y => exact trivial
      | int n => exact (Int.natAbs_add_le m n).trans (Nat.add_le_add hx hy)

theorem Within.sub (hx : x.Within a) (hy : y.Within b) : (x - y).Within (a + b) := by
  cases x with
  | double x => exact trivial
  | int m =>
      cases y with
      | double y => exact trivial
      | int n => exact (Int.natAbs_sub_le m n).trans (Nat.add_le_add hx hy)

theorem add_double (x : Number) (z : Double) : ∃ w, x + .double z = .double w := by
  cases x <;> exact ⟨_, rfl⟩

theorem sub_double (x : Number) (z : Double) : ∃ w, x - .double z = .double w := by
  cases x <;> exact ⟨_, rfl⟩

theorem Within.inRange (h : x.Within (2 ^ 54)) : x.inRange = true := by
  cases x with
  | int n => exact Double.ofInt_isFinite h
  | double x => rfl

/-! ## Operations that have a result -/

theorem meets_of_inRange (hx : x.inRange = true) (hy : y.inRange = true) : x.meets y = true := by
  unfold meets
  split
  · rfl
  · rw [hx, hy]
    rfl

theorem combine_eq (f : Number → Number → Number) (hx : x.inRange = true) (hy : y.inRange = true) :
    combine f x y = .ok (f x y) :=
  if_pos (meets_of_inRange hx hy)

/-- Any number combines with an integer that has a double near it. -/
theorem combine_int_left (f : Number → Number → Number) {n : Int}
    (hn : (Number.int n).inRange = true) (x : Number) :
    combine f (.int n) x = .ok (f (.int n) x) := by
  cases x with
  | int m => rfl
  | double x => exact combine_eq f hn rfl

theorem combine_int_right (f : Number → Number → Number) {n : Int}
    (hn : (Number.int n).inRange = true) (x : Number) :
    combine f x (.int n) = .ok (f x (.int n)) := by
  cases x with
  | int m => rfl
  | double x => exact combine_eq f rfl hn

theorem scalar_add (hx : x.Within (2 ^ 54)) (hy : y.Within (2 ^ 54)) :
    Scalar.add x y = .ok (x + y) :=
  combine_eq _ hx.inRange hy.inRange

theorem scalar_sub (hx : x.Within (2 ^ 54)) (hy : y.Within (2 ^ 54)) :
    Scalar.sub x y = .ok (x - y) :=
  combine_eq _ hx.inRange hy.inRange

theorem scalar_length (hx : x.Within (2 ^ 54)) (hy : y.Within (2 ^ 54)) :
    Scalar.length x y = .ok (.double (Double.hypot x.toDouble y.toDouble)) := by
  show (if x.inRange && y.inRange then _ else _) = _
  rw [hx.inRange, hy.inRange]
  rfl

theorem within_two : (Number.int 2).Within (2 ^ 54) :=
  show Int.natAbs 2 ≤ 2 ^ 54 by decide

theorem scalar_half (hx : x.Within (2 ^ 54)) : ∃ z, Scalar.half x = .ok (.double z) := by
  show ∃ z, quotient x (.int 2) = .ok (.double z)
  unfold quotient
  cases x with
  | int n =>
      have hfinite : (Double.ofRat ((n : Rat) / (2 : Int)) false).isFinite = true := by
        refine Double.ofRat_isFinite ?_ false
        have hn : |(n : Rat)| ≤ 2 ^ 54 := by
          rw [← Int.cast_abs, ← Nat.cast_natAbs]
          exact_mod_cast hx
        rw [abs_div]
        exact (div_le_self (abs_nonneg _) (by norm_num)).trans hn
      refine ⟨Double.ofRat ((n : Rat) / (2 : Int)) false, ?_⟩
      exact if_pos hfinite
  | double x =>
      rw [meets_of_inRange rfl within_two.inRange]
      exact ⟨x / Double.ofInt 2, rfl⟩

/-- A coordinate is divided by a double unless that is zero. -/
theorem scalar_div_double (hx : x.inRange = true) (z : Double) :
    Scalar.div x (.double z) =
      if z.isZero then .error .divisionByZero else .ok (.double (x.toDouble / z)) := by
  show quotient x (.double z) = _
  unfold quotient
  rw [meets_of_inRange hx rfl]
  cases x <;> rfl

/-! ## Operations that give doubles -/

variable {w : Number}

def IsDouble (x : Number) : Prop := ∃ z, x = .double z

theorem IsDouble.inRange (h : x.IsDouble) : x.inRange = true := by
  obtain ⟨z, rfl⟩ := h
  rfl

theorem IsDouble.within (h : x.IsDouble) : x.Within b := by
  obtain ⟨z, rfl⟩ := h
  trivial

theorem combine_ok {f : Number → Number → Number} (h : combine f x y = .ok w) : w = f x y := by
  unfold combine at h
  split at h
  · exact (Except.ok.inj h).symm
  · cases h

theorem isDouble_add (h : Scalar.add x y = .ok w) (hdouble : x.IsDouble ∨ y.IsDouble) :
    w.IsDouble := by
  obtain rfl := combine_ok h
  rcases hdouble with ⟨u, rfl⟩ | ⟨u, rfl⟩
  · cases y <;> exact ⟨_, rfl⟩
  · exact add_double x u

theorem isDouble_sub (h : Scalar.sub x y = .ok w) (hx : x.IsDouble) : w.IsDouble := by
  obtain rfl := combine_ok h
  obtain ⟨u, rfl⟩ := hx
  cases y <;> exact ⟨_, rfl⟩

theorem isDouble_half (h : Scalar.half x = .ok w) : w.IsDouble := by
  have h : quotient x (.int 2) = .ok w := h
  unfold quotient at h
  split at h
  · cases h
  split at h
  · cases h
  cases x with
  | int n =>
      dsimp only at h
      split at h
      · exact ⟨_, (Except.ok.inj h).symm⟩
      · cases h
  | double x => exact ⟨_, (Except.ok.inj h).symm⟩

/-! ## Values -/

theorem toDouble_toRat? (hx : x.Within (2 ^ 52)) : x.toDouble.toRat? = x.toRat? := by
  cases x with
  | int n => exact Double.ofInt_toRat? (Nat.lt_of_le_of_lt hx (by decide))
  | double x => rfl

theorem toDouble_isZero (x : Number) : x.toDouble.isZero = x.isZero := by
  cases x with
  | int n => exact Bool.eq_iff_iff.mpr ((Double.ofInt_isZero n).trans beq_iff_eq.symm)
  | double x => rfl

/-- The difference of two coordinates is zero exactly when they have one value. -/
theorem sub_isZero_iff (hx : x.Within (2 ^ 52)) (hy : y.Within (2 ^ 52)) :
    (x - y).isZero = true ↔ ∃ q, x.toRat? = some q ∧ y.toRat? = some q := by
  have hdoubles := Double.sub_isZero_iff x.toDouble y.toDouble
  rw [toDouble_toRat? hx, toDouble_toRat? hy] at hdoubles
  cases x with
  | double x => exact hdoubles
  | int m =>
      cases y with
      | double y => exact hdoubles
      | int n =>
          show (m - n == 0) = true ↔ _
          rw [beq_iff_eq, Int.sub_eq_zero]
          constructor
          · rintro rfl
            exact ⟨m, rfl, rfl⟩
          · rintro ⟨q, hm, hn⟩
            have hmn : (m : Rat) = n := Option.some_inj.mp (hm.trans hn.symm)
            exact_mod_cast hmn

/-! ## The order -/

def order (p q : Rat) : Ordering := if p < q then .lt else if p = q then .eq else .gt

theorem swap_order (p q : Rat) : (order p q).swap = order q p := by
  unfold order
  rcases lt_trichotomy p q with h | rfl | h
  · rw [if_pos h, if_neg h.asymm, if_neg h.ne']
    rfl
  · rw [if_neg (lt_irrefl p), if_pos rfl]
    rfl
  · rw [if_neg h.asymm, if_neg h.ne', if_pos h]
    rfl

theorem against_of_toRat? (m : Int) (hz : z.toRat? = some q) :
    compare?.against m z = some (order m q) := by
  cases z with
  | finite negative mantissa exponent stored =>
      have hmap : compare?.against m (.finite negative mantissa exponent stored) =
          (Double.finite negative mantissa exponent stored).toRat?.map (order m) := rfl
      rw [hmap, hz, Option.map_some]
  | infinite negative => cases hz
  | nan => cases hz

theorem compare?_of_toRat? (hx : x.toRat? = some p) (hy : y.toRat? = some q) :
    x.compare? y = some (order p q) := by
  cases x with
  | int m =>
      obtain rfl : (m : Rat) = p := Option.some_inj.mp hx
      cases y with
      | int n =>
          obtain rfl : (n : Rat) = q := Option.some_inj.mp hy
          show some (compareOfLessAndEq m n) = _
          simp only [compareOfLessAndEq, order, Int.cast_lt, Int.cast_inj]
      | double y => exact against_of_toRat? m hy
  | double x =>
      cases y with
      | int n =>
          obtain rfl : (n : Rat) = q := Option.some_inj.mp hy
          show (compare?.against n x).map Ordering.swap = _
          rw [against_of_toRat? n hx, Option.map_some, swap_order]
      | double y =>
          have hx' : x.toRat? = some p := hx
          have hy' : y.toRat? = some q := hy
          show Double.compare? x y = _
          cases x <;> cases y <;> simp_all [Double.compare?, order, Double.toRat?]

theorem swap_compare?_double (x y : Double) :
    (x.compare? y).map Ordering.swap = y.compare? x := by
  cases x with
  | finite s m e hm =>
      cases y with
      | finite t n f hn =>
          have hxy := compare?_of_toRat? (x := .double (.finite s m e hm))
            (y := .double (.finite t n f hn)) rfl rfl
          have hyx := compare?_of_toRat? (x := .double (.finite t n f hn))
            (y := .double (.finite s m e hm)) rfl rfl
          rw [← swap_order] at hyx
          exact (congrArg (Option.map Ordering.swap) hxy).trans hyx.symm
      | infinite t => cases t <;> rfl
      | nan => rfl
  | infinite s =>
      cases y with
      | finite t n f hn => cases s <;> rfl
      | infinite t => cases s <;> cases t <;> rfl
      | nan => rfl
  | nan => cases y <;> rfl

/-- Read from the other side, the order is turned around. -/
theorem swap_compare? (x y : Number) : (x.compare? y).map Ordering.swap = y.compare? x := by
  cases x with
  | int m =>
      cases y with
      | int n =>
          rw [compare?_of_toRat? (x := .int m) (y := .int n) rfl rfl, Option.map_some, swap_order,
            compare?_of_toRat? (x := .int n) (y := .int m) rfl rfl]
      | double y => rfl
  | double x =>
      cases y with
      | int n =>
          show ((compare?.against n x).map Ordering.swap).map Ordering.swap = compare?.against n x
          cases compare?.against n x with
          | none => rfl
          | some o => exact congrArg some o.swap_swap
      | double y => exact swap_compare?_double x y

theorem same_comm (x y : Number) : x.same y = y.same x := by
  unfold same
  rw [← swap_compare? x y]
  cases x.compare? y with
  | none => rfl
  | some o => cases o <;> rfl

theorem same_of_toRat? (hx : x.toRat? = some p) (hy : y.toRat? = some q) :
    x.same y = decide (p = q) := by
  unfold same
  rw [compare?_of_toRat? hx hy, order]
  rcases lt_trichotomy p q with h | rfl | h
  · rw [if_pos h, decide_eq_false h.ne]
    rfl
  · rw [if_neg (lt_irrefl p), if_pos rfl, decide_eq_true rfl]
    rfl
  · rw [if_neg h.asymm, if_neg h.ne', decide_eq_false h.ne']
    rfl

theorem lt_of_toRat? (hx : x.toRat? = some p) (hy : y.toRat? = some q) :
    x.lt y = decide (p < q) := by
  unfold lt
  rw [compare?_of_toRat? hx hy, order]
  split
  · next h => exact (decide_eq_true h).symm
  · next h =>
    rw [decide_eq_false h]
    split <;> rfl

theorem toRat?_of_isZero (h : x.isZero = true) : x.toRat? = some 0 := by
  cases x with
  | int n =>
      obtain rfl : n = 0 := beq_iff_eq.mp h
      rfl
  | double x => exact (Double.isZero_iff x).mp h

theorem pos_of_value (hy : y.toRat? = some q) (hq : 0 < q) : (Number.int 0).lt y = true := by
  rw [lt_of_toRat? rfl hy, Int.cast_zero]
  exact decide_eq_true hq

theorem value_of_pos (h : (Number.int 0).lt y = true) :
    (∃ q, y.toRat? = some q ∧ 0 < q) ∨ y = .double (.infinite false) := by
  cases hy : y.toRat? with
  | some q =>
      rw [lt_of_toRat? rfl hy, Int.cast_zero] at h
      exact .inl ⟨q, rfl, of_decide_eq_true h⟩
  | none =>
      cases y with
      | int n => cases hy
      | double y =>
          cases y with
          | finite s m e hm => cases hy
          | infinite s =>
              cases s with
              | false => exact .inr rfl
              | true => exact absurd h Bool.false_ne_true
          | nan => exact absurd h Bool.false_ne_true

theorem isZero_of_pos (h : (Number.int 0).lt y = true) : y.isZero = false := by
  refine Bool.eq_false_iff.mpr fun hzero => ?_
  rw [lt_of_toRat? rfl (toRat?_of_isZero hzero), Int.cast_zero] at h
  exact lt_irrefl 0 (of_decide_eq_true h)

theorem lt_of_isZero (hz : z.isZero = true) (hy : (Number.int 0).lt y = true) :
    (Number.double z).lt y = true := by
  rcases value_of_pos hy with ⟨q, hq, hpos⟩ | rfl
  · rw [lt_of_toRat? (x := .double z) (toRat?_of_isZero hz) hq]
    exact decide_eq_true hpos
  · cases z with
    | finite s m e hm => rfl
    | infinite s => cases hz
    | nan => cases hz

theorem not_lt_of_isZero (hz : z.isNegative = false) (hy : y.isZero = true) :
    (Number.double z).lt y = false := by
  have hvalue := toRat?_of_isZero hy
  cases z with
  | finite s m e hm =>
      obtain rfl : s = false := hz
      have hnonneg : 0 ≤ (m : Rat) * Double.twoPow e := by
        rw [Double.twoPow_eq_zpow]
        positivity
      rw [lt_of_toRat? (y := y) rfl hvalue]
      exact decide_eq_false (not_lt.mpr hnonneg)
  | infinite s =>
      obtain rfl : s = false := hz
      cases y with
      | int n => rfl
      | double y => cases y with
        | finite t n f hn => rfl
        | _ => cases hvalue
  | nan =>
      cases y with
      | int n => rfl
      | double y => rfl

/-! ## Twice a number -/

theorem mul_two_double (h : z.toRat? = some p) :
    ∃ negative, Number.double z * .int 2 = .double (Double.ofRat (p * 2) negative) := by
  have htwo : (Double.ofInt 2).toRat? = some 2 := Double.ofInt_toRat? (by decide)
  exact ⟨_, congrArg Number.double (Double.mul_of_toRat? h htwo)⟩

theorem mul_two_isZero (h : x.isZero = true) : (x * .int 2).isZero = true := by
  cases x with
  | int n =>
      obtain rfl : n = 0 := beq_iff_eq.mp h
      rfl
  | double x =>
      obtain ⟨negative, hmul⟩ := mul_two_double (toRat?_of_isZero h)
      rw [hmul, zero_mul]
      exact Double.ofRat_zero_isZero negative

theorem mul_two_pos (h : (Number.int 0).lt x = true) : (Number.int 0).lt (x * .int 2) = true := by
  rcases value_of_pos h with ⟨q, hq, hpos⟩ | rfl
  · cases x with
    | int n =>
        obtain rfl : (n : Rat) = q := Option.some_inj.mp hq
        have hn : 0 < n := by exact_mod_cast hpos
        have hdouble : (0 : Rat) < (n * 2 : Int) := by exact_mod_cast Int.mul_pos hn two_pos
        exact pos_of_value (y := .int (n * 2)) rfl hdouble
    | double x =>
        have hunit := Double.unit_le_abs hq hpos.ne'
        rw [abs_of_pos hpos] at hunit
        obtain ⟨negative, hmul⟩ := mul_two_double hq
        rw [hmul]
        rcases Double.ofRat_pos (q := q * 2) (by linarith) negative with ⟨p, hp, hppos⟩ | hinfinite
        · exact pos_of_value (y := .double _) hp hppos
        · rw [hinfinite]
          rfl
  · rfl

end Number

end Wireframe

import Wireframe.Double.Decimal
import Wireframe.Proofs.Double.Exact

/-! # Decimals read back

What a decimal is read as depends on its value alone, and the fewest digits of a stored number are
read as that number. The cut-offs of `Double.ofDecimal` lie outside the range of the format, so that
no stored number meets them.
-/

namespace Wireframe

namespace Decimal

theorem toRat_eq (d : Decimal) : d.toRat = (d.digits : Rat) * 10 ^ d.exponent := by
  rw [toRat, tenPow_eq_zpow]

theorem toRat_eq_zero_iff {d : Decimal} : d.toRat = 0 ↔ d.digits = 0 := by
  rw [toRat_eq, mul_eq_zero, or_iff_left (by positivity)]
  exact_mod_cast Iff.rfl

theorem pow_length_toDigits_le {n : Nat} (hn : n ≠ 0) :
    10 ^ ((Nat.toDigits 10 n).length - 1) ≤ n := by
  by_contra h
  have hlength : 0 < (Nat.toDigits 10 n).length := Nat.length_toDigits_pos
  rcases Nat.eq_zero_or_pos ((Nat.toDigits 10 n).length - 1) with hzero | hpos
  · rw [hzero] at h
    omega
  · have := (Nat.length_toDigits_le_iff (by decide) hpos).mpr (Nat.lt_of_not_le h)
    omega

/-- A decimal lies below the power of ten of its places and not below the one before. -/
theorem places_spec {d : Decimal} (hd : d.digits ≠ 0) :
    (10 : Rat) ^ (d.places - 1) ≤ d.toRat ∧ d.toRat < 10 ^ d.places := by
  have hlength : 0 < (Nat.toDigits 10 d.digits).length := Nat.length_toDigits_pos
  have hlow : (10 : Rat) ^ (((Nat.toDigits 10 d.digits).length : Int) - 1) ≤ d.digits := by
    have h := pow_length_toDigits_le hd
    obtain ⟨k, hk⟩ := Nat.exists_eq_add_of_lt hlength
    rw [hk] at h ⊢
    have hcast : ((0 + k + 1 : Nat) : Int) - 1 = (k : Int) := by omega
    rw [hcast, zpow_natCast]
    have : 10 ^ k ≤ d.digits := by simpa using h
    exact_mod_cast this
  have hhigh : (d.digits : Rat) < 10 ^ ((Nat.toDigits 10 d.digits).length : Int) := by
    rw [zpow_natCast]
    have := (Nat.length_toDigits_le_iff (n := d.digits) (by decide) hlength).mp (Nat.le_refl _)
    exact_mod_cast this
  rw [toRat_eq, places]
  constructor
  · rw [add_sub_right_comm, zpow_add₀ (by norm_num)]
    gcongr
  · rw [zpow_add₀ (by norm_num)]
    gcongr

theorem places_eq {d d' : Decimal} (hd : d.digits ≠ 0) (h : d.toRat = d'.toRat) :
    d.places = d'.places := by
  have hd' : d'.digits ≠ 0 := by
    rwa [Ne, ← toRat_eq_zero_iff, ← h, toRat_eq_zero_iff]
  obtain ⟨hlow, hhigh⟩ := places_spec hd
  obtain ⟨hlow', hhigh'⟩ := places_spec hd'
  rw [h] at hlow hhigh
  have h₁ : d.places - 1 < d'.places :=
    (zpow_lt_zpow_iff_right₀ (by norm_num)).mp (lt_of_le_of_lt hlow hhigh')
  have h₂ : d'.places - 1 < d.places :=
    (zpow_lt_zpow_iff_right₀ (by norm_num)).mp (lt_of_le_of_lt hlow' hhigh)
  omega

end Decimal

namespace Double

theorem ofDecimal_congr {d d' : Decimal} (h : d.toRat = d'.toRat) (negative : Bool) :
    ofDecimal negative d = ofDecimal negative d' := by
  by_cases hd : d.digits = 0
  · have hd' : d'.digits = 0 := by
      rwa [← Decimal.toRat_eq_zero_iff, ← h, Decimal.toRat_eq_zero_iff]
    unfold ofDecimal
    rw [if_pos hd, if_pos hd']
  · have hd' : d'.digits ≠ 0 := by
      rwa [Ne, ← Decimal.toRat_eq_zero_iff, ← h, Decimal.toRat_eq_zero_iff]
    unfold ofDecimal
    rw [if_neg hd, if_neg hd', Decimal.places_eq hd h, h]

def withSign (negative : Bool) : Double → Double
  | .finite _ mantissa exponent stored => .finite negative mantissa exponent stored
  | .infinite _ => .infinite negative
  | .nan => .nan

theorem pack_withSign (negative : Bool) (mantissa : Nat) (exponent : Int) :
    pack negative mantissa exponent = (pack false mantissa exponent).withSign negative := by
  unfold pack
  split <;> rfl

theorem ofQuotient_withSign (negative : Bool) (n d : Nat) :
    ofQuotient negative n d = (ofQuotient false n d).withSign negative := by
  unfold ofQuotient
  split
  · rfl
  · dsimp only
    split
    · exact pack_withSign _ _ _
    · exact pack_withSign _ _ _

/-- The sign has no part in how a decimal is rounded. -/
theorem ofDecimal_withSign (negative : Bool) (d : Decimal) :
    ofDecimal negative d = (ofDecimal false d).withSign negative := by
  unfold ofDecimal
  split
  · rfl
  · split
    · rfl
    · split
      · rfl
      · exact ofQuotient_withSign _ _ _

theorem quotient_num_den {q : Rat} (hq : 0 ≤ q) : (q.num.natAbs : Rat) / q.den = q := by
  have hnum : ((q.num.natAbs : Int) : Rat) = q.num := by
    rw [Int.natAbs_of_nonneg (Rat.num_nonneg.mpr hq)]
  rw [Int.cast_natCast] at hnum
  rw [hnum, Rat.num_div_den]

theorem magnitude_bounds {m : Nat} {exponent : Int} (stored : Stored m exponent) (hm : 0 < m) :
    (2 : Rat) ^ (-1074 : Int) ≤ m * 2 ^ exponent ∧ (m : Rat) * 2 ^ exponent < 2 ^ (1024 : Int) := by
  obtain ⟨hbelow, hleast, hmost, -⟩ := stored
  have hone : (1 : Rat) ≤ m := by exact_mod_cast hm
  have hmax : (m : Rat) < 2 ^ 53 := by exact_mod_cast hbelow
  constructor
  · calc (2 : Rat) ^ (-1074 : Int) ≤ 2 ^ exponent := zpow_le_zpow_right₀ (by norm_num) hleast
      _ = 1 * 2 ^ exponent := (one_mul _).symm
      _ ≤ m * 2 ^ exponent := by gcongr
  · calc (m : Rat) * 2 ^ exponent < 2 ^ 53 * 2 ^ exponent := by gcongr
      _ ≤ 2 ^ 53 * 2 ^ (971 : Int) := by gcongr; norm_num
      _ = 2 ^ (53 : Int) * 2 ^ (971 : Int) := by rw [← zpow_natCast]; rfl
      _ = 2 ^ (1024 : Int) := by rw [← zpow_add₀ (by norm_num)]; rfl

theorem two_pow_le_ten_pow : 2 ^ 1024 ≤ 10 ^ 309 := by decide +kernel

theorem two_pow_le_ten_pow' : 2 ^ 1074 ≤ 10 ^ 324 := by decide +kernel

/-- A decimal whose value is stored is read as what is stored. -/
theorem ofDecimal_exact {d : Decimal} {m : Nat} {exponent : Int} (stored : Stored m exponent)
    (hm : 0 < m) (h : d.toRat = m * 2 ^ exponent) (negative : Bool) :
    ofDecimal negative d = .finite negative m exponent stored := by
  have hpos : 0 < d.toRat := by rw [h]; positivity
  have hd : d.digits ≠ 0 := by
    rw [Ne, ← Decimal.toRat_eq_zero_iff]
    exact hpos.ne'
  obtain ⟨hlow, hhigh⟩ := Decimal.places_spec hd
  obtain ⟨hleast, hmost⟩ := magnitude_bounds stored hm
  rw [← h] at hleast hmost
  have hfew : d.places - 1 < 309 := by
    have : (2 : Rat) ^ (1024 : Int) ≤ 10 ^ (309 : Int) := by exact_mod_cast two_pow_le_ten_pow
    exact (zpow_lt_zpow_iff_right₀ (by norm_num)).mp
      (lt_of_le_of_lt hlow (lt_of_lt_of_le hmost this))
  have hmany : -324 < d.places := by
    have : (10 : Rat) ^ (-324 : Int) ≤ 2 ^ (-1074 : Int) := by
      rw [zpow_neg, zpow_neg]
      gcongr
      exact_mod_cast two_pow_le_ten_pow'
    exact (zpow_lt_zpow_iff_right₀ (by norm_num)).mp
      (lt_of_le_of_lt (this.trans hleast) hhigh)
  unfold ofDecimal
  rw [if_neg hd, if_neg (by omega), if_neg (by omega)]
  exact ofQuotient_exact stored hm d.toRat.den_pos ((quotient_num_den hpos.le).trans h)

theorem fullDecimal_toRat (m : Nat) (exponent : Int) :
    (fullDecimal m exponent).toRat = m * 2 ^ exponent := by
  rw [Decimal.toRat_eq]
  unfold fullDecimal
  by_cases h : 0 ≤ exponent
  · obtain ⟨k, rfl⟩ := Int.eq_ofNat_of_zero_le h
    rw [if_pos h]
    simp
  · obtain ⟨k, hk⟩ := Int.eq_ofNat_of_zero_le (a := -exponent) (by omega)
    obtain rfl : exponent = -(k : Int) := by omega
    rw [if_neg h]
    have hten : (10 : Rat) ^ k = 5 ^ k * 2 ^ k := by rw [← mul_pow]; norm_num
    have hfive : ((Nat.pow 5 k : Nat) : Rat) = 5 ^ k := by exact_mod_cast rfl
    simp only [Int.neg_neg, Int.toNat_natCast, zpow_neg, zpow_natCast, hten, Nat.cast_mul, hfive]
    field_simp

theorem ofDecimal_of_enclosing? {q : Rat} {count : Nat} {d : Decimal}
    (h : enclosing? q count = some d) :
    ofDecimal false d = ofQuotient false q.num.natAbs q.den := by
  unfold enclosing? at h
  dsimp only at h
  split at h
  · next hboth =>
    rw [Bool.and_eq_true, beq_iff_eq, beq_iff_eq] at hboth
    split at h
    · cases h; exact hboth.1
    · split at h
      · cases h; exact hboth.2
      · split at h
        · cases h; exact hboth.1
        · cases h; exact hboth.2
  · split at h
    · next hlower =>
      cases h
      exact beq_iff_eq.mp hlower
    · split at h
      · next hupper =>
        cases h
        exact beq_iff_eq.mp hupper
      · cases h

/-- The fewest digits of a stored number read back as it. -/
theorem ofDecimal_shortest {m : Nat} {exponent : Int} (stored : Stored m exponent)
    (negative : Bool) :
    ofDecimal negative (shortest m exponent) = .finite negative m exponent stored := by
  unfold shortest
  by_cases hm : m = 0
  · subst hm
    obtain ⟨-, -, -, hnormal | rfl⟩ := stored
    · exact absurd hnormal (by decide)
    · rfl
  · rw [if_neg hm]
    have hpos : 0 < m := Nat.pos_of_ne_zero hm
    cases hfound : (List.range 17).findSome? fun i => enclosing? (magnitude m exponent) (i + 1) with
    | none => exact ofDecimal_exact stored hpos (fullDecimal_toRat m exponent) negative
    | some d =>
        obtain ⟨i, -, hi⟩ := List.exists_of_findSome?_eq_some hfound
        have hvalue : magnitude m exponent = m * 2 ^ exponent := by
          rw [magnitude, twoPow_eq_zpow]
        have hmagnitude : 0 ≤ magnitude m exponent := by rw [hvalue]; positivity
        rw [Option.getD_some, ofDecimal_withSign, ofDecimal_of_enclosing? hi,
          ofQuotient_exact stored hpos (magnitude m exponent).den_pos
            ((quotient_num_den hmagnitude).trans hvalue)]
        rfl

end Double

end Wireframe

import Wireframe.Double.Decimal
import Wireframe.Proofs.Double.ReadBack

/-! # Significant digits

A number that is rounded to some significant digits keeps its value exactly when it needs no more of
them. The unit in which it is rounded is a power of ten, which `floorLog10_spec` pins down: it is
small enough for every digit that counts, and large enough for no more to fit.
-/

namespace Wireframe

/-- The magnitude is written with so many decimal digits, and zeros before or behind them. -/
def HasDigits (count : Nat) (q : Rat) : Prop :=
  ∃ (digits : Nat) (exponent : Int), digits < 10 ^ count ∧ |q| = digits * 10 ^ exponent

theorem hasDigits_neg {count : Nat} {q : Rat} : HasDigits count (-q) ↔ HasDigits count q := by
  unfold HasDigits
  rw [abs_neg]

theorem hasDigits_zero (count : Nat) : HasDigits count 0 := by
  have hpos : 0 < 10 ^ count := by positivity
  exact ⟨0, 0, hpos, by simp⟩

theorem divNearest_exact {q : Rat} (hq : 0 ≤ q) {n : Nat} (h : q = n) :
    divNearest q.num.natAbs q.den = n := by
  have hden : (0 : Rat) < q.den := by exact_mod_cast q.den_pos
  have hnum : (q.num.natAbs : Rat) = n * q.den := by
    rw [← h, ← div_eq_iff hden.ne']
    exact Double.quotient_num_den hq
  have hnat : q.num.natAbs = n * q.den := by exact_mod_cast hnum
  exact Nat.le_antisymm (divNearest_le q.den_pos hnat.le) (le_divNearest q.den_pos hnat.ge)

namespace Decimal

theorem length_toDigits_bounds {n : Nat} (hn : n ≠ 0) :
    (10 : Rat) ^ (((Nat.toDigits 10 n).length : Int) - 1) ≤ n ∧
      (n : Rat) < 10 ^ ((Nat.toDigits 10 n).length : Int) := by
  have hspec := places_spec (d := ⟨n, 0⟩) hn
  simpa [places, toRat_eq] using hspec

/-- The exponent found for a rational is its decimal logarithm, rounded down. -/
theorem floorLog10_spec {q : Rat} (hq : 0 < q) :
    (10 : Rat) ^ floorLog10 q ≤ q ∧ q < 10 ^ (floorLog10 q + 1) := by
  have hnum : q.num.natAbs ≠ 0 := by
    have hpos := Rat.num_pos.mpr hq
    omega
  have hden : (0 : Rat) < q.den := by exact_mod_cast q.den_pos
  obtain ⟨hnlow, hnhigh⟩ := length_toDigits_bounds hnum
  obtain ⟨hdlow, hdhigh⟩ := length_toDigits_bounds q.den_ne_zero
  have hquotient := Double.quotient_num_den hq.le
  unfold floorLog10
  generalize ((Nat.toDigits 10 q.num.natAbs).length : Int) = a at hnlow hnhigh ⊢
  generalize ((Nat.toDigits 10 q.den).length : Int) = b at hdlow hdhigh ⊢
  have hbelow : (10 : Rat) ^ (a - b - 1) ≤ q := by
    rw [← hquotient, le_div_iff₀ hden]
    calc (10 : Rat) ^ (a - b - 1) * q.den ≤ 10 ^ (a - b - 1) * 10 ^ b := by gcongr
      _ = 10 ^ (a - 1) := by rw [← zpow_add₀ (by norm_num)]; ring_nf
      _ ≤ q.num.natAbs := hnlow
  have habove : q < 10 ^ (a - b + 1) := by
    rw [← hquotient, div_lt_iff₀ hden]
    calc (q.num.natAbs : Rat) < 10 ^ a := hnhigh
      _ = 10 ^ (a - b + 1) * 10 ^ (b - 1) := by rw [← zpow_add₀ (by norm_num)]; ring_nf
      _ ≤ 10 ^ (a - b + 1) * q.den := by gcongr
  dsimp only
  rw [tenPow_eq_zpow]
  by_cases h : (10 : Rat) ^ (a - b) ≤ q
  · rw [if_pos h]
    exact ⟨h, habove⟩
  · rw [if_neg h, sub_add_cancel]
    exact ⟨hbelow, not_le.mp h⟩

end Decimal

namespace Double

/-- Rounding to significant digits gives a number of these digits, or the power of ten above. -/
theorem significant_eq (count : Nat) {m : Nat} (exponent : Int) (hm : m ≠ 0) :
    ∃ unit : Int, unit + count = Decimal.floorLog10 (magnitude m exponent) + 1 ∧
      significant count m exponent =
        ⟨divNearest (magnitude m exponent / 10 ^ unit).num.natAbs
          (magnitude m exponent / 10 ^ unit).den, unit⟩ := by
  refine ⟨Decimal.floorLog10 (magnitude m exponent) + 1 - count, by omega, ?_⟩
  unfold significant
  rw [if_neg hm]
  dsimp only
  rw [Decimal.tenPow_eq_zpow]

/-- A number rounded to significant digits is as it was exactly when it needs no more digits. -/
theorem significant_toRat_eq_iff (count m : Nat) (exponent : Int) :
    (significant count m exponent).toRat = magnitude m exponent ↔
      HasDigits count (magnitude m exponent) := by
  by_cases hm : m = 0
  · have hzero : magnitude m exponent = 0 := by simp [magnitude, hm]
    have hrounded : (significant count m exponent).toRat = 0 := by
      rw [significant, if_pos hm]
      exact Decimal.toRat_eq_zero_iff.mpr rfl
    rw [hzero, hrounded]
    exact iff_of_true rfl (hasDigits_zero count)
  have hpos : 0 < magnitude m exponent := by
    have hmantissa : 0 < m := Nat.pos_of_ne_zero hm
    rw [magnitude, twoPow_eq_zpow]
    positivity
  obtain ⟨unit, hunit, hrounded⟩ := significant_eq count exponent hm
  obtain ⟨hlow, hhigh⟩ := Decimal.floorLog10_spec hpos
  generalize magnitude m exponent = q at *
  have htoRat : (significant count m exponent).toRat =
      (divNearest (q / 10 ^ unit).num.natAbs (q / 10 ^ unit).den : Rat) * 10 ^ unit := by
    rw [hrounded, Decimal.toRat_eq]
  rw [htoRat]
  constructor
  · intro heq
    refine ⟨_, unit, ?_, (abs_of_pos hpos).trans heq.symm⟩
    have hbound : (divNearest (q / 10 ^ unit).num.natAbs (q / 10 ^ unit).den : Rat) < 10 ^ count := by
      have hpower : (10 : Rat) ^ (Decimal.floorLog10 q + 1) = 10 ^ count * 10 ^ unit := by
        rw [← hunit, zpow_add₀ (by norm_num), zpow_natCast, mul_comm]
      rw [hpower] at hhigh
      have hproduct := heq.trans_lt hhigh
      exact lt_of_mul_lt_mul_right hproduct (by positivity)
    exact_mod_cast hbound
  · rintro ⟨digits, power, hfew, hvalue⟩
    rw [abs_of_pos hpos] at hvalue
    -- The unit is no larger than the power of ten behind the digits.
    have hle : unit ≤ power := by
      have hdigits : (digits : Rat) < 10 ^ count := by exact_mod_cast hfew
      have hpower : q < 10 ^ (count + power) := by
        calc q = digits * 10 ^ power := hvalue
          _ < 10 ^ count * 10 ^ power := by gcongr
          _ = 10 ^ (count + power) := by rw [zpow_add₀ (by norm_num), zpow_natCast]
      have hlog : Decimal.floorLog10 q < count + power :=
        (zpow_lt_zpow_iff_right₀ (by norm_num)).mp (lt_of_le_of_lt hlow hpower)
      omega
    obtain ⟨zeros, hzeros⟩ := Int.eq_ofNat_of_zero_le (a := power - unit) (by omega)
    have hscaled : q / 10 ^ unit = ((digits * 10 ^ zeros : Nat) : Rat) := by
      obtain rfl : power = unit + zeros := by omega
      rw [div_eq_iff (by positivity), hvalue, zpow_add₀ (by norm_num), zpow_natCast]
      push_cast
      ring
    rw [divNearest_exact (by positivity) hscaled, ← hscaled, div_mul_cancel₀ _ (by positivity)]

end Double

end Wireframe

import Mathlib.Algebra.Order.Field.Power
import Mathlib.Algebra.Order.Field.Rat
import Mathlib.Tactic.FieldSimp
import Mathlib.Tactic.Linarith
import Mathlib.Tactic.NormNum
import Mathlib.Tactic.Positivity
import Mathlib.Tactic.Ring
import Wireframe.Double.Decimal

/-! # Rounding what needs no rounding

A rational that the format can store is its own nearest double. The exponent of the result is the
floor of a binary logarithm, which `floorLog2_spec` pins down; the mantissa is then a quotient
without a rest.
-/

namespace Wireframe

/-! ## Powers with integer exponents -/

theorem power_eq_zpow (base : Nat) (exponent : Int) :
    (if 0 ≤ exponent then (Nat.pow base exponent.toNat : Rat)
      else mkRat 1 (Nat.pow base (-exponent).toNat)) = (base : Rat) ^ exponent := by
  split
  · next h =>
    obtain ⟨n, rfl⟩ := Int.eq_ofNat_of_zero_le h
    simp
  · next h =>
    obtain ⟨n, hn⟩ := Int.eq_ofNat_of_zero_le (a := -exponent) (by omega)
    obtain rfl : exponent = -(n : Int) := by omega
    simp [Rat.mkRat_eq_div]

theorem Double.twoPow_eq_zpow (exponent : Int) : twoPow exponent = (2 : Rat) ^ exponent :=
  power_eq_zpow 2 exponent

theorem Decimal.tenPow_eq_zpow (exponent : Int) : tenPow exponent = (10 : Rat) ^ exponent :=
  power_eq_zpow 10 exponent

theorem le_divNearest {n d m : Nat} (hd : 0 < d) (h : m * d ≤ n) : m ≤ divNearest n d := by
  have hquotient : m ≤ n / d := (Nat.le_div_iff_mul_le hd).mpr h
  unfold divNearest
  dsimp only
  split
  · exact hquotient
  · split
    · omega
    · omega

theorem divNearest_le {n d m : Nat} (hd : 0 < d) (h : n ≤ m * d) : divNearest n d ≤ m := by
  have hquotient : n / d ≤ m := Nat.div_le_of_le_mul (by rwa [Nat.mul_comm] at h)
  have hsplit := Nat.div_add_mod n d
  unfold divNearest
  dsimp only
  by_cases hexact : n / d = m
  · have hrest : n % d = 0 := by
      rw [hexact, Nat.mul_comm] at hsplit
      omega
    rw [hrest, if_pos (by omega)]
    exact hquotient
  · split
    · exact hquotient
    · split
      · omega
      · omega

namespace Double

theorem reaches_iff {n d : Nat} (hd : 0 < d) (exponent : Int) :
    (if 0 ≤ exponent then decide (d * Nat.pow 2 exponent.toNat ≤ n)
      else decide (d ≤ n * Nat.pow 2 (-exponent).toNat)) = true ↔
      (2 : Rat) ^ exponent ≤ (n : Rat) / d := by
  have hpos : (0 : Rat) < d := by exact_mod_cast hd
  by_cases h : 0 ≤ exponent
  · obtain ⟨k, rfl⟩ := Int.eq_ofNat_of_zero_le h
    rw [if_pos h, decide_eq_true_iff, le_div_iff₀ hpos, zpow_natCast, Int.toNat_natCast,
      Nat.mul_comm]
    exact_mod_cast Iff.rfl
  · obtain ⟨k, hk⟩ := Int.eq_ofNat_of_zero_le (a := -exponent) (by omega)
    rw [if_neg h, decide_eq_true_iff, hk, Int.toNat_natCast]
    obtain rfl : exponent = -(k : Int) := by omega
    rw [zpow_neg, zpow_natCast, le_div_iff₀ hpos, inv_mul_le_iff₀ (by positivity), mul_comm]
    exact_mod_cast Iff.rfl

theorem log2_bounds {n : Nat} (hn : 0 < n) :
    (2 : Rat) ^ (n.log2 : Int) ≤ n ∧ (n : Rat) < 2 ^ ((n.log2 : Int) + 1) := by
  constructor
  · rw [zpow_natCast]
    exact_mod_cast Nat.log2_self_le (by omega)
  · have h : n < 2 ^ (n.log2 + 1) := Nat.lt_log2_self
    exact_mod_cast h

/-- The exponent found for a quotient is its binary logarithm, rounded down. -/
theorem floorLog2_spec {n d : Nat} (hn : 0 < n) (hd : 0 < d) :
    (2 : Rat) ^ floorLog2 n d ≤ (n : Rat) / d ∧ (n : Rat) / d < 2 ^ (floorLog2 n d + 1) := by
  obtain ⟨hnlow, hnhigh⟩ := log2_bounds hn
  obtain ⟨hdlow, hdhigh⟩ := log2_bounds hd
  have hd' : (0 : Rat) < d := by exact_mod_cast hd
  have hbelow : (2 : Rat) ^ ((n.log2 : Int) - d.log2 - 1) ≤ (n : Rat) / d := by
    rw [le_div_iff₀ hd']
    calc (2 : Rat) ^ ((n.log2 : Int) - d.log2 - 1) * d
        ≤ 2 ^ ((n.log2 : Int) - d.log2 - 1) * 2 ^ ((d.log2 : Int) + 1) := by gcongr
      _ = 2 ^ (n.log2 : Int) := by rw [← zpow_add₀ (by norm_num)]; ring_nf
      _ ≤ n := hnlow
  have habove : (n : Rat) / d < 2 ^ ((n.log2 : Int) - d.log2 + 1) := by
    rw [div_lt_iff₀ hd']
    calc (n : Rat) < 2 ^ ((n.log2 : Int) + 1) := hnhigh
      _ = 2 ^ ((n.log2 : Int) - d.log2 + 1) * 2 ^ (d.log2 : Int) := by
          rw [← zpow_add₀ (by norm_num)]; ring_nf
      _ ≤ 2 ^ ((n.log2 : Int) - d.log2 + 1) * d := by gcongr
  unfold floorLog2
  dsimp only
  by_cases h : (2 : Rat) ^ ((n.log2 : Int) - d.log2) ≤ (n : Rat) / d
  · rw [if_pos ((reaches_iff hd _).mpr h)]
    exact ⟨h, habove⟩
  · rw [if_neg (mt (reaches_iff hd _).mp h)]
    refine ⟨hbelow, ?_⟩
    rw [sub_add_cancel]
    exact not_le.mp h

theorem floorLog2_eq {n d : Nat} {exponent : Int} (hn : 0 < n) (hd : 0 < d)
    (hlow : (2 : Rat) ^ exponent ≤ (n : Rat) / d) (hhigh : (n : Rat) / d < 2 ^ (exponent + 1)) :
    floorLog2 n d = exponent := by
  obtain ⟨hfloor, hceil⟩ := floorLog2_spec hn hd
  have h₁ : exponent < floorLog2 n d + 1 :=
    (zpow_lt_zpow_iff_right₀ (by norm_num)).mp (lt_of_le_of_lt hlow hceil)
  have h₂ : floorLog2 n d < exponent + 1 :=
    (zpow_lt_zpow_iff_right₀ (by norm_num)).mp (lt_of_le_of_lt hfloor hhigh)
  omega

theorem unitsNearest_eq {n d : Nat} (hd : 0 < d) (exponent : Int) :
    ∃ n' d', 0 < d' ∧ unitsNearest n d exponent = divNearest n' d' ∧
      (n : Rat) / d = (n' : Rat) / d' * 2 ^ exponent := by
  have hd' : (d : Rat) ≠ 0 := by exact_mod_cast hd.ne'
  unfold unitsNearest
  by_cases hsign : 0 ≤ exponent
  · obtain ⟨k, rfl⟩ := Int.eq_ofNat_of_zero_le hsign
    refine ⟨n, d * 2 ^ k, Nat.mul_pos hd (by positivity), by rw [if_pos hsign]; rfl, ?_⟩
    push_cast
    rw [zpow_natCast]
    field_simp
  · obtain ⟨k, hk⟩ := Int.eq_ofNat_of_zero_le (a := -exponent) (by omega)
    obtain rfl : exponent = -(k : Int) := by omega
    refine ⟨n * 2 ^ k, d, hd, by rw [if_neg hsign, hk]; rfl, ?_⟩
    push_cast
    rw [zpow_neg, zpow_natCast]
    field_simp

theorem le_unitsNearest {n d m : Nat} {exponent : Int} (hd : 0 < d)
    (h : (m : Rat) * 2 ^ exponent ≤ (n : Rat) / d) :
    m ≤ unitsNearest n d exponent := by
  obtain ⟨n', d', hd', hunits, heq⟩ := unitsNearest_eq (n := n) hd exponent
  have hpos : (0 : Rat) < d' := by exact_mod_cast hd'
  rw [heq, mul_le_mul_iff_left₀ (by positivity), le_div_iff₀ hpos] at h
  rw [hunits]
  exact le_divNearest hd' (by exact_mod_cast h)

theorem unitsNearest_le {n d m : Nat} {exponent : Int} (hd : 0 < d)
    (h : (n : Rat) / d ≤ m * 2 ^ exponent) :
    unitsNearest n d exponent ≤ m := by
  obtain ⟨n', d', hd', hunits, heq⟩ := unitsNearest_eq (n := n) hd exponent
  have hpos : (0 : Rat) < d' := by exact_mod_cast hd'
  rw [heq, mul_le_mul_iff_left₀ (by positivity), div_le_iff₀ hpos] at h
  rw [hunits]
  exact divNearest_le hd' (by exact_mod_cast h)

theorem unitsNearest_exact {n d m : Nat} {exponent : Int} (hd : 0 < d)
    (h : (n : Rat) / d = m * 2 ^ exponent) : unitsNearest n d exponent = m :=
  Nat.le_antisymm (unitsNearest_le hd h.le) (le_unitsNearest hd h.ge)

theorem pack_of_stored {negative : Bool} {m : Nat} {exponent : Int} (stored : Stored m exponent) :
    pack negative m exponent = .finite negative m exponent stored := by
  unfold pack
  rw [dif_pos stored]

/-- The unit of the format in which a stored number is counted. -/
theorem exponent_of_stored {n d m : Nat} {exponent : Int} (stored : Stored m exponent)
    (hm : 0 < m) (hd : 0 < d) (h : (n : Rat) / d = m * 2 ^ exponent) :
    max (-1074) (floorLog2 n d - 52) = exponent := by
  obtain ⟨hbelow, hleast, -, hnormal⟩ := stored
  have hn : 0 < n := by
    rcases Nat.eq_zero_or_pos n with rfl | hn
    · have : (0 : Rat) < m * 2 ^ exponent := by positivity
      simp [← h] at this
    · exact hn
  have hhigh : (n : Rat) / d < 2 ^ (exponent + 53) := by
    have : (m : Rat) < 2 ^ 53 := by exact_mod_cast hbelow
    calc (n : Rat) / d = m * 2 ^ exponent := h
      _ < 2 ^ 53 * 2 ^ exponent := by gcongr
      _ = 2 ^ (exponent + 53) := by rw [zpow_add₀ (by norm_num)]; norm_num; ring
  rcases hnormal with hnormal | rfl
  · have hlow : (2 : Rat) ^ (exponent + 52) ≤ (n : Rat) / d := by
      have : (2 : Rat) ^ 52 ≤ m := by exact_mod_cast hnormal
      calc (2 : Rat) ^ (exponent + 52) = 2 ^ 52 * 2 ^ exponent := by
            rw [zpow_add₀ (by norm_num)]; norm_num; ring
        _ ≤ m * 2 ^ exponent := by gcongr
        _ = (n : Rat) / d := h.symm
    have hfloor := floorLog2_eq hn hd hlow (by rw [add_assoc]; exact hhigh)
    omega
  · have hfloor : floorLog2 n d < -1074 + 53 :=
      (zpow_lt_zpow_iff_right₀ (by norm_num)).mp
        (lt_of_le_of_lt (floorLog2_spec hn hd).1 hhigh)
    omega

/-- What the format can store is rounded to itself. -/
theorem ofQuotient_exact {negative : Bool} {n d m : Nat} {exponent : Int}
    (stored : Stored m exponent) (hm : 0 < m) (hd : 0 < d)
    (h : (n : Rat) / d = m * 2 ^ exponent) :
    ofQuotient negative n d = .finite negative m exponent stored := by
  have hn : n ≠ 0 := by
    rintro rfl
    have : (0 : Rat) < m * 2 ^ exponent := by positivity
    simp [← h] at this
  have hm' : m ≠ Nat.pow 2 53 := Nat.ne_of_lt stored.1
  unfold ofQuotient
  rw [if_neg hn]
  dsimp only
  rw [exponent_of_stored stored hm hd h, unitsNearest_exact hd h, if_neg hm']
  exact pack_of_stored stored

end Double

end Wireframe

import Wireframe.Metrics.Basic
import Wireframe.Proofs.Flow.Coordinates

/-! # Counts

What a report does to a collector: the counters it names go up by the amounts it gives, and every
other one stays. Flow edges are added as doubles, without loss as long as the sum has a double.
-/

namespace Wireframe

namespace Double

variable {x : Double} {m n : Nat}

theorem ofInt_natCast_toRat? (h : n < 2 ^ 53) : (ofInt n).toRat? = some (n : Rat) := by
  rw [ofInt_toRat? (Int.natAbs_natCast n ▸ h), Int.cast_natCast]

theorem ofRat_natCast_toRat? (h : n < 2 ^ 53) (negative : Bool) :
    (ofRat n negative).toRat? = some (n : Rat) := by
  cases n with
  | zero => exact (isZero_iff _).mp (ofRat_zero_isZero negative)
  | succ n =>
      have hint : ofRat (n + 1 : Nat) negative = ofInt (n + 1 : Nat) := by
        rw [ofRat, ofInt, Rat.num_natCast, Rat.den_natCast, if_neg (by omega)]
      rw [hint, ofInt_natCast_toRat? h]

/-- A whole number added to a whole number is their sum, as long as that has at most 53 bits. -/
theorem add_ofInt_toRat? (hx : x.toRat? = some (m : Rat)) (h : m + n < 2 ^ 53) :
    (x + ofInt n).toRat? = some ((m + n : Nat) : Rat) := by
  have hn : (ofInt n).toRat? = some (n : Rat) := ofInt_natCast_toRat? (by omega)
  rw [add_of_toRat? hx hn, ← Nat.cast_add, ofRat_natCast_toRat? h]

end Double

section

variable {κ β : Type} [DecidableEq κ]

theorem lookup_cons_eq_ite (k key : κ) (v : β) (rest : List (κ × β)) :
    ((k, v) :: rest).lookup key = if k = key then some v else rest.lookup key := by
  rw [List.lookup_cons]
  by_cases h : k = key
  · rw [if_pos h, beq_iff_eq.mpr h.symm]
  · rw [if_neg h, beq_eq_false_iff_ne.mpr (Ne.symm h)]

theorem lookup_updateAt (key key' : κ) (start : β) (f : β → β) (table : List (κ × β)) :
    (updateAt key start f table).lookup key' =
      if key = key' then some (f ((table.lookup key).getD start)) else table.lookup key' := by
  induction table with
  | nil => rw [updateAt, lookup_cons_eq_ite, List.lookup_nil, List.lookup_nil, Option.getD_none]
  | cons entry rest ih =>
      obtain ⟨k, v⟩ := entry
      rw [updateAt, lookup_cons_eq_ite, lookup_cons_eq_ite]
      by_cases hk : k = key
      · subst hk
        rw [if_pos rfl, if_pos rfl, lookup_cons_eq_ite, Option.getD_some]
        split <;> rfl
      · rw [if_neg hk, if_neg hk, lookup_cons_eq_ite, ih]
        by_cases h : k = key'
        · rw [if_pos h, if_pos h, if_neg fun hkey => hk (h.trans hkey.symm)]
        · rw [if_neg h, if_neg h]

end

namespace Collector

/-! ## Single counts -/

theorem count_increment (collector : Collector) (key key' : SampleKey) :
    (collector.increment key).count key' =
      collector.count key' + if key = key' then 1 else 0 := by
  unfold count increment
  rw [lookup_updateAt]
  by_cases h : key = key'
  · subst h
    rw [if_pos rfl, if_pos rfl, Option.getD_some]
  · rw [if_neg h, if_neg h, Nat.add_zero]

theorem passKey_inj {target status target' status' : String} :
    passKey target status = passKey target' status' ↔ target = target' ∧ status = status' := by
  simp [passKey]

theorem planKey_inj {target kind target' kind' : String} :
    planKey target kind = planKey target' kind' ↔ target = target' ∧ kind = kind' := by
  simp [planKey]

theorem fallbackKey_inj {type type' : String} :
    fallbackKey type = fallbackKey type' ↔ typeLabel type = typeLabel type' := by
  simp [fallbackKey]

@[simp] theorem planKey_ne_passKey (target kind pass status : String) :
    planKey target kind ≠ passKey pass status := by
  simp [planKey, passKey]

@[simp] theorem planKey_ne_fallbackKey (target kind type : String) :
    planKey target kind ≠ fallbackKey type := by
  simp [planKey, fallbackKey]

@[simp] theorem fallbackKey_ne_passKey (type pass status : String) :
    fallbackKey type ≠ passKey pass status := by
  simp [fallbackKey, passKey]

@[simp] theorem errorKey_ne_passKey (type component pass status : String) :
    errorKey type component ≠ passKey pass status := by
  simp [errorKey, passKey]

/-! ## Flow edges -/

/-- The edges counted under an outcome; a counter that was not touched counts none. -/
def edgeCount (collector : Collector) (outcome : String) : Double :=
  (collector.edges.lookup (edgeKey outcome)).getD 0

variable {before after : Collector} {outcome : String} {amount : Nat}

theorem edgeKey_inj {a b : String} : edgeKey a = edgeKey b ↔ a = b := by
  simp [edgeKey]

theorem edgeCount_empty (outcome : String) :
    (({} : Collector).edgeCount outcome).toRat? = some ((0 : Nat) : Rat) := by
  show (Double.ofInt (0 : Nat)).toRat? = _
  exact Double.ofInt_natCast_toRat? (by norm_num)

/-- A whole amount of edges goes to the counter of its outcome, which nothing at all leaves as it
is. -/
theorem edgeCount_addEdges (collector : Collector) (outcome other : String) (amount : Nat) :
    (collector.addEdges outcome (.ofInt amount)).edgeCount other =
      if outcome = other ∧ amount ≠ 0 then collector.edgeCount other + .ofInt amount
      else collector.edgeCount other := by
  unfold addEdges
  by_cases hzero : amount = 0
  · rw [if_pos ((Double.ofInt_isZero _).mpr (congrArg Nat.cast hzero)),
      if_neg fun h => h.2 hzero]
  · rw [if_neg fun h => hzero (Int.natCast_eq_zero.mp ((Double.ofInt_isZero _).mp h))]
    unfold edgeCount
    rw [lookup_updateAt]
    simp only [edgeKey_inj, and_iff_left hzero]
    by_cases h : outcome = other
    · subst h
      rw [if_pos rfl, if_pos rfl, Option.getD_some]
    · rw [if_neg h, if_neg h]

@[simp] theorem counts_addEdges (collector : Collector) (outcome : String) (amount : Double) :
    (collector.addEdges outcome amount).counts = collector.counts := by
  unfold addEdges
  split <;> rfl

@[simp] theorem durations_addEdges (collector : Collector) (outcome : String) (amount : Double) :
    (collector.addEdges outcome amount).durations = collector.durations := by
  unfold addEdges
  split <;> rfl

theorem count_recordEdges (collector : Collector) (routed dropped : Nat) (key : SampleKey) :
    (collector.recordEdges routed dropped).count key = collector.count key := by
  unfold count recordEdges
  rw [counts_addEdges, counts_addEdges]

/-- The counter of an outcome goes up by a number of edges, exactly as long as doubles have all the
integers up to the sum. -/
structure CountsUp (before after : Collector) (outcome : String) (amount : Nat) : Prop where
  sum : after.edgeCount outcome =
    if amount = 0 then before.edgeCount outcome else before.edgeCount outcome + .ofInt amount
  exact : ∀ n : Nat, (before.edgeCount outcome).toRat? = some (n : Rat) → n + amount < 2 ^ 53 →
    (after.edgeCount outcome).toRat? = some ((n + amount : Nat) : Rat)

theorem countsUp_of_sum (sum : after.edgeCount outcome =
      if amount = 0 then before.edgeCount outcome else before.edgeCount outcome + .ofInt amount) :
    before.CountsUp after outcome amount where
  sum := sum
  exact n hn hsmall := by
    rw [sum]
    split
    · next hzero => rw [hn, hzero, Nat.add_zero]
    · exact Double.add_ofInt_toRat? hn hsmall

/-- What one routing pass reports: both outcomes count up, and nothing else changes. -/
structure ReportsEdges (before after : Collector) (routed dropped : Nat) : Prop where
  routed : before.CountsUp after "routed" routed
  dropped : before.CountsUp after "dropped" dropped
  others : ∀ outcome, outcome ≠ "routed" → outcome ≠ "dropped" →
    after.edgeCount outcome = before.edgeCount outcome
  counts : after.counts = before.counts
  durations : after.durations = before.durations

theorem recordEdges_reports (collector : Collector) (routed dropped : Nat) :
    collector.ReportsEdges (collector.recordEdges routed dropped) routed dropped where
  routed := countsUp_of_sum (by
    unfold recordEdges
    rw [edgeCount_addEdges, edgeCount_addEdges]
    simp)
  dropped := countsUp_of_sum (by
    unfold recordEdges
    rw [edgeCount_addEdges, edgeCount_addEdges]
    simp)
  others outcome hrouted hdropped := by
    unfold recordEdges
    rw [edgeCount_addEdges, edgeCount_addEdges, if_neg fun h => hdropped h.1.symm,
      if_neg fun h => hrouted h.1.symm]
  counts := by simp [recordEdges]
  durations := by simp [recordEdges]

end Collector

end Wireframe

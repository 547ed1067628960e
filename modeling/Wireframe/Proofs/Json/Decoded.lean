import Wireframe.Json.Encode
import Wireframe.Json.Extract
import Wireframe.Proofs.Json.Sound
import Wireframe.Proofs.Outcome

/-! # What is decoded is sound

The objects of a decoded value have each key once, and its integers have no more digits than are
written. That is an invariant of every step of the reader: tables are built by `Members.put`, and an
integer is read from digits that were counted. Whatever a response was repaired to is read by the
same reader, so that its object is sound as well.
-/

namespace Wireframe

/-- Whether a number is one that is read and written: an integer of not too many digits. -/
def Number.IsWritable : Number → Prop
  | .int n => Text.isWritable n = true
  | .double _ => True

namespace Json

theorem ofDigitChars_lt {digits : List Char} (h : ∀ c ∈ digits, c.isDigit = true) :
    Nat.ofDigitChars 10 digits 0 < Nat.pow 10 digits.length := by
  induction digits with
  | nil => decide
  | cons c digits ih =>
      rw [List.forall_mem_cons] at h
      have hrest := ih h.2
      have hc : c.toNat - '0'.toNat ≤ 9 := by
        have hdigit := h.1
        simp only [Char.isDigit, Bool.and_eq_true, decide_eq_true_eq, ge_iff_le,
          UInt32.le_iff_toNat_le] at hdigit
        have : c.toNat ≤ 57 := hdigit.2
        have : '0'.toNat = 48 := rfl
        omega
      rw [Nat.ofDigitChars_cons, Nat.ofDigitChars_eq_ofDigitChars_zero, Nat.mul_zero, Nat.zero_add]
      rw [Nat.pow_eq] at hrest ⊢
      rw [List.length_cons, Nat.pow_succ]
      have := Nat.mul_le_mul_left (10 ^ digits.length) hc
      omega

theorem ofDigitChars_lt_pow {digits : List Char} (h : ∀ c ∈ digits, c.isDigit = true) {k : Nat}
    (hk : digits.length ≤ k) : Nat.ofDigitChars 10 digits 0 < Nat.pow 10 k :=
  Nat.lt_of_lt_of_le (ofDigitChars_lt h) (Nat.pow_le_pow_right (by decide) hk)

theorem wholeNumber_isWritable {digits : List Char} (h : ∀ c ∈ digits, c.isDigit = true)
    (hlength : digits.length ≤ Text.maxIntegerDigits) (negative : Bool) :
    (wholeNumber negative digits).IsWritable := by
  have hlt := ofDigitChars_lt_pow h hlength
  dsimp only [wholeNumber, Number.IsWritable]
  rw [Text.isWritable_iff]
  cases negative with
  | false => rwa [if_neg Bool.false_ne_true, Int.natAbs_natCast]
  | true => rwa [if_pos rfl, Int.natAbs_neg, Int.natAbs_natCast]

theorem isDigit_of_mem_spanDigits {s : List Char} : ∀ c ∈ (spanDigits s).1, c.isDigit = true :=
  List.all_eq_true.mp List.all_takeWhile

variable {dialect : Dialect} {s : List Char}

theorem readMagnitude_isWritable {negative : Bool} {n : Number} {rest : List Char}
    (h : readMagnitude dialect negative s = .ok (n, rest)) : n.IsWritable := by
  unfold readMagnitude at h
  dsimp only at h
  split at h
  · cases h
  · split at h
    · cases h
    · split at h
      · cases h
      · next hlength =>
        cases h
        rw [decide_eq_true_eq, Nat.not_lt] at hlength
        exact wholeNumber_isWritable isDigit_of_mem_spanDigits hlength negative
    · split at h
      · cases h
        exact trivial
      · cases h

theorem readNumber_isWritable {n : Number} {rest : List Char}
    (h : readNumber dialect s = .ok (n, rest)) : n.IsWritable := by
  unfold readNumber at h
  split at h
  · cases h; exact trivial
  · cases h; exact trivial
  · cases h; exact trivial
  · exact readMagnitude_isWritable h
  · exact readMagnitude_isWritable h

/-- Whatever the strict readers return is sound. -/
theorem read_sound (dialect : Dialect) (fuel : Nat) :
    (∀ s r, readValue dialect fuel s = .ok r → r.1.Sound Number.IsWritable) ∧
      (∀ s r, readItems dialect fuel s = .ok r → ∀ v ∈ r.1, v.Sound Number.IsWritable) ∧
      (∀ s r, readMembers dialect fuel s = .ok r →
        ∀ entry ∈ r.1, entry.2.Sound Number.IsWritable) := by
  induction fuel with
  | zero => exact ⟨nofun, nofun, nofun⟩
  | succ fuel ih =>
      obtain ⟨hvalue, hitems, hmembers⟩ := ih
      refine ⟨?_, ?_, ?_⟩
      · intro s r h
        rw [readValue.eq_def] at h
        dsimp only at h
        split at h
        · split at h
          · cases h
            exact .object List.nodup_nil (by simp)
          · obtain ⟨r, hr, rfl⟩ := Except.map_ok_iff.mp h
            have table := Members.sound_ofEntries (hmembers _ r hr)
            exact .object table.keys table.below
        · split at h
          · cases h
            exact .list (by simp)
          · obtain ⟨r, hr, rfl⟩ := Except.map_ok_iff.mp h
            exact .list (hitems _ r hr)
        · obtain ⟨r, _, rfl⟩ := Except.map_ok_iff.mp h
          exact .string _
        · cases h; exact .null
        · cases h; exact .bool _
        · cases h; exact .bool _
        · obtain ⟨r, hr, rfl⟩ := Except.map_ok_iff.mp h
          exact .number (readNumber_isWritable hr)
      · intro s r h
        rw [readItems.eq_def] at h
        dsimp only at h
        split at h
        · cases h
        · next hitem =>
          have hfirst := hvalue _ _ hitem
          split at h
          · obtain ⟨r, hr, rfl⟩ := Except.map_ok_iff.mp h
            exact List.forall_mem_cons.mpr ⟨hfirst, hitems _ r hr⟩
          · cases h
            exact List.forall_mem_singleton.mpr hfirst
          · cases h
      · intro s r h
        rw [readMembers.eq_def] at h
        dsimp only at h
        split at h
        · next heq =>
          obtain rfl := Nat.succ.inj heq
          split at h
          · cases h
          · split at h
            · split at h
              · cases h
              · next hread =>
                have hfirst := hvalue _ _ hread
                split at h
                · obtain ⟨r, hr, rfl⟩ := Except.map_ok_iff.mp h
                  exact List.forall_mem_cons.mpr ⟨hfirst, hmembers _ r hr⟩
                · cases h
                  exact List.forall_mem_singleton.mpr hfirst
                · cases h
            · cases h
        · cases h

theorem decode_sound {text : String} {v : Value} (h : decode dialect text = .ok v) :
    v.Sound Number.IsWritable := by
  unfold decode decodeChars at h
  split at h
  · cases h
  · next hread =>
    split at h
    · cases h
      exact (read_sound dialect _).1 _ _ hread
    · cases h

theorem members_ok_iff {v : Value} {members : Members} :
    Json.members v = .ok members ↔ v = .object members := by
  cases v <;> simp [Json.members]

theorem readRepaired_ok_iff {repaired : Option String} {v : Value} :
    readRepaired repaired = .ok v ↔ ∃ text, repaired = some text ∧ decode .extended text = .ok v := by
  cases repaired with
  | none => simp [readRepaired]
  | some text => simp [readRepaired, Except.mapError_ok_iff]

/-- The object of a response is a sound table, whatever the text was repaired to. -/
theorem extract_sound {repair : Repairer} {text : String} {lenient : Bool} {members : Members}
    (h : extract repair text lenient = .ok members) : members.Sound Number.IsWritable := by
  have hsound : ∀ {dialect text} {v : Value}, decode dialect text = .ok v →
      Json.members v = .ok members → members.Sound Number.IsWritable := by
    intro dialect text v hv hmembers
    rw [members_ok_iff] at hmembers
    have sound := decode_sound hv
    rw [hmembers] at sound
    cases sound with
    | object keys below => exact ⟨keys, below⟩
  unfold extract at h
  split at h
  · cases h
  split at h
  · next hdecode => exact hsound hdecode h
  split at h
  · obtain ⟨v, hv, hmembers⟩ := Except.bind_ok_iff.mp h
    obtain ⟨repaired, -, hdecode⟩ := readRepaired_ok_iff.mp hv
    exact hsound hdecode hmembers
  · cases h

end Json

/-! ## Sound values are written -/

namespace Value

theorem isWritable_of_sound {v : Value} (sound : v.Sound Number.IsWritable) :
    v.isWritable = true := by
  unfold isWritable
  induction sound with
  | null => rfl
  | bool b => rfl
  | @number n holds =>
      cases n with
      | int n => rw [allIntegers]; exact holds
      | double x => rfl
  | string s => rfl
  | list _ ih => rw [allIntegers, allIntegersIn_eq_all, List.all_eq_true]; exact ih
  | object _ _ ih => rw [allIntegers, allIntegersAmong_eq_all, List.all_eq_true]; exact ih

end Value

theorem Json.dump_of_sound {v : Value} (sound : v.Sound Number.IsWritable) (indent : Int) :
    dump v indent = .ok (encode (formatFor indent v) v) := by
  rw [dump, if_pos (Value.isWritable_of_sound sound)]

theorem Number.isWritable_of_isZero {n : Number} (h : n.isZero = true) : n.IsWritable := by
  cases n with
  | int n =>
      obtain rfl : n = 0 := by simpa [isZero] using h
      exact Text.isWritable_zero
  | double x => trivial

end Wireframe

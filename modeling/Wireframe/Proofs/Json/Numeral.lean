import Wireframe.Json.Decode
import Wireframe.Json.Encode
import Wireframe.Proofs.Double.ReadBack

/-! # Numbers that are written and read

The numeral that a style writes for a decimal is read part by part and has the value of the decimal,
whichever of the four forms it takes: below one, integral, with a fraction, or with an exponent. With
`Double.ofDecimal_shortest` it follows that every number is read as it was written.
-/

namespace Wireframe

open Json

namespace Json

/-- No character that could belong to a numeral stands in front. -/
def EndsNumeral (rest : List Char) : Prop :=
  ∀ c ∈ rest.head?, c.isDigit = false ∧ c ≠ '.' ∧ c ≠ 'e' ∧ c ≠ 'E'

structure IsDigits (digits : List Char) : Prop where
  digit : ∀ c ∈ digits, c.isDigit = true
  nonempty : digits ≠ []

variable {digits fraction rest : List Char}

theorem spanDigits_append (hdigits : ∀ c ∈ digits, c.isDigit = true)
    (hrest : ∀ c ∈ rest.head?, c.isDigit = false) :
    spanDigits (digits ++ rest) = (digits, rest) := by
  unfold spanDigits
  rw [List.takeWhile_append_of_pos hdigits, List.dropWhile_append_of_pos hdigits]
  cases rest with
  | nil => simp
  | cons c rest => simp [hrest c rfl]

theorem IsDigits.append (h : IsDigits digits) {more : List Char}
    (hmore : ∀ c ∈ more, c.isDigit = true) : IsDigits (digits ++ more) := by
  refine ⟨?_, by simp [h.nonempty]⟩
  intro c hc
  rcases List.mem_append.mp hc with hc | hc
  · exact h.digit c hc
  · exact hmore c hc

theorem isDigit_of_mem_zeros {n : Nat} : ∀ c ∈ List.replicate n '0', c.isDigit = true := by
  intro c hc
  rw [List.eq_of_mem_replicate hc]
  rfl

theorem isDigits_toDigits (n : Nat) : IsDigits (Nat.toDigits 10 n) :=
  ⟨fun _ hc => Nat.isDigit_of_mem_toDigits (by decide) (by decide) hc, Nat.toDigits_ne_nil⟩

/-! ## Parts of a numeral -/

theorem readFraction_point (h : IsDigits fraction)
    (hrest : ∀ c ∈ rest.head?, c.isDigit = false) :
    readFraction ('.' :: (fraction ++ rest)) = some (some fraction, rest) := by
  simp [readFraction, spanDigits_append h.digit hrest, h.nonempty]

theorem readFraction_of_ne (hrest : ∀ c ∈ rest.head?, c ≠ '.') :
    readFraction rest = some (none, rest) := by
  unfold readFraction
  split
  · exact absurd rfl (hrest _ rfl)
  · rfl

theorem readExponent_of_ends (hrest : EndsNumeral rest) :
    readExponent rest = some (none, rest) := by
  unfold readExponent
  split
  · exact absurd rfl (hrest _ rfl).2.2.1
  · exact absurd rfl (hrest _ rfl).2.2.2
  · rfl

/-- An exponent with its sign is the integer that it spells. -/
theorem readExponentDigits_sign (h : IsDigits digits) (hrest : EndsNumeral rest)
    (negative : Bool) :
    readExponentDigits ((if negative then '-' else '+') :: (digits ++ rest)) =
      some (if negative then -(Nat.ofDigitChars 10 digits 0 : Int)
        else Nat.ofDigitChars 10 digits 0, rest) := by
  have hspan := spanDigits_append h.digit fun c hc => (hrest c hc).1
  cases negative
  all_goals simp [readExponentDigits, hspan, h.nonempty]

theorem readTail_of_parts {tail after : List Char} {point : Option (List Char)}
    {exponent : Option Int} (hpoint : readFraction tail = some (point, after))
    (hexponent : readExponent after = some (exponent, rest)) :
    readTail tail = some ((point, exponent), rest) := by
  simp [readTail, hpoint, hexponent]

/-- A numeral with a fraction or an exponent is read as the decimal of its parts. -/
theorem readMagnitude_of_tail {tail : List Char} {point : Option (List Char)}
    {exponent : Option Int} (h : IsDigits digits)
    (hzero : digits.length ≠ 1 → digits.head? ≠ some '0')
    (hhead : ∀ c ∈ tail.head?, c.isDigit = false)
    (htail : readTail tail = some ((point, exponent), rest))
    (hparts : point.isSome = true ∨ exponent.isSome = true) (dialect : Dialect) (negative : Bool) :
    readMagnitude dialect negative (digits ++ tail) =
      (let number := fractionalNumber negative digits (point.getD []) (exponent.getD 0)
       if dialect.admits number then .ok (number, rest) else .error .malformed) := by
  have hfirst : (digits.isEmpty || (digits.length != 1 && digits.head? == some '0')) = false := by
    simp only [Bool.or_eq_false_iff, List.isEmpty_eq_false_iff, Bool.and_eq_false_imp, bne_iff_ne,
      beq_eq_false_iff_ne]
    exact ⟨h.nonempty, hzero⟩
  unfold readMagnitude
  rw [spanDigits_append h.digit hhead]
  simp only [hfirst, htail]
  cases point with
  | some point => rfl
  | none =>
      cases exponent with
      | some exponent => rfl
      | none => simp at hparts

end Json

namespace NumberStyle

variable {d : Decimal}

/-! ## Digits of a decimal -/

theorem head?_toDigits_ne {n : Nat} (hn : n ≠ 0) : (Nat.toDigits 10 n).head? ≠ some '0' := by
  induction n using Nat.strongRecOn with
  | ind n ih =>
      rw [Nat.toDigits_eq_if (by decide)]
      split
      · simpa using hn
      · rw [List.head?_append_of_ne_nil _ Nat.toDigits_ne_nil]
        exact ih (n / 10) (by omega) (by omega)

theorem digitsOf_of_eq_zero (hd : d.digits = 0) : digitsOf d = ['0'] := by
  unfold digitsOf
  rw [hd, Nat.toDigits_zero]
  rfl

/-- The digits of a decimal are those that count, and zeros behind them. -/
theorem toDigits_eq_digitsOf (hd : d.digits ≠ 0) :
    ∃ zeros, Nat.toDigits 10 d.digits = digitsOf d ++ List.replicate zeros '0' := by
  have hsplit := List.takeWhile_append_dropWhile (p := (· == '0'))
    (l := (Nat.toDigits 10 d.digits).reverse)
  have hzeros : (Nat.toDigits 10 d.digits).reverse.takeWhile (· == '0') =
      List.replicate ((Nat.toDigits 10 d.digits).reverse.takeWhile (· == '0')).length '0' := by
    rw [List.eq_replicate_iff]
    exact ⟨rfl, fun c hc => beq_iff_eq.mp (List.all_eq_true.mp List.all_takeWhile c hc)⟩
  generalize ((Nat.toDigits 10 d.digits).reverse.takeWhile (· == '0')).length = zeros at hzeros
  have hall : Nat.toDigits 10 d.digits =
      ((Nat.toDigits 10 d.digits).reverse.dropWhile (· == '0')).reverse ++
        List.replicate zeros '0' := by
    have := congrArg List.reverse hsplit
    rw [List.reverse_append, List.reverse_reverse, hzeros, List.reverse_replicate] at this
    exact this.symm
  refine ⟨zeros, ?_⟩
  unfold digitsOf
  dsimp only
  rw [if_neg ?_]
  · exact hall
  · rw [List.isEmpty_iff]
    intro hempty
    rw [hempty, List.nil_append] at hall
    apply hd
    rw [← Nat.ofDigitChars_ten_toDigits (n := d.digits), hall, Nat.ofDigitChars_replicate_zero,
      Nat.mul_zero]

theorem isDigits_digitsOf (d : Decimal) : IsDigits (digitsOf d) := by
  by_cases hd : d.digits = 0
  · rw [digitsOf_of_eq_zero hd]
    exact ⟨by simp, by simp⟩
  · obtain ⟨zeros, hzeros⟩ := toDigits_eq_digitsOf hd
    refine ⟨?_, ?_⟩
    · intro c hc
      apply (isDigits_toDigits d.digits).digit c
      rw [hzeros]
      exact List.mem_append_left _ hc
    · intro hempty
      rw [hempty, List.nil_append] at hzeros
      apply hd
      rw [← Nat.ofDigitChars_ten_toDigits (n := d.digits), hzeros,
        Nat.ofDigitChars_replicate_zero, Nat.mul_zero]

theorem digitsOf_of_head? (h : (digitsOf d).head? = some '0') : d.digits = 0 := by
  by_contra hd
  obtain ⟨zeros, hzeros⟩ := toDigits_eq_digitsOf hd
  apply head?_toDigits_ne hd
  rw [hzeros, List.head?_append_of_ne_nil _ (isDigits_digitsOf d).nonempty, h]

/-- A decimal is its digits, placed by the power of the first one. -/
theorem toRat_eq_digitsOf (d : Decimal) :
    d.toRat = (Nat.ofDigitChars 10 (digitsOf d) 0 : Rat) *
      10 ^ (leadingPower d + 1 - (digitsOf d).length) := by
  by_cases hd : d.digits = 0
  · rw [Decimal.toRat_eq_zero_iff.mpr hd, digitsOf_of_eq_zero hd]
    simp [Nat.ofDigitChars_cons]
  · obtain ⟨zeros, hzeros⟩ := toDigits_eq_digitsOf hd
    have hvalue : d.digits = 10 ^ zeros * Nat.ofDigitChars 10 (digitsOf d) 0 := by
      rw [← Nat.ofDigitChars_replicate_zero, ← Nat.ofDigitChars_append, ← hzeros,
        Nat.ofDigitChars_ten_toDigits]
    have hlength := congrArg List.length hzeros
    rw [List.length_append, List.length_replicate] at hlength
    have hpower : leadingPower d + 1 - (digitsOf d).length = (zeros : Int) + d.exponent := by
      unfold leadingPower Decimal.places
      rw [if_neg hd]
      omega
    have hcast : (d.digits : Rat) = 10 ^ zeros * (Nat.ofDigitChars 10 (digitsOf d) 0 : Rat) := by
      exact_mod_cast hvalue
    rw [hpower, Decimal.toRat_eq, hcast, zpow_add₀ (by norm_num), zpow_natCast]
    ring

/-! ## The parts of a numeral -/

/-- The parts of a numeral: the digits in front, and a tail with the fraction and the exponent that
it is read as. -/
structure Numeral where
  digits : List Char
  tail : List Char
  fraction : Option (List Char)
  exponent : Option Int

namespace Numeral

def chars (n : Numeral) : List Char := n.digits ++ n.tail

def decimal (n : Numeral) : Decimal :=
  Decimal.ofDigits n.digits (n.fraction.getD []) (n.exponent.getD 0)

/-- Whether the numeral is told from that of an integer. -/
def isMarked (n : Numeral) : Bool := n.fraction.isSome || n.exponent.isSome

/-- The numeral is read part by part, whatever follows it, and has the value of a decimal. -/
structure Denotes (n : Numeral) (d : Decimal) : Prop where
  digits : IsDigits n.digits
  leading : n.digits.length ≠ 1 → n.digits.head? ≠ some '0'
  head : ∀ c ∈ n.tail.head?, c.isDigit = false
  tail : ∀ rest, EndsNumeral rest →
    readTail (n.tail ++ rest) = some ((n.fraction, n.exponent), rest)
  value : n.decimal.toRat = d.toRat

/-- What stands behind the digits of a numeral is no digit. -/
theorem Denotes.head_append {n : Numeral} (denotes : n.Denotes d) {rest : List Char}
    (hrest : EndsNumeral rest) : ∀ c ∈ (n.tail ++ rest).head?, c.isDigit = false := by
  have hhead := denotes.head
  cases htail : n.tail with
  | nil => exact fun c hc => (hrest c hc).1
  | cons first more =>
      rw [htail] at hhead
      exact fun c hc => hhead c hc

end Numeral

theorem ofDigits_toRat (whole fraction : List Char) (exponent : Int) :
    (Decimal.ofDigits whole fraction exponent).toRat =
      (Nat.ofDigitChars 10 (whole ++ fraction) 0 : Rat) * 10 ^ (exponent - fraction.length) :=
  Decimal.toRat_eq _

theorem readTail_point {fraction rest : List Char} (h : IsDigits fraction)
    (hrest : EndsNumeral rest) :
    readTail ('.' :: fraction ++ rest) = some ((some fraction, none), rest) :=
  readTail_of_parts (readFraction_point h fun c hc => (hrest c hc).1) (readExponent_of_ends hrest)

/-! ## The four forms of a numeral -/

/-- Below one: a zero, a point, zeros, and the digits. -/
def smallNumeral (d : Decimal) : Numeral :=
  let fraction := List.replicate ((-leadingPower d).toNat - 1) '0' ++ digitsOf d
  ⟨['0'], '.' :: fraction, some fraction, none⟩

theorem smallNumeral_denotes (d : Decimal) (h : leadingPower d < 0) :
    (smallNumeral d).Denotes d := by
  have hfraction : IsDigits (List.replicate ((-leadingPower d).toNat - 1) '0' ++ digitsOf d) := by
    refine ⟨?_, by simp [(isDigits_digitsOf d).nonempty]⟩
    intro c hc
    rcases List.mem_append.mp hc with hc | hc
    · exact isDigit_of_mem_zeros c hc
    · exact (isDigits_digitsOf d).digit c hc
  have hwhole : IsDigits ['0'] := ⟨by simp, by simp⟩
  have hdigits : Nat.ofDigitChars 10 (['0'] ++
      (List.replicate ((-leadingPower d).toNat - 1) '0' ++ digitsOf d)) 0 =
        Nat.ofDigitChars 10 (digitsOf d) 0 := by
    rw [Nat.ofDigitChars_append, Nat.ofDigitChars_append, Nat.ofDigitChars_replicate_zero]
    simp [Nat.ofDigitChars_cons]
  refine ⟨hwhole, by simp [smallNumeral], by rintro _ ⟨⟩; rfl,
    fun rest hrest => readTail_point hfraction hrest, ?_⟩
  dsimp only [smallNumeral, Numeral.decimal]
  rw [ofDigits_toRat, toRat_eq_digitsOf, Option.getD_some, Option.getD_none, hdigits]
  congr 2
  rw [List.length_append, List.length_replicate]
  omega

def integralDigits (d : Decimal) : List Char :=
  digitsOf d ++ List.replicate ((leadingPower d).toNat + 1 - (digitsOf d).length) '0'

def integralNumeral (d : Decimal) : Numeral := ⟨integralDigits d, [], none, none⟩

def wholeNumeral (d : Decimal) : Numeral := ⟨integralDigits d, ['.', '0'], some ['0'], none⟩

theorem isDigits_integralDigits (d : Decimal) : IsDigits (integralDigits d) :=
  (isDigits_digitsOf d).append isDigit_of_mem_zeros

theorem leading_integralDigits (d : Decimal) :
    (integralDigits d).length ≠ 1 → (integralDigits d).head? ≠ some '0' := by
  intro hlength hhead
  apply hlength
  unfold integralDigits at hhead ⊢
  rw [List.head?_append_of_ne_nil _ (isDigits_digitsOf d).nonempty] at hhead
  have hd := digitsOf_of_head? hhead
  rw [digitsOf_of_eq_zero hd, leadingPower, if_pos hd]
  rfl

theorem integralDigits_toRat (h : 0 ≤ leadingPower d)
    (hfew : (digitsOf d).length ≤ (leadingPower d).toNat + 1) (fraction : List Char)
    (hfraction : fraction = [] ∨ fraction = ['0']) :
    (Decimal.ofDigits (integralDigits d) fraction 0).toRat = d.toRat := by
  have hpower : leadingPower d + 1 - (digitsOf d).length =
      (((leadingPower d).toNat + 1 - (digitsOf d).length : Nat) : Int) := by omega
  rw [ofDigits_toRat, toRat_eq_digitsOf, integralDigits, Nat.ofDigitChars_append,
    Nat.ofDigitChars_append, Nat.ofDigitChars_replicate_zero, hpower, zpow_natCast]
  rcases hfraction with rfl | rfl
  · simp
    ring
  · simp [Nat.ofDigitChars_cons]
    ring

theorem integralNumeral_denotes (h : 0 ≤ leadingPower d)
    (hfew : (digitsOf d).length ≤ (leadingPower d).toNat + 1) : (integralNumeral d).Denotes d where
  digits := isDigits_integralDigits d
  leading := leading_integralDigits d
  head := nofun
  tail _ hrest :=
    readTail_of_parts (readFraction_of_ne fun c hc => (hrest c hc).2.1)
      (readExponent_of_ends hrest)
  value := integralDigits_toRat h hfew [] (.inl rfl)

theorem wholeNumeral_denotes (h : 0 ≤ leadingPower d)
    (hfew : (digitsOf d).length ≤ (leadingPower d).toNat + 1) : (wholeNumeral d).Denotes d where
  digits := isDigits_integralDigits d
  leading := leading_integralDigits d
  head := by rintro _ ⟨⟩; rfl
  tail _ hrest := readTail_point ⟨by simp, by simp⟩ hrest
  value := integralDigits_toRat h hfew ['0'] (.inr rfl)

/-- With a fraction: the digits with a point among them. -/
def fractionNumeral (d : Decimal) : Numeral :=
  let fraction := (digitsOf d).drop ((leadingPower d).toNat + 1)
  ⟨(digitsOf d).take ((leadingPower d).toNat + 1), '.' :: fraction, some fraction, none⟩

theorem fractionNumeral_denotes (d : Decimal) (h : 0 ≤ leadingPower d)
    (hmany : (leadingPower d).toNat + 1 < (digitsOf d).length) :
    (fractionNumeral d).Denotes d := by
  have hdigits := isDigits_digitsOf d
  have hwhole : IsDigits ((digitsOf d).take ((leadingPower d).toNat + 1)) :=
    ⟨fun c hc => hdigits.digit c (List.mem_of_mem_take hc), by simp [hdigits.nonempty]⟩
  have hfraction : IsDigits ((digitsOf d).drop ((leadingPower d).toNat + 1)) :=
    ⟨fun c hc => hdigits.digit c (List.mem_of_mem_drop hc), by simpa using hmany⟩
  refine ⟨hwhole, ?_, by rintro _ ⟨⟩; rfl, fun rest hrest => readTail_point hfraction hrest, ?_⟩
  · intro _ hhead
    dsimp only [fractionNumeral] at hhead
    rw [List.head?_take, if_neg (by omega)] at hhead
    have hd := digitsOf_of_head? hhead
    rw [digitsOf_of_eq_zero hd] at hmany
    simp at hmany
  · dsimp only [fractionNumeral, Numeral.decimal]
    rw [ofDigits_toRat, toRat_eq_digitsOf, Option.getD_some, Option.getD_none,
      List.take_append_drop]
    congr 2
    rw [List.length_drop]
    omega

theorem exponentText_eq (style : NumberStyle) (power : Int) :
    ∃ digits, IsDigits digits ∧ Nat.ofDigitChars 10 digits 0 = power.natAbs ∧
      style.exponentText power = (if decide (power < 0) = true then '-' else '+') :: digits := by
  refine ⟨List.replicate (style.exponentWidth - (Nat.toDigits 10 power.natAbs).length) '0' ++
    Nat.toDigits 10 power.natAbs, ⟨?_, by simp [Nat.toDigits_ne_nil]⟩, ?_, ?_⟩
  · intro c hc
    rcases List.mem_append.mp hc with hc | hc
    · exact isDigit_of_mem_zeros c hc
    · exact (isDigits_toDigits _).digit c hc
  · rw [Nat.ofDigitChars_append, Nat.ofDigitChars_replicate_zero, Nat.mul_zero,
      Nat.ofDigitChars_ten_toDigits]
  · simp [exponentText]

theorem readExponent_exponentText (style : NumberStyle) (power : Int) {rest : List Char}
    (hrest : EndsNumeral rest) :
    readExponent ('e' :: style.exponentText power ++ rest) = some (some power, rest) := by
  obtain ⟨digits, hdigits, hvalue, htext⟩ := exponentText_eq style power
  have hread := readExponentDigits_sign hdigits hrest (decide (power < 0))
  have hpower : (if decide (power < 0) = true then -(power.natAbs : Int) else power.natAbs) =
      power := by
    by_cases hsign : power < 0
    · rw [if_pos (by simpa using hsign)]
      omega
    · rw [if_neg (by simpa using hsign)]
      omega
  rw [hvalue, hpower] at hread
  rw [htext, List.cons_append, List.cons_append, readExponent, hread]
  rfl

/-- With an exponent: one digit, the others behind a point if there are any, and the power. -/
def scientificNumeral (style : NumberStyle) (d : Decimal) : Numeral :=
  let more := (digitsOf d).drop 1
  let tail := 'e' :: style.exponentText (leadingPower d)
  if (digitsOf d).length ≤ 1 then ⟨(digitsOf d).take 1, tail, none, some (leadingPower d)⟩
  else ⟨(digitsOf d).take 1, '.' :: more ++ tail, some more, some (leadingPower d)⟩

theorem scientificNumeral_denotes (style : NumberStyle) (d : Decimal) :
    (scientificNumeral style d).Denotes d := by
  have hdigits := isDigits_digitsOf d
  have hlength := List.length_pos_iff.mpr hdigits.nonempty
  have hwhole : IsDigits ((digitsOf d).take 1) :=
    ⟨fun c hc => hdigits.digit c (List.mem_of_mem_take hc), by simp [hdigits.nonempty]⟩
  have hone : ((digitsOf d).take 1).length = 1 := by
    rw [List.length_take]
    omega
  unfold scientificNumeral
  by_cases hfew : (digitsOf d).length ≤ 1
  · rw [if_pos hfew]
    refine ⟨hwhole, fun hne => absurd hone hne, by rintro _ ⟨⟩; rfl, ?_, ?_⟩
    · intro rest hrest
      exact readTail_of_parts (readFraction_of_ne (by simp))
        (readExponent_exponentText style _ hrest)
    · dsimp only [Numeral.decimal]
      rw [ofDigits_toRat, toRat_eq_digitsOf, List.take_of_length_le hfew]
      simp only [Option.getD_none, Option.getD_some, List.append_nil, List.length_nil]
      congr 2
      omega
  · have hfraction : IsDigits ((digitsOf d).drop 1) := by
      refine ⟨fun c hc => hdigits.digit c (List.mem_of_mem_drop hc), ?_⟩
      rw [Ne, List.drop_eq_nil_iff]
      exact hfew
    rw [if_neg hfew]
    refine ⟨hwhole, fun hne => absurd hone hne, by rintro _ ⟨⟩; rfl, ?_, ?_⟩
    · intro rest hrest
      have hpoint : readFraction ('.' :: ((digitsOf d).drop 1 ++
          ('e' :: style.exponentText (leadingPower d) ++ rest))) =
            some (some ((digitsOf d).drop 1), 'e' :: style.exponentText (leadingPower d) ++ rest) :=
        readFraction_point hfraction (by simp)
      dsimp only
      rw [List.cons_append, List.cons_append, List.append_assoc]
      exact readTail_of_parts hpoint (readExponent_exponentText style _ hrest)
    · dsimp only [Numeral.decimal]
      rw [ofDigits_toRat, toRat_eq_digitsOf, Option.getD_some, Option.getD_some,
        List.take_append_drop]
      congr 2
      rw [List.length_drop]
      omega

/-- Whatever form a decimal is written in, it is a numeral of its value; and it is told from an
integer where the style gives integral values a fraction. -/
theorem exists_numeral {style : NumberStyle}
    (hsuffix : style.wholeSuffix = ".0" ∨ style.wholeSuffix = "") (d : Decimal) :
    ∃ n : Numeral, style.decimalText d = n.chars ∧ n.Denotes d ∧
      (style.wholeSuffix = ".0" → n.isMarked = true) := by
  unfold decimalText
  dsimp only
  split
  · split
    · next hsmall => exact ⟨smallNumeral d, rfl, smallNumeral_denotes d hsmall, fun _ => rfl⟩
    · next hsmall =>
      have hpower := Int.not_lt.mp hsmall
      split
      · next hfew =>
        rcases hsuffix with hzero | hnone
        · exact ⟨wholeNumeral d, by rw [hzero]; rfl, wholeNumeral_denotes hpower hfew, fun _ => rfl⟩
        · refine ⟨integralNumeral d, by rw [hnone]; rfl, integralNumeral_denotes hpower hfew, ?_⟩
          intro hzero
          rw [hnone] at hzero
          exact absurd hzero (by decide)
      · next hmany =>
        exact ⟨fractionNumeral d, rfl, fractionNumeral_denotes d hpower (Nat.not_le.mp hmany),
          fun _ => rfl⟩
  · refine ⟨scientificNumeral style d, ?_, scientificNumeral_denotes style d, fun _ => ?_⟩
    · unfold scientificNumeral
      split
      · simp [Numeral.chars]
      · simp [Numeral.chars]
    · unfold scientificNumeral
      split
      · rfl
      · rfl

/-- A numeral that is told from an integer is read as the double nearest to its value. -/
theorem Numeral.Denotes.readMagnitude {n : Numeral} (denotes : n.Denotes d)
    (hmarked : n.isMarked = true) {rest : List Char} (hrest : EndsNumeral rest) (dialect : Dialect)
    (negative : Bool) :
    Json.readMagnitude dialect negative (n.chars ++ rest) =
      if dialect.admits (.double (Double.ofDecimal negative d)) then
        .ok (.double (Double.ofDecimal negative d), rest)
      else .error .malformed := by
  have hparts : n.fraction.isSome = true ∨ n.exponent.isSome = true :=
    Bool.or_eq_true_iff.mp hmarked
  rw [Numeral.chars, List.append_assoc, readMagnitude_of_tail denotes.digits denotes.leading
    (denotes.head_append hrest) (denotes.tail rest hrest) hparts]
  have hvalue : Double.ofDecimal negative n.decimal = Double.ofDecimal negative d :=
    Double.ofDecimal_congr denotes.value negative
  dsimp only [fractionalNumber, Numeral.decimal] at hvalue ⊢
  rw [hvalue]

theorem decimalText_head (style : NumberStyle) (d : Decimal) :
    ∃ c more, style.decimalText d = c :: more ∧ c.isDigit = true := by
  have hdigits := isDigits_digitsOf d
  obtain ⟨c, more, hcons⟩ := List.exists_cons_of_ne_nil hdigits.nonempty
  have hc : c.isDigit = true := hdigits.digit c (by simp [hcons])
  unfold decimalText
  dsimp only
  rw [hcons]
  split
  · split
    · exact ⟨'0', _, rfl, rfl⟩
    · split
      · exact ⟨c, _, rfl, hc⟩
      · exact ⟨c, _, rfl, hc⟩
  · exact ⟨c, _, rfl, hc⟩

end NumberStyle

namespace Json

variable {style : NumberStyle} {dialect : Dialect} {rest : List Char}

/-! ## Numbers -/

theorem readNumber_digit {c : Char} (hc : c.isDigit = true) (s : List Char) :
    readNumber dialect (c :: s) = readMagnitude dialect false (c :: s) := by
  unfold readNumber
  split
  all_goals first | rfl | simp_all

theorem readNumber_minus {c : Char} (hc : c.isDigit = true) (s : List Char) :
    readNumber dialect ('-' :: c :: s) = readMagnitude dialect true (c :: s) := by
  unfold readNumber
  split
  all_goals first | rfl | simp_all

theorem readMagnitude_toDigits {n : Nat} (hn : (Nat.toDigits 10 n).length ≤ Text.maxIntegerDigits)
    (hrest : EndsNumeral rest) (negative : Bool) :
    readMagnitude dialect negative (Nat.toDigits 10 n ++ rest) =
      .ok (.int (if negative then -(n : Int) else n), rest) := by
  have htail : readTail rest = some ((none, none), rest) :=
    readTail_of_parts (readFraction_of_ne fun c hc => (hrest c hc).2.1)
      (readExponent_of_ends hrest)
  have hfirst : ((Nat.toDigits 10 n).isEmpty ||
      ((Nat.toDigits 10 n).length != 1 && (Nat.toDigits 10 n).head? == some '0')) = false := by
    by_cases hzero : n = 0
    · rw [hzero, Nat.toDigits_zero]
      rfl
    · simp [Nat.toDigits_ne_nil, NumberStyle.head?_toDigits_ne hzero]
  unfold readMagnitude
  rw [spanDigits_append (isDigits_toDigits n).digit fun c hc => (hrest c hc).1]
  simp only [hfirst, htail, wholeNumber, Nat.ofDigitChars_ten_toDigits, decide_eq_true_eq]
  rw [if_neg (by simp), if_neg (Nat.not_lt.mpr hn)]

theorem length_toDigits_le {n k : Nat} (hk : 0 < k) (hn : n < Nat.pow 10 k) :
    (Nat.toDigits 10 n).length ≤ k :=
  (Nat.length_toDigits_le_iff (by decide) hk).mpr hn

/-- An integer of not too many digits is read as it was written. -/
theorem readNumber_int {n : Int} (hn : Text.isWritable n = true) (hrest : EndsNumeral rest) :
    readNumber dialect (numberChars style (.int n) ++ rest) = .ok (.int n, rest) := by
  have hlength : (Nat.toDigits 10 n.natAbs).length ≤ Text.maxIntegerDigits :=
    length_toDigits_le (by decide) (Text.isWritable_iff.mp hn)
  obtain ⟨c, more, hcons⟩ := List.exists_cons_of_ne_nil (isDigits_toDigits n.natAbs).nonempty
  have hc : c.isDigit = true := (isDigits_toDigits n.natAbs).digit c (by simp [hcons])
  cases n with
  | ofNat n =>
      have htext : numberChars style (.int (.ofNat n)) = Nat.toDigits 10 n := Nat.toList_repr
      have hread : readMagnitude dialect false (Nat.toDigits 10 n ++ rest) = .ok (.int n, rest) :=
        readMagnitude_toDigits hlength hrest false
      have hcons : Nat.toDigits 10 n = c :: more := hcons
      rw [htext, hcons, List.cons_append, readNumber_digit hc, ← List.cons_append, ← hcons, hread]
      rfl
  | negSucc n =>
      have htext : numberChars style (.int (.negSucc n)) = '-' :: Nat.toDigits 10 (n + 1) := by
        show ("-" ++ Nat.repr (n + 1)).toList = _
        rw [String.toList_append, Nat.toList_repr]
        rfl
      have hread : readMagnitude dialect true (Nat.toDigits 10 (n + 1) ++ rest) =
          .ok (.int (.negSucc n), rest) :=
        readMagnitude_toDigits hlength hrest true
      have hcons : Nat.toDigits 10 (n + 1) = c :: more := hcons
      rw [htext, hcons, List.cons_append, List.cons_append, readNumber_minus hc,
        ← List.cons_append, ← hcons, hread]

/-- A finite double is read as it was written, in every dialect. -/
theorem readNumber_finite (hsuffix : style.wholeSuffix = ".0") {x : Double}
    (hx : x.isFinite = true) (hrest : EndsNumeral rest) :
    readNumber dialect (numberChars style (.double x) ++ rest) = .ok (.double x, rest) := by
  cases x with
  | finite negative m exponent stored =>
      obtain ⟨numeral, htext, denotes, hmarked⟩ :=
        NumberStyle.exists_numeral (.inl hsuffix) (Double.shortest m exponent)
      have hread := denotes.readMagnitude (hmarked hsuffix) hrest dialect negative
      rw [Double.ofDecimal_shortest stored, if_pos (by cases dialect <;> rfl), ← htext] at hread
      obtain ⟨c, more, hcons, hc⟩ := style.decimalText_head (Double.shortest m exponent)
      rw [hcons, List.cons_append] at hread
      cases negative with
      | false =>
          have htext : numberChars style (.double (.finite false m exponent stored)) =
              c :: more := hcons
          rw [htext, List.cons_append, readNumber_digit hc, hread]
      | true =>
          have htext : numberChars style (.double (.finite true m exponent stored)) =
              '-' :: c :: more := congrArg (List.cons '-') hcons
          rw [htext, List.cons_append, List.cons_append, readNumber_minus hc, hread]
  | infinite negative => cases hx
  | nan => cases hx

/-- The wide form of a double that is not finite is one of the words of the extended dialect. -/
theorem readNumber_word {x : Double} (hx : x.isFinite = false) :
    readNumber .extended (numberChars .jsonWide (.double x) ++ rest) = .ok (.double x, rest) := by
  cases x with
  | finite negative m exponent stored => cases hx
  | infinite negative => cases negative <;> rfl
  | nan => rfl

theorem numberChars_head_of_finite (style : NumberStyle) {n : Number}
    (hn : ∀ x, n = .double x → x.isFinite = true) :
    ∃ c more, numberChars style n = c :: more ∧ (c.isDigit = true ∨ c = '-') := by
  cases n with
  | int i =>
      cases i with
      | ofNat i =>
          obtain ⟨c, more, hcons⟩ := List.exists_cons_of_ne_nil (isDigits_toDigits i).nonempty
          have hc : c.isDigit = true := (isDigits_toDigits i).digit c (by simp [hcons])
          exact ⟨c, more, Nat.toList_repr.trans hcons, .inl hc⟩
      | negSucc i => exact ⟨'-', _, String.toList_append, .inr rfl⟩
  | double x =>
      cases x with
      | finite negative m exponent stored =>
          obtain ⟨c, more, hcons, hc⟩ := style.decimalText_head (Double.shortest m exponent)
          cases negative with
          | false => exact ⟨c, more, hcons, .inl hc⟩
          | true => exact ⟨'-', c :: more, congrArg (List.cons '-') hcons, .inr rfl⟩
      | infinite negative => cases hn _ rfl
      | nan => cases hn _ rfl

theorem numberChars_head (style : NumberStyle) (n : Number)
    (hn : (∃ i, n = .int i) ∨
      ∃ x : Double, n = .double x ∧ (x.isFinite = true ∨ style = .jsonWide)) :
    ∃ c more, numberChars style n = c :: more ∧
      (c.isDigit = true ∨ c = '-' ∨ c = 'I' ∨ c = 'N') := by
  by_cases hfinite : ∀ x, n = .double x → x.isFinite = true
  · obtain ⟨c, more, hcons, hc⟩ := numberChars_head_of_finite style hfinite
    exact ⟨c, more, hcons, hc.imp_right .inl⟩
  · obtain ⟨x, rfl, hx⟩ : ∃ x, n = .double x ∧ x.isFinite = false := by simpa using hfinite
    obtain rfl : style = .jsonWide := by simpa [hx] using hn
    cases x with
    | finite negative m exponent stored => cases hx
    | infinite negative =>
        cases negative with
        | false => exact ⟨'I', _, rfl, .inr (.inr (.inl rfl))⟩
        | true => exact ⟨'-', _, rfl, .inr (.inl rfl)⟩
    | nan => exact ⟨'N', _, rfl, .inr (.inr (.inr rfl))⟩

end Json

namespace Number

theorem toList_fullText (n : Number) : n.fullText.toList = numberChars .plain n := by
  cases n with
  | int i => rfl
  | double x => exact String.toList_ofList

/-- The text of a number begins with a digit or a minus, or it is one of two words. -/
theorem fullText_head (n : Number) :
    (∃ c more, n.fullText.toList = c :: more ∧ (c.isDigit = true ∨ c = '-')) ∨
      n.fullText = "inf" ∨ n.fullText = "nan" := by
  by_cases hfinite : ∀ x, n = .double x → x.isFinite = true
  · rw [toList_fullText]
    exact .inl (numberChars_head_of_finite .plain hfinite)
  · obtain ⟨x, rfl, hx⟩ : ∃ x, n = .double x ∧ x.isFinite = false := by simpa using hfinite
    cases x with
    | finite negative m exponent stored => cases hx
    | infinite negative =>
        cases negative with
        | false => exact .inr (.inl rfl)
        | true => exact .inl ⟨'-', _, rfl, .inr rfl⟩
    | nan => exact .inr (.inr rfl)

theorem fullText_ne_empty (n : Number) : n.fullText ≠ "" := by
  intro hempty
  rcases n.fullText_head with ⟨c, more, htext, -⟩ | htext | htext
  · simp [hempty] at htext
  · simp [hempty] at htext
  · simp [hempty] at htext

end Number

end Wireframe

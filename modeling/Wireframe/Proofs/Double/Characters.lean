import Wireframe.Proofs.Json.Numeral

/-! # The characters of numbers

Whatever its value, a number is written in few characters: digits, a point, signs, the letter of an
exponent and the letters of two words. None of them is a blank, and the text of a number is never
empty, so that in a list of numbers with blanks between them every number is one word.
-/

namespace Wireframe

namespace Text

def isNumeralChar (c : Char) : Bool :=
  c.isDigit || ['.', '+', '-', 'e', 'i', 'n', 'f', 'a'].contains c

/-- Written in the characters of numbers. -/
def IsNumeral (s : List Char) : Prop := ∀ c ∈ s, isNumeralChar c = true

variable {s t : List Char}

theorem isNumeral_of_all (h : s.all isNumeralChar = true) : IsNumeral s := List.all_eq_true.mp h

@[simp] theorem isNumeral_nil : IsNumeral [] := List.forall_mem_nil _

@[simp] theorem isNumeral_cons {c : Char} :
    IsNumeral (c :: s) ↔ isNumeralChar c = true ∧ IsNumeral s :=
  List.forall_mem_cons

@[simp] theorem isNumeral_append : IsNumeral (s ++ t) ↔ IsNumeral s ∧ IsNumeral t :=
  List.forall_mem_append

theorem IsNumeral.take (h : IsNumeral s) (n : Nat) : IsNumeral (s.take n) :=
  fun c hc => h c (List.mem_of_mem_take hc)

theorem IsNumeral.drop (h : IsNumeral s) (n : Nat) : IsNumeral (s.drop n) :=
  fun c hc => h c (List.mem_of_mem_drop hc)

theorem isNumeral_of_isDigit (h : ∀ c ∈ s, c.isDigit = true) : IsNumeral s := by
  intro c hc
  rw [isNumeralChar, h c hc, Bool.true_or]

end Text

open Text

namespace NumberStyle

variable (style : NumberStyle)

theorem isNumeral_zeros (n : Nat) : IsNumeral (List.replicate n '0') :=
  isNumeral_of_isDigit Json.isDigit_of_mem_zeros

theorem isNumeral_exponentText (power : Int) : IsNumeral (style.exponentText power) := by
  have hdigits : IsNumeral (Nat.toDigits 10 power.natAbs) :=
    isNumeral_of_isDigit (Json.isDigits_toDigits _).digit
  unfold exponentText
  dsimp only
  rw [List.cons_append, isNumeral_cons, isNumeral_append]
  refine ⟨?_, isNumeral_zeros _, hdigits⟩
  split <;> rfl

theorem isNumeral_decimalText (hsuffix : IsNumeral style.wholeSuffix.toList) (d : Decimal) :
    IsNumeral (style.decimalText d) := by
  have hdigits : IsNumeral (digitsOf d) := isNumeral_of_isDigit (isDigits_digitsOf d).digit
  have hzeros := isNumeral_zeros
  have hexponent := style.isNumeral_exponentText (leadingPower d)
  have hpoint : isNumeralChar '.' = true := rfl
  have hzero : isNumeralChar '0' = true := rfl
  have hletter : isNumeralChar 'e' = true := rfl
  unfold decimalText
  dsimp only
  split
  · split
    · simp [*]
    · split
      · simp [*]
      · simp [*, hdigits.take, hdigits.drop]
  · split
    · simp [*, hdigits.take]
    · simp [*, hdigits.take, hdigits.drop, -List.drop_one]

end NumberStyle

theorem Double.isNumeral_text (x : Double) : IsNumeral x.text.toList := by
  have hsuffix : IsNumeral NumberStyle.plain.wholeSuffix.toList := isNumeral_of_all rfl
  rw [Double.text, NumberStyle.text, String.toList_ofList]
  cases x with
  | finite negative mantissa exponent stored =>
      have hdecimal := NumberStyle.plain.isNumeral_decimalText hsuffix (shortest mantissa exponent)
      show IsNumeral ((if negative then ['-'] else []) ++ _)
      rw [isNumeral_append]
      refine ⟨?_, hdecimal⟩
      split
      · exact isNumeral_of_all rfl
      · exact isNumeral_nil
  | infinite negative => cases negative <;> exact isNumeral_of_all rfl
  | nan => exact isNumeral_of_all rfl

namespace Number

theorem isNumeral_fullText (x : Number) : IsNumeral x.fullText.toList := by
  have hdigits : ∀ n : Nat, IsNumeral n.repr.toList := fun n => by
    rw [Nat.toList_repr]
    exact isNumeral_of_isDigit (Json.isDigits_toDigits n).digit
  cases x with
  | int n =>
      cases n with
      | ofNat n => exact hdigits n
      | negSucc n =>
          show IsNumeral ("-" ++ Nat.repr (n + 1)).toList
          rw [String.toList_append, isNumeral_append]
          exact ⟨isNumeral_of_all rfl, hdigits (n + 1)⟩
  | double x => exact x.isNumeral_text

/-- The compact text of a number is the text of an integer or of the number itself. -/
theorem exists_fullText_eq_compact (x : Number) : ∃ y : Number, y.fullText = x.compact := by
  cases x with
  | int n => exact ⟨.int n, rfl⟩
  | double x =>
      cases hint : x.toInt? with
      | some n => exact ⟨.int n, by simp only [compact, hint, fullText]⟩
      | none => exact ⟨.double x, by simp only [compact, hint, fullText]⟩

theorem isNumeral_compact (x : Number) : IsNumeral x.compact.toList := by
  obtain ⟨y, hy⟩ := x.exists_fullText_eq_compact
  rw [← hy]
  exact y.isNumeral_fullText

theorem compact_ne_empty (x : Number) : x.compact ≠ "" := by
  obtain ⟨y, hy⟩ := x.exists_fullText_eq_compact
  rw [← hy]
  exact y.fullText_ne_empty

end Number

end Wireframe

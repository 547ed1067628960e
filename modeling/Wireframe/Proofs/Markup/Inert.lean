import Wireframe.Proofs.Double.Characters
import Wireframe.Text.Entity

/-! # Texts that need no entities

A text without the characters that markup reserves is written into markup as it is. The text of a
number is one, whatever its value: it is made of digits, a point, signs and letters.
-/

namespace Wireframe

namespace Text

/-- No character of the text is replaced by an entity. -/
def IsInert (s : List Char) : Prop := ∀ c ∈ s, entityOf? c = none

variable {s t : List Char}

theorem isInert_of_all (h : (s.all fun c => (entityOf? c).isNone) = true) : IsInert s := by
  intro c hc
  exact Option.isNone_iff_eq_none.mp (List.all_eq_true.mp h c hc)

@[simp] theorem isInert_nil : IsInert [] := List.forall_mem_nil _

@[simp] theorem isInert_cons {c : Char} : IsInert (c :: s) ↔ entityOf? c = none ∧ IsInert s :=
  List.forall_mem_cons

@[simp] theorem isInert_append : IsInert (s ++ t) ↔ IsInert s ∧ IsInert t := List.forall_mem_append

theorem IsNumeral.isInert (h : IsNumeral s) : IsInert s := by
  intro c hc
  have hnumeral := h c hc
  unfold entityOf?
  split
  all_goals first | rfl | exact absurd hnumeral (by decide)

theorem IsInert.escapeChars_eq (h : IsInert s) : escapeChars s = s := by
  induction s with
  | nil => rfl
  | cons c s ih =>
      rw [isInert_cons] at h
      rw [escapeChars_cons, ih h.2, escapeChar, h.1]
      rfl

theorem IsInert.escape_eq {text : String} (h : IsInert text.toList) : escape text = text := by
  rw [escape, h.escapeChars_eq, String.ofList_toList]

theorem isInert_intercalate {words : List String} (h : ∀ word ∈ words, IsInert word.toList) :
    IsInert (" ".intercalate words).toList := by
  rw [String.toList_intercalate]
  induction words with
  | nil => exact isInert_nil
  | cons word words ih =>
      rw [List.forall_mem_cons] at h
      cases words with
      | nil => simpa using h.1
      | cons next words =>
          rw [List.map_cons, List.map_cons, List.intercalate_cons_cons, isInert_append,
            isInert_append]
          exact ⟨⟨h.1, isInert_of_all rfl⟩, ih h.2⟩

end Text

/-- Whatever its value, a number is written in characters that need no entity. -/
theorem Number.isInert_compact (x : Number) : Text.IsInert x.compact.toList :=
  x.isNumeral_compact.isInert

end Wireframe

/-! # Character entities

Text that goes into markup is written with five characters replaced by entities. `escape` writes,
`unescape?` reads; a character that would have had to be replaced is refused.
-/

namespace Wireframe.Text

def entityOf? : Char → Option (List Char)
  | '&' => some ['&', 'a', 'm', 'p', ';']
  | '<' => some ['&', 'l', 't', ';']
  | '>' => some ['&', 'g', 't', ';']
  | '"' => some ['&', 'q', 'u', 'o', 't', ';']
  | '\x27' => some ['&', '#', 'x', '2', '7', ';']
  | _ => none

def escapeChar (c : Char) : List Char := (entityOf? c).getD [c]

def escapeChars (s : List Char) : List Char := s.flatMap escapeChar

def escape (s : String) : String := String.ofList (escapeChars s.toList)

/-- Reads markup text back. An ampersand must begin one of the five entities. -/
def unescape? : List Char → Option (List Char)
  | [] => some []
  | '&' :: 'a' :: 'm' :: 'p' :: ';' :: rest => (unescape? rest).map ('&' :: ·)
  | '&' :: 'l' :: 't' :: ';' :: rest => (unescape? rest).map ('<' :: ·)
  | '&' :: 'g' :: 't' :: ';' :: rest => (unescape? rest).map ('>' :: ·)
  | '&' :: 'q' :: 'u' :: 'o' :: 't' :: ';' :: rest => (unescape? rest).map ('"' :: ·)
  | '&' :: '#' :: 'x' :: '2' :: '7' :: ';' :: rest => (unescape? rest).map ('\x27' :: ·)
  | c :: rest => if (entityOf? c).isSome then none else (unescape? rest).map (c :: ·)

@[simp] theorem escapeChars_nil : escapeChars [] = [] := rfl

@[simp] theorem escapeChars_cons (c : Char) (s : List Char) :
    escapeChars (c :: s) = escapeChar c ++ escapeChars s := rfl

theorem unescape?_escapeChars (s : List Char) : unescape? (escapeChars s) = some s := by
  induction s with
  | nil => rfl
  | cons c s ih =>
      rw [escapeChars_cons]
      by_cases hamp : c = '&'
      · subst hamp; simp [escapeChar, entityOf?, unescape?, ih]
      by_cases hlt : c = '<'
      · subst hlt; simp [escapeChar, entityOf?, unescape?, ih]
      by_cases hgt : c = '>'
      · subst hgt; simp [escapeChar, entityOf?, unescape?, ih]
      by_cases hquot : c = '"'
      · subst hquot; simp [escapeChar, entityOf?, unescape?, ih]
      by_cases hapos : c = '\x27'
      · subst hapos; simp [escapeChar, entityOf?, unescape?, ih]
      have hnone : entityOf? c = none := by
        unfold entityOf?; split <;> simp_all
      simp only [escapeChar, hnone, Option.getD_none, List.cons_append, List.nil_append]
      unfold unescape?
      split <;> simp_all

end Wireframe.Text

import Wireframe.Proofs.Json.Dialect
import Wireframe.Proofs.Json.RoundTrip
import Wireframe.Json.Extract

/-! # The object in a text that is one

Text around an object without a fence is passed over up to its braces: every text either has
outermost braces or no closing brace behind an opening one (`exists_outermost`). A text that begins
and ends with the braces of one object is its own candidate, unless a fence in it is taken for the
beginning of a code block. `extract_encode` reads back a written object.
-/

namespace Wireframe

namespace Text

variable {blank : Char → Bool} {c : Char} {s : List Char}

theorem dropWhile_bne_left (h : c ∉ s) (rest : List Char) :
    (s ++ rest).dropWhile (· != c) = rest.dropWhile (· != c) :=
  List.dropWhile_append_of_pos fun _ hd => bne_iff_ne.mpr fun heq => h (heq ▸ hd)

theorem dropWhile_bne_append (h : c ∉ s) (rest : List Char) :
    (s ++ c :: rest).dropWhile (· != c) = c :: rest := by
  rw [dropWhile_bne_left h]
  simp

theorem dropWhile_bne_of_not_mem (h : c ∉ s) : s.dropWhile (· != c) = [] := by
  have hdropped := dropWhile_bne_left h []
  rwa [List.append_nil, List.dropWhile_nil] at hdropped

theorem not_mem_of_blank (hc : blank c = false) (h : ∀ d ∈ s, blank d = true) : c ∉ s :=
  fun hmem => Bool.false_ne_true (hc.symm.trans (h c hmem))

/-- What trimming takes away at the two ends is blank. -/
theorem exists_trimBy (blank : Char → Bool) (s : List Char) :
    ∃ left right, s = left ++ (trimBy blank s ++ right) ∧ (∀ c ∈ left, blank c = true) ∧
      ∀ c ∈ right, blank c = true := by
  have hright := List.takeWhile_append_dropWhile (p := blank) (l := (s.dropWhile blank).reverse)
  refine ⟨s.takeWhile blank, ((s.dropWhile blank).reverse.takeWhile blank).reverse, ?_,
    List.all_eq_true.mp List.all_takeWhile, fun c hc => ?_⟩
  · rw [trimBy, ← List.reverse_append, hright, List.reverse_reverse,
      List.takeWhile_append_dropWhile]
  · exact List.all_eq_true.mp List.all_takeWhile c (List.mem_reverse.mp hc)

end Text

namespace Json

variable {s inner left right : List Char}

theorem trim_braced (inner : List Char) :
    Text.trim ('{' :: inner ++ ['}']) = '{' :: inner ++ ['}'] := by
  have hopen : Text.isBlank '{' = false := by decide
  have hclose : Text.isBlank '}' = false := by decide
  simp [Text.trim, Text.trimBy, hopen, hclose]

theorem braced?_around {front back : List Char} (hfront : '{' ∉ front) (hback : '}' ∉ back)
    (inner : List Char) :
    braced? (front ++ ('{' :: inner ++ '}' :: back)) = some ('{' :: inner ++ ['}']) := by
  have hopened := Text.dropWhile_bne_append hfront (inner ++ '}' :: back)
  have hclosed := Text.dropWhile_bne_append (mt List.mem_reverse.mp hback) ('{' :: inner).reverse
  unfold braced?
  dsimp only
  rw [List.cons_append, hopened, ← List.cons_append, List.reverse_append, List.reverse_cons,
    List.append_assoc, List.singleton_append, hclosed, List.reverse_cons, List.reverse_reverse]
  rfl

theorem braced?_braced (inner : List Char) :
    braced? ('{' :: inner ++ ['}']) = some ('{' :: inner ++ ['}']) :=
  braced?_around List.not_mem_nil List.not_mem_nil inner

/-- Nothing is found where no closing brace stands behind an opening one. -/
theorem braced?_of_apart {front rest : List Char} (hfront : '{' ∉ front) (hrest : '}' ∉ rest) :
    braced? (front ++ rest) = none := by
  have hopened : '}' ∉ (rest.dropWhile (· != '{')).reverse := fun hmem =>
    hrest ((List.dropWhile_suffix _).subset (List.mem_reverse.mp hmem))
  unfold braced?
  dsimp only
  rw [Text.dropWhile_bne_left hfront, Text.dropWhile_bne_of_not_mem hopened]
  rfl

theorem braced?_of_not_mem (h : '{' ∉ s ∨ '}' ∉ s) : braced? s = none := by
  rcases h with h | h
  · rw [← List.append_nil s]
    exact braced?_of_apart h List.not_mem_nil
  · exact @braced?_of_apart [] s List.not_mem_nil h

/-- In a text every closing brace is in front of the opening ones, or there are outermost braces. -/
theorem exists_outermost (s : List Char) :
    (∃ front rest, s = front ++ rest ∧ '{' ∉ front ∧ '}' ∉ rest) ∨
      ∃ front inner back, s = front ++ ('{' :: inner ++ '}' :: back) ∧ '{' ∉ front ∧
        '}' ∉ back := by
  by_cases hopen : '{' ∈ s
  · obtain ⟨front, rest, rfl, hfront⟩ := List.eq_append_cons_of_mem hopen
    by_cases hclose : '}' ∈ rest
    · obtain ⟨back, inner, hrest, hback⟩ :=
        List.eq_append_cons_of_mem (List.mem_reverse.mpr hclose)
      refine .inr ⟨front, inner.reverse, back.reverse, ?_, hfront, by simpa using hback⟩
      rw [← List.reverse_reverse rest, hrest]
      simp
    · exact .inl ⟨front, '{' :: rest, rfl, hfront, by simpa using hclose⟩
  · exact .inl ⟨s, [], (List.append_nil s).symm, hopen, List.not_mem_nil⟩

theorem exists_of_braced? {span : List Char} (h : braced? s = some span) :
    ∃ front inner back, s = front ++ (span ++ back) ∧ span = '{' :: inner ++ ['}'] := by
  rcases exists_outermost s with ⟨front, rest, rfl, hfront, hrest⟩ |
    ⟨front, inner, back, rfl, hfront, hback⟩
  · rw [braced?_of_apart hfront hrest] at h
    cases h
  · rw [braced?_around hfront hback] at h
    cases h
    exact ⟨front, inner, back, by simp, rfl⟩

theorem braced?_between (hleft : '{' ∉ left ∧ '}' ∉ left) (hright : '{' ∉ right ∧ '}' ∉ right)
    (s : List Char) : braced? (left ++ (s ++ right)) = braced? s := by
  rcases exists_outermost s with ⟨front, rest, rfl, hfront, hrest⟩ |
    ⟨front, inner, back, rfl, hfront, hback⟩
  · have hwhole : left ++ (front ++ rest ++ right) = (left ++ front) ++ (rest ++ right) := by simp
    rw [hwhole, braced?_of_apart hfront hrest, braced?_of_apart]
    · exact List.not_mem_append hleft.1 hfront
    · exact List.not_mem_append hrest hright.2
  · have hwhole : left ++ (front ++ ('{' :: inner ++ '}' :: back) ++ right) =
        (left ++ front) ++ ('{' :: inner ++ '}' :: (back ++ right)) := by simp
    rw [hwhole, braced?_around hfront hback, braced?_around]
    · exact List.not_mem_append hleft.1 hfront
    · exact List.not_mem_append hback hright.2

theorem candidateChars?_braced (h : fenced? ('{' :: inner ++ ['}']) = none) :
    candidateChars? ('{' :: inner ++ ['}']) = some ('{' :: inner ++ ['}']) := by
  unfold candidateChars?
  dsimp only
  rw [trim_braced, h, Option.getD_none, braced?_braced]

theorem encodeValue_object (format : Format) (level : Nat) (members : Members) :
    ∃ inner, encodeValue format level (.object members) = '{' :: inner ++ ['}'] := by
  cases members with
  | nil => exact ⟨[], by rw [encodeValue]; rfl⟩
  | cons entry members =>
      obtain ⟨key, v⟩ := entry
      refine ⟨format.lineBreak (level + 1) ++ quote key ++ ':' :: format.afterColon
        ++ encodeValue format (level + 1) v ++ encodeMembers format (level + 1) members
        ++ format.lineBreak level, ?_⟩
      rw [encodeValue]
      rfl

/-- A text that can be read, if not as strict JSON, is repaired to one that reads the same. -/
def Repairer.Keeps (repair : Repairer) : Prop :=
  ∀ text v, decode .extended text = .ok v → readRepaired (repair text) = .ok v

/-- What the extended reader finds in a candidate is the object of the text. -/
theorem extract_of_candidate {repair : Repairer} (keeps : repair.Keeps) {text candidate : String}
    {members : Members} (hcandidate : candidate? text = some candidate)
    (h : decode .extended candidate = .ok (.object members)) :
    extract repair text true = .ok members := by
  unfold extract
  rw [hcandidate]
  dsimp only
  cases hstrict : decode .strict candidate with
  | ok v =>
      have hsame := decode_mono hstrict
      rw [h] at hsame
      cases hsame
      rfl
  | error cause =>
      dsimp only
      rw [if_pos rfl, keeps candidate _ h]
      rfl

/-- A written object is found again, unless there is a fenced block in it. -/
theorem extract_encode {repair : Repairer} (keeps : repair.Keeps) {format : Format}
    (readable : format.Readable) {members : Members}
    (sound : (Value.object members).Sound (format.Keeps .extended))
    (hfence : fenced? (encode format (.object members)).toList = none) :
    extract repair (encode format (.object members)) true = .ok members := by
  refine extract_of_candidate keeps ?_ (decode_encode readable sound)
  obtain ⟨inner, hinner⟩ := encodeValue_object format 0 members
  unfold encode at hfence ⊢
  unfold candidate?
  rw [String.toList_ofList, hinner] at hfence ⊢
  rw [candidateChars?_braced hfence, Option.map_some]

end Json

end Wireframe

/-! # Words

A text is split into words at white space. Readers differ in what they count as white space, so that
it is a parameter here: the blank belongs to it, and no letter of the basic alphabet and no hyphen.
-/

namespace Wireframe.Text

def isPlainChar (c : Char) : Bool := c.isAlpha || c == '-'

/-- Made of letters of the basic alphabet and hyphens. -/
def isPlain (s : String) : Bool := s.toList.all isPlainChar

/-- A notion of white space. -/
structure IsSpace (space : Char → Bool) : Prop where
  blank : space ' ' = true
  plain : ∀ c, isPlainChar c = true → space c = false

theorem isSpace_isWhitespace : IsSpace Char.isWhitespace := by
  refine ⟨rfl, fun c hplain => ?_⟩
  rw [Bool.eq_false_iff]
  intro hspace
  simp only [Char.isWhitespace, Bool.or_eq_true, decide_eq_true_eq] at hspace
  rcases hspace with ((rfl | rfl) | rfl) | rfl
  all_goals exact absurd hplain (by decide)

def wordsAmong (pieces : List (List Char)) : List String :=
  (pieces.filter fun piece => !piece.isEmpty).map String.ofList

def words (space : Char → Bool) (s : String) : List String :=
  wordsAmong (s.toList.splitOnP space)

def laterWords (space : Char → Bool) (s : String) : List String :=
  wordsAmong (s.toList.splitOnP space).tail

variable {space : Char → Bool} {s t w : String}

theorem wordsAmong_append (pieces more : List (List Char)) :
    wordsAmong (pieces ++ more) = wordsAmong pieces ++ wordsAmong more := by
  simp [wordsAmong]

theorem splitOnP_of_plain (hspace : IsSpace space) (hs : isPlain s = true) :
    s.toList.splitOnP space = [s.toList] := by
  rw [isPlain, List.all_eq_true] at hs
  exact List.splitOnP_eq_singleton fun c hc => hspace.plain c (hs c hc)

theorem eq_of_mem_words (hspace : IsSpace space) (hs : isPlain s = true)
    (h : w ∈ words space s) : w = s := by
  rw [words, splitOnP_of_plain hspace hs] at h
  obtain ⟨piece, hpiece, rfl⟩ := List.mem_map.mp h
  rw [List.mem_singleton.mp (List.mem_filter.mp hpiece).1, String.ofList_toList]

theorem not_mem_words_of_plain (hspace : IsSpace space) (hs : isPlain s = true) (hw : w ≠ s) :
    w ∉ words space s :=
  fun h => hw (eq_of_mem_words hspace hs h)

theorem mem_words_self (hspace : IsSpace space) (hs : isPlain s = true) (hne : s ≠ "") :
    s ∈ words space s := by
  have hlist : s.toList ≠ [] := fun h => hne (String.toList_eq_nil_iff.mp h)
  rw [words, splitOnP_of_plain hspace hs]
  simp [wordsAmong, hlist]

theorem laterWords_of_plain (hspace : IsSpace space) (hs : isPlain s = true) :
    laterWords space s = [] := by
  rw [laterWords, splitOnP_of_plain hspace hs]
  rfl

/-- What stands in front of a text without white space becomes a part of its first piece. -/
theorem splitOnP_append {p : List Char} (hp : ∀ c ∈ p, space c = false) (s : List Char) :
    ∃ first rest, s.splitOnP space = first :: rest ∧
      (p ++ s).splitOnP space = (p ++ first) :: rest := by
  induction p with
  | nil =>
      obtain ⟨first, rest, hsplit⟩ := List.exists_cons_of_ne_nil (List.splitOnP_ne_nil space s)
      exact ⟨first, rest, hsplit, hsplit⟩
  | cons c p ih =>
      rw [List.forall_mem_cons] at hp
      obtain ⟨first, rest, hsplit, happend⟩ := ih hp.2
      refine ⟨first, rest, hsplit, ?_⟩
      rw [List.cons_append, List.splitOnP_cons_eq_if_modifyHead, if_neg (by simp [hp.1]), happend]
      rfl

/-- Behind a plain beginning that a word does not have, the word can only come later. -/
theorem mem_words_append (hspace : IsSpace space) (hs : isPlain s = true)
    (hw : ¬ s.toList <+: w.toList) : w ∈ words space (s ++ t) ↔ w ∈ laterWords space t := by
  rw [isPlain, List.all_eq_true] at hs
  obtain ⟨first, rest, hsplit, happend⟩ :=
    splitOnP_append (fun c hc => hspace.plain c (hs c hc)) t.toList
  rw [words, laterWords, String.toList_append, happend, hsplit, List.tail_cons,
    ← List.singleton_append, wordsAmong_append, List.mem_append, or_iff_right]
  intro hfirst
  obtain ⟨piece, hpiece, rfl⟩ := List.mem_map.mp hfirst
  apply hw
  rw [List.mem_singleton.mp (List.mem_filter.mp hpiece).1, String.toList_ofList]
  exact List.prefix_append _ _

theorem words_intercalate (hspace : IsSpace space) (ss : List String) :
    words space (" ".intercalate ss) = ss.flatMap (words space) := by
  rw [words, String.toList_intercalate]
  induction ss with
  | nil => rfl
  | cons s ss ih =>
      cases ss with
      | nil => simp [words]
      | cons next ss =>
          have hjoin : " ".toList.intercalate ((s :: next :: ss).map String.toList) =
              s.toList ++ ' ' :: " ".toList.intercalate ((next :: ss).map String.toList) := by
            rw [List.map_cons, List.map_cons, List.intercalate_cons_cons]
            simp
          rw [hjoin, List.splitOnP_append_cons _ _ hspace.blank, wordsAmong_append, ih,
            List.flatMap_cons (x := s), words]

end Wireframe.Text

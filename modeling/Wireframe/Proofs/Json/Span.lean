import Wireframe.Proofs.Json.Prose

/-! # The span of a candidate

The candidate of a text is a part of it, from an opening to a closing brace. In a text with blocks
it lies inside the first one. Looked for in the candidate itself, it is found whole
(`candidate?_span`): the body of a block holds no fence, and a part of a text never holds more
fences than the text (`fences_mono`), so that no block shows up in it.
-/

namespace Wireframe

namespace Json

variable {mark s t rest front back body found : List Char}

/-! ## Fences in a part of a text -/

/-- A character in front makes no fence disappear: at most it moves the fences of the backticks
that follow it. -/
theorem fences_le_cons (c : Char) (s : List Char) : fences s ≤ fences (c :: s) := by
  fun_induction fences s generalizing c with
  | case1 s ih =>
      by_cases hc : c = '\x60'
      · subst hc
        rw [fences]
        exact Nat.succ_le_succ (ih '\x60')
      · rw [fences_cons_of_ne hc, fences]
  | case2 d s hfence ih =>
      by_cases hprefix : fence <+: c :: d :: s
      · -- Both are backticks and one more follows, but not a fence from the second one on.
        obtain ⟨tail, htail⟩ := hprefix
        obtain ⟨rfl, rfl, rfl⟩ : '\x60' = c ∧ '\x60' = d ∧ '\x60' :: tail = s := by
          simpa [fence] using htail
        have hno : ¬ fence <+: '\x60' :: tail := by
          rintro ⟨more, hmore⟩
          obtain rfl : '\x60' :: '\x60' :: more = tail := by simpa [fence] using hmore
          exact hfence ('\x60' :: more) rfl rfl
        rw [fences_cons hno, fences]
        exact Nat.le_succ _
      · rw [fences_cons hprefix]
        exact ih d
  | case3 => exact Nat.zero_le _

theorem fences_le_append (s rest : List Char) : fences s ≤ fences (s ++ rest) := by
  fun_induction fences s with
  | case1 s ih => exact Nat.succ_le_succ ih
  | case2 c s _ ih => exact ih.trans (fences_le_cons c (s ++ rest))
  | case3 => exact Nat.zero_le _

theorem fences_le_append_left (front s : List Char) : fences s ≤ fences (front ++ s) := by
  induction front with
  | nil => exact Nat.le_refl _
  | cons c front ih => exact ih.trans (fences_le_cons c (front ++ s))

/-- A part of a text holds at most as many fences as the text. -/
theorem fences_mono (h : s <:+: t) : fences s ≤ fences t := by
  obtain ⟨front, back, rfl⟩ := h
  exact (fences_le_append_left front s).trans (fences_le_append (front ++ s) back)

theorem fences_lt_append_fence (front s : List Char) :
    fences s < fences (front ++ (fence ++ s)) :=
  calc fences s < fences (fence ++ s) := by rw [fences_fence]; exact Nat.lt_succ_self _
    _ ≤ fences (front ++ (fence ++ s)) := fences_le_append_left front (fence ++ s)

/-! ## What stands before a mark -/

/-- No place where a mark stands is in front of the one that is found. -/
theorem splitFirst_least {front' back' : List Char} (h : splitFirst mark s = some (front, back))
    (hs : s = front' ++ (mark ++ back')) : front.length ≤ front'.length := by
  induction front' generalizing s front with
  | nil =>
      rw [hs, List.nil_append, splitFirst_append] at h
      cases h
      exact Nat.le_refl _
  | cons c front' ih =>
      subst hs
      by_cases hprefix : mark <+: c :: (front' ++ (mark ++ back'))
      · obtain ⟨tail, htail⟩ := hprefix
        rw [List.cons_append, ← htail, splitFirst_append] at h
        cases h
        exact Nat.zero_le _
      · rw [List.cons_append, splitFirst_cons hprefix] at h
        obtain ⟨⟨before, after⟩, hfound, heq⟩ := Option.map_eq_some_iff.mp h
        cases heq
        exact Nat.succ_le_succ (ih hfound rfl)

theorem fences_of_splitFirst (h : splitFirst fence s = some (front, back)) : fences front = 0 := by
  by_contra hne
  obtain ⟨before, after, hsplit⟩ := exists_splitFirst (Nat.pos_of_ne_zero hne)
  have hfront := (splitFirst_eq_some hsplit).1
  have hs : s = before ++ (fence ++ (after ++ (fence ++ back))) := by
    rw [(splitFirst_eq_some h).1, hfront]
    simp
  have hle := splitFirst_least h hs
  rw [hfront, List.length_append, List.length_append] at hle
  have hfence : fence.length = 3 := rfl
  omega

/-- A fence does not begin in characters that are in none. -/
theorem exists_of_fence {left : List Char} (hleft : '\x60' ∉ left)
    (h : left ++ s = front ++ (fence ++ back)) :
    ∃ rest, front = left ++ rest ∧ s = rest ++ (fence ++ back) := by
  rcases List.append_eq_append_iff.mp h with ⟨rest, hfront, hs⟩ | ⟨cut, hcut, hs⟩
  · exact ⟨rest, hfront, hs⟩
  · cases cut with
    | nil => exact ⟨[], by simpa using hcut.symm, hs.symm⟩
    | cons c cut =>
        obtain ⟨rfl, -⟩ := List.cons.inj hs
        exact absurd (by simp [hcut]) hleft

/-! ## Blocks -/

/-- A block in a text: a fence, perhaps the word `json`, and another fence that ends the body. -/
structure Block (s : List Char) where
  front : List Char
  language : List Char
  body : List Char
  back : List Char
  language_eq : language = ['j', 's', 'o', 'n'] ∨ language = []
  text_eq : s = front ++ (fence ++ (language ++ (body ++ (fence ++ back))))

namespace Block

def start (block : Block s) : Nat := block.front.length + fence.length + block.language.length

def stop (block : Block s) : Nat := block.start + block.body.length

/-- No block is opened in front of this one, and none that is opened with it is closed earlier. -/
structure IsFirst (block : Block s) : Prop where
  opened : ∀ other : Block s, block.front.length ≤ other.front.length
  closed : ∀ other : Block s, other.front.length = block.front.length → block.stop ≤ other.stop

theorem two_le_fences (block : Block s) : 2 ≤ fences s := by
  have hclosed := fences_lt_append_fence (block.language ++ block.body) block.back
  have hopened := fences_lt_append_fence block.front
    (block.language ++ block.body ++ (fence ++ block.back))
  rw [block.text_eq, ← List.append_assoc block.language]
  omega

/-- What is taken for a block is the first one, with the word behind its fence left out. -/
theorem exists_isFirst (h : fenced? s = some body) :
    ∃ block : Block s, block.IsFirst ∧ block.body = body := by
  obtain ⟨front, opened, back, hopened, hclosed⟩ := fenced?_eq_some_iff.mp h
  obtain ⟨language, hopen, hlanguage⟩ := exists_language opened
  have hs := (splitFirst_eq_some hopened).1
  have hbody := (splitFirst_eq_some hclosed).1
  refine ⟨⟨front, language, body, back, hlanguage, by rw [← hbody, ← hopen, ← hs]⟩, ⟨?_, ?_⟩, rfl⟩
  · intro other
    exact splitFirst_least hopened other.text_eq
  · intro other (hfront : other.front.length = front.length)
    have hother := hs.symm.trans other.text_eq
    -- Both blocks have the same text behind their opening fence.
    have hrest : language ++ dropLanguage opened =
        (other.language ++ other.body) ++ (fence ++ other.back) := by
      rw [← hopen, List.append_assoc]
      exact List.append_cancel_left (List.append_inj_right hother hfront.symm)
    have hplain : '\x60' ∉ language := by rcases hlanguage with rfl | rfl <;> decide
    obtain ⟨more, hmore, hbehind⟩ := exists_of_fence hplain hrest
    have hlength := congrArg List.length hmore
    rw [List.length_append, List.length_append] at hlength
    have hleast := splitFirst_least hclosed hbehind
    dsimp only [stop, start]
    omega

end Block

/-! ## The candidate -/

theorem fences_of_fenced? (h : fenced? s = some body) : fences body = 0 := by
  obtain ⟨front, opened, back, -, hclosed⟩ := fenced?_eq_some_iff.mp h
  exact fences_of_splitFirst hclosed

/-- A candidate holds at most one fence, so no block. -/
theorem fences_of_candidateChars? (h : candidateChars? s = some found) : fences found ≤ 1 := by
  rw [candidateChars?_eq] at h
  obtain ⟨front, -, back, hscope, -⟩ := exists_of_braced? h
  have hpart : fences found ≤ fences ((fenced? s).getD s) := by
    rw [hscope]
    exact fences_mono ⟨front, back, List.append_assoc _ _ _⟩
  refine hpart.trans ?_
  cases hbody : fenced? s with
  | none => exact fenced?_eq_none_iff.mp hbody
  | some body =>
      rw [Option.getD_some, fences_of_fenced? hbody]
      exact Nat.zero_le 1

/-- Where a candidate stands: inside the first block, if there is one. -/
theorem exists_place (h : candidateChars? s = some found) :
    ∃ before after, s = before ++ (found ++ after) ∧ (Nonempty (Block s) → ∃ block : Block s,
      block.IsFirst ∧ block.start ≤ before.length ∧ before.length + found.length ≤ block.stop) := by
  rw [candidateChars?_eq] at h
  obtain ⟨front, -, back, hscope, -⟩ := exists_of_braced? h
  cases hbody : fenced? s with
  | none =>
      rw [hbody, Option.getD_none] at hscope
      refine ⟨front, back, hscope, fun ⟨block⟩ => ?_⟩
      exact absurd (fenced?_eq_none_iff.mp hbody) (Nat.not_le_of_lt block.two_le_fences)
  | some body =>
      rw [hbody, Option.getD_some] at hscope
      obtain ⟨block, hfirst, rfl⟩ := Block.exists_isFirst hbody
      refine ⟨block.front ++ (fence ++ (block.language ++ front)), back ++ (fence ++ block.back),
        ?_, fun _ => ⟨block, hfirst, ?_, ?_⟩⟩
      · conv_lhs => rw [block.text_eq, hscope]
        simp
      · simp only [Block.start, List.length_append]
        omega
      · simp only [Block.stop, Block.start, hscope, List.length_append]
        omega

/-- A candidate begins and ends with braces, is its own candidate, and is a part of the text, inside
the first block of a text with blocks. -/
theorem candidate?_span {text found : String} (h : candidate? text = some found) :
    (∃ inner, found.toList = '{' :: inner ++ ['}']) ∧ candidate? found = some found ∧
    ∃ before after, text.toList = before ++ (found.toList ++ after) ∧
      (Nonempty (Block text.toList) → ∃ block : Block text.toList, block.IsFirst ∧
        block.start ≤ before.length ∧ before.length + found.toList.length ≤ block.stop) := by
  obtain ⟨chars, hchars, rfl⟩ := Option.map_eq_some_iff.mp h
  rw [String.toList_ofList]
  have hfences := fences_of_candidateChars? hchars
  obtain ⟨-, inner, -, -, rfl⟩ := exists_of_braced? (candidateChars?_eq _ ▸ hchars)
  refine ⟨⟨inner, rfl⟩, ?_, exists_place hchars⟩
  rw [candidate?, String.toList_ofList,
    candidateChars?_braced (fenced?_eq_none_iff.mpr hfences), Option.map_some]

/-- A fourth backtick belongs to the body, and the word behind it too. -/
theorem candidate?_span_ticks :
    let text := "\x7b ````json \x7b\"a``\": \x7b\x7d\x7d\n``` \x7d ``` \x7d```"
    let found := "\x7b\"a``\": \x7b\x7d\x7d"
    candidate? text = some found ∧ candidate? found = some found ∧
      ∃ before after, text.toList = before ++ (found.toList ++ after) ∧
        ∃ block : Block text.toList, block.IsFirst ∧
          block.start ≤ before.length ∧ before.length + found.toList.length ≤ block.stop := by
  intro text found
  have hfound : candidate? text = some found := by decide +kernel
  obtain ⟨-, hstable, before, after, htext, hplace⟩ := candidate?_span hfound
  exact ⟨hfound, hstable, before, after, htext, hplace ⟨⟨"\x7b ".toList, [],
    "`json \x7b\"a``\": \x7b\x7d\x7d\n".toList, " \x7d ``` \x7d```".toList, .inr rfl,
    by decide +kernel⟩⟩⟩

end Json

end Wireframe

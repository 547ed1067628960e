import Wireframe.Proofs.Json.Extent
import Wireframe.Proofs.Json.Fenced

/-! # An object in prose

What is found of an object that stands in prose without braces depends on the fences alone. Where
no fence follows another one, no block is opened, and the object is returned whole, also when its
strings hold braces or a fence (`extract_prose`). An object without a fence is enclosed by the first
block or stands outside of it, and a block outside of which it stands hides it.
-/

namespace Wireframe

namespace Json

variable {mark s rest front back inner : List Char} {c : Char}

/-! ## Counting fences -/

/-- How many fences stand one behind the other, from the front of a text on. -/
def fences : List Char → Nat
  | '\x60' :: '\x60' :: '\x60' :: rest => fences rest + 1
  | _ :: rest => fences rest
  | [] => 0

theorem fences_fence (rest : List Char) : fences (fence ++ rest) = fences rest + 1 := rfl

theorem fences_cons (h : ¬ fence <+: c :: s) : fences (c :: s) = fences s := by
  rw [fences]
  rintro rest rfl rfl
  exact h (List.prefix_append fence rest)

theorem fences_cons_of_ne (h : c ≠ '\x60') (s : List Char) : fences (c :: s) = fences s :=
  fences_cons fun hprefix => h (by simpa [fence] using (List.cons_prefix_cons.mp hprefix).1.symm)

theorem fences_append_cons (hc : c ≠ '\x60') (s rest : List Char) :
    fences (s ++ c :: rest) = fences s + fences rest := by
  fun_induction fences s with
  | case1 s ih => simp only [List.cons_append, fences, ih]; omega
  | case2 d s hfence ih =>
      have hno : ¬ fence <+: d :: s := by
        rintro ⟨tail, heq⟩
        cases heq
        exact hfence tail rfl rfl
      rw [List.cons_append, fences_cons, ih]
      rw [← List.cons_append, prefix_append_cons_iff (by simpa [fence] using hc)]
      exact hno
  | case3 => rw [List.nil_append, fences_cons_of_ne hc, Nat.zero_add]

theorem fences_append_left (h : '\x60' ∉ s) (rest : List Char) :
    fences (s ++ rest) = fences rest := by
  induction s with
  | nil => rfl
  | cons c s ih =>
      rw [List.mem_cons, not_or] at h
      rw [List.cons_append, fences_cons_of_ne (Ne.symm h.1), ih h.2]

theorem fences_eq_zero (h : '\x60' ∉ s) : fences s = 0 := by
  have hnone := fences_append_left h []
  rwa [List.append_nil] at hnone

theorem fences_append_right (h : '\x60' ∉ rest) (s : List Char) :
    fences (s ++ rest) = fences s := by
  cases rest with
  | nil => rw [List.append_nil]
  | cons c rest =>
      rw [List.mem_cons, not_or] at h
      rw [fences_append_cons (Ne.symm h.1), fences_eq_zero h.2, Nat.add_zero]

/-! ## Finding fences -/

theorem splitFirst_eq_some (h : splitFirst fence s = some (front, back)) :
    s = front ++ (fence ++ back) ∧ fences s = fences back + 1 := by
  induction s generalizing front with
  | nil => cases h
  | cons c s ih =>
      by_cases hprefix : fence <+: c :: s
      · obtain ⟨tail, htail⟩ := hprefix
        rw [← htail, splitFirst_append] at h
        cases h
        exact ⟨htail.symm, by rw [← htail, fences_fence]⟩
      · rw [splitFirst_cons hprefix] at h
        obtain ⟨⟨before, after⟩, hfound, heq⟩ := Option.map_eq_some_iff.mp h
        cases heq
        obtain ⟨rfl, hcount⟩ := ih hfound
        exact ⟨rfl, by rw [fences_cons hprefix, hcount]⟩

theorem splitFirst_eq_none_iff : splitFirst fence s = none ↔ fences s = 0 := by
  induction s with
  | nil => exact iff_of_true rfl rfl
  | cons c s ih =>
      by_cases hprefix : fence <+: c :: s
      · obtain ⟨tail, htail⟩ := hprefix
        rw [← htail, splitFirst_append, fences_fence]
        exact iff_of_false nofun (Nat.succ_ne_zero _)
      · rw [splitFirst_cons hprefix, Option.map_eq_none_iff, ih, fences_cons hprefix]

theorem exists_splitFirst (h : 0 < fences s) :
    ∃ front back, splitFirst fence s = some (front, back) := by
  cases hsplit : splitFirst fence s with
  | none => exact absurd (splitFirst_eq_none_iff.mp hsplit) (Nat.ne_of_gt h)
  | some found => exact ⟨found.1, found.2, rfl⟩

theorem fences_dropLanguage (s : List Char) : fences (dropLanguage s) = fences s := by
  unfold dropLanguage
  split
  all_goals rfl

theorem exists_language (s : List Char) : ∃ language, s = language ++ dropLanguage s ∧
    (language = ['j', 's', 'o', 'n'] ∨ language = []) := by
  by_cases hjson : ['j', 's', 'o', 'n'] <+: s
  · obtain ⟨tail, rfl⟩ := hjson
    exact ⟨['j', 's', 'o', 'n'], rfl, .inl rfl⟩
  · exact ⟨[], (dropLanguage_of_not hjson).symm, .inr rfl⟩

theorem dropLanguage_suffix (s : List Char) : dropLanguage s <:+ s := by
  obtain ⟨language, hs, -⟩ := exists_language s
  exact ⟨language, hs.symm⟩

theorem suffix_of_opened (h : splitFirst fence s = some (front, back)) :
    dropLanguage back <:+ s := by
  rw [(splitFirst_eq_some h).1, ← List.append_assoc]
  exact (dropLanguage_suffix back).trans (List.suffix_append _ back)

theorem fenced?_of_none (h : splitFirst fence s = none) : fenced? s = none := by
  rw [fenced?, h]
  rfl

theorem fenced?_of_some (h : splitFirst fence s = some (front, back)) :
    fenced? s = (splitFirst fence (dropLanguage back)).map Prod.fst := by
  cases hclosed : splitFirst fence (dropLanguage back) with
  | none => simp [fenced?, h, hclosed]
  | some closed => simp [fenced?, h, hclosed]

/-- A block is opened by the first fence and closed by the second one. -/
theorem fenced?_eq_none_iff : fenced? s = none ↔ fences s ≤ 1 := by
  cases hopened : splitFirst fence s with
  | none =>
      rw [splitFirst_eq_none_iff.mp hopened]
      exact iff_of_true (fenced?_of_none hopened) (Nat.zero_le 1)
  | some opened =>
      obtain ⟨front, back⟩ := opened
      rw [fenced?_of_some hopened, Option.map_eq_none_iff, splitFirst_eq_none_iff,
        fences_dropLanguage, (splitFirst_eq_some hopened).2]
      omega

theorem fenced?_eq_some_iff {body : List Char} : fenced? s = some body ↔
    ∃ front opened back, splitFirst fence s = some (front, opened) ∧
      splitFirst fence (dropLanguage opened) = some (body, back) := by
  cases hopened : splitFirst fence s with
  | none => simp [fenced?_of_none hopened]
  | some found =>
      obtain ⟨front, opened⟩ := found
      simp [fenced?_of_some hopened]

theorem isInfix_of_fenced? {body : List Char} (h : fenced? s = some body) : body <:+: s := by
  obtain ⟨front, opened, back, hopened, hclosed⟩ := fenced?_eq_some_iff.mp h
  have hbody : body <:+: dropLanguage opened := by
    rw [(splitFirst_eq_some hclosed).1]
    exact (List.prefix_append _ _).isInfix
  exact hbody.trans (suffix_of_opened hopened).isInfix

/-! ## Blocks around a brace -/

/-- A block in front of a brace is found whatever follows. -/
theorem fenced?_of_closed (h : 2 ≤ fences s) (rest : List Char) :
    fenced? (s ++ '{' :: rest) = fenced? s := by
  obtain ⟨front, back, hopened⟩ := exists_splitFirst (Nat.lt_of_lt_of_le Nat.zero_lt_two h)
  have hcount := (splitFirst_eq_some hopened).2
  obtain ⟨body, after, hclosed⟩ : ∃ body after,
      splitFirst fence (dropLanguage back) = some (body, after) :=
    exists_splitFirst (by rw [fences_dropLanguage]; omega)
  have hwhole : splitFirst fence (s ++ '{' :: rest) = some (front, back ++ '{' :: rest) := by
    rw [splitFirst_around (by decide), hopened]
    rfl
  rw [fenced?_of_some hopened, fenced?_of_some hwhole, dropLanguage_append_cons (by decide),
    splitFirst_around (by decide), hclosed]
  rfl

/-- A block that is opened in front of a brace ends behind it. -/
theorem fenced?_of_open (h : fences s = 1) (rest : List Char) :
    ∃ first, first <:+ s ∧ fenced? (s ++ '{' :: rest) =
      (splitFirst fence rest).map fun (before, _) => first ++ '{' :: before := by
  obtain ⟨front, back, hopened⟩ := exists_splitFirst (h ▸ Nat.zero_lt_one)
  have hcount := (splitFirst_eq_some hopened).2
  have hclosed : splitFirst fence (dropLanguage back) = none := by
    rw [splitFirst_eq_none_iff, fences_dropLanguage]
    omega
  have hwhole : splitFirst fence (s ++ '{' :: rest) = some (front, back ++ '{' :: rest) := by
    rw [splitFirst_around (by decide), hopened]
    rfl
  refine ⟨dropLanguage back, suffix_of_opened hopened, ?_⟩
  rw [fenced?_of_some hwhole, dropLanguage_append_cons (by decide), splitFirst_around (by decide),
    hclosed, Option.map_none, Option.none_or, Option.map_map]
  rfl

theorem splitFirst_of_free (h : fences s = 0) (hc : c ∉ fence) (rest : List Char) :
    splitFirst fence (s ++ c :: rest) =
      (splitFirst fence rest).map fun (before, after) => (s ++ c :: before, after) := by
  rw [splitFirst_around hc, splitFirst_eq_none_iff.mpr h, Option.map_none, Option.none_or]

theorem fenced?_of_free (h : fences s = 0) (hc : c ∉ fence) (rest : List Char) :
    fenced? (s ++ c :: rest) = fenced? rest := by
  have hsplit := splitFirst_of_free h hc rest
  cases hrest : splitFirst fence rest with
  | none =>
      rw [hrest] at hsplit
      rw [fenced?_of_none hrest, fenced?_of_none hsplit]
  | some found =>
      rw [hrest] at hsplit
      rw [fenced?_of_some hrest, fenced?_of_some hsplit]

/-! ## The candidate -/

theorem fences_around (front inner back : List Char) :
    fences (front ++ ('{' :: inner ++ '}' :: back)) =
      fences front + fences inner + fences back := by
  rw [List.cons_append, fences_append_cons (by decide), fences_append_cons (by decide),
    Nat.add_assoc]

theorem braced?_of_block (h : 2 ≤ fences s) (hs : '{' ∉ s ∨ '}' ∉ s) :
    ∃ body, fenced? s = some body ∧ braced? body = none := by
  cases hbody : fenced? s with
  | none =>
      rw [fenced?_eq_none_iff] at hbody
      omega
  | some body =>
      have hsub := (isInfix_of_fenced? hbody).subset
      exact ⟨body, rfl, braced?_of_not_mem (hs.imp (mt (hsub ·)) (mt (hsub ·)))⟩

/-- What no block takes apart is found by its braces. -/
theorem candidateChars?_of_fences (hfront : '{' ∉ front) (hback : '}' ∉ back)
    (h : fences front + fences inner + fences back ≤ 1) :
    candidateChars? (front ++ ('{' :: inner ++ '}' :: back)) = some ('{' :: inner ++ ['}']) := by
  have hnone : fenced? (front ++ ('{' :: inner ++ '}' :: back)) = none := by
    rw [fenced?_eq_none_iff, fences_around]
    exact h
  rw [candidateChars?_eq, hnone, Option.getD_none, braced?_around hfront hback]

/-- Without fences of its own, a text in braces is found unless a block stands before it, or behind
it with nothing in front to begin at. -/
theorem candidateChars?_of_free (hfront : '{' ∉ front) (hback : '}' ∉ back)
    (hinner : fences inner = 0) :
    candidateChars? (front ++ ('{' :: inner ++ '}' :: back)) =
      if fences front ≤ 1 ∧ (0 < fences front ∨ fences back ≤ 1) then some ('{' :: inner ++ ['}'])
      else none := by
  rw [candidateChars?_eq, List.cons_append]
  rcases Nat.lt_trichotomy (fences front) 1 with hnone | hopen | hclosed
  · have hzero : fences front = 0 := Nat.lt_one_iff.mp hnone
    rw [fenced?_of_free hzero (by decide), fenced?_of_free hinner (by decide)]
    by_cases hblock : fences back ≤ 1
    · rw [fenced?_eq_none_iff.mpr hblock, Option.getD_none, if_pos (by omega)]
      exact braced?_around hfront hback inner
    · obtain ⟨body, hbody, hbraced⟩ := braced?_of_block (by omega) (.inr hback)
      rw [hbody, Option.getD_some, hbraced, if_neg (by omega)]
  · obtain ⟨first, hfirst, hfenced⟩ := fenced?_of_open hopen (inner ++ '}' :: back)
    rw [splitFirst_of_free hinner (by decide)] at hfenced
    rw [hfenced, if_pos (by omega)]
    cases hend : splitFirst fence back with
    | none => exact braced?_around hfront hback inner
    | some found =>
        obtain ⟨before, after⟩ := found
        have hbefore : '}' ∉ before := fun h => hback <| by
          rw [(splitFirst_eq_some hend).1]
          exact List.mem_append_left _ h
        exact braced?_around (mt (hfirst.subset ·) hfront) hbefore inner
  · rw [fenced?_of_closed hclosed]
    obtain ⟨body, hbody, hbraced⟩ := braced?_of_block hclosed (.inl hfront)
    rw [hbody, Option.getD_some, hbraced, if_neg (by omega)]

/-! ## The object -/

theorem extract_of_none (repair : Repairer) {text : String} (h : candidate? text = none)
    (lenient : Bool) : extract repair text lenient = .error .noCandidate := by
  unfold extract
  rw [h]

/-- The braces of an object are the outermost ones in prose without braces. The blanks beside them
go with the prose, and no fence is made or lost by that. -/
theorem exists_parts {before text after : String} {members : Members}
    (h : decode .strict text = .ok (.object members)) (hbefore : '{' ∉ before.toList)
    (hafter : '}' ∉ after.toList) :
    ∃ front inner back, (before ++ text ++ after).toList = front ++ ('{' :: inner ++ '}' :: back) ∧
      '{' ∉ front ∧ '}' ∉ back ∧ fences front = fences before.toList ∧
      fences inner = fences text.toList ∧ fences back = fences after.toList ∧
      decode .strict (String.ofList ('{' :: inner ++ ['}'])) = .ok (.object members) := by
  obtain ⟨blanks, inner, blanks', htext, hblanks, hblanks', hread⟩ := decode_object_extent h
  have hfree : '\x60' ∉ blanks := Text.not_mem_of_blank (by decide) hblanks
  have hfree' : '\x60' ∉ blanks' := Text.not_mem_of_blank (by decide) hblanks'
  refine ⟨before.toList ++ blanks, inner, blanks' ++ after.toList, by simp [htext], ?_, ?_,
    fences_append_right hfree _, ?_, fences_append_left hfree' _, hread⟩
  · rw [List.mem_append, not_or]
    exact ⟨hbefore, Text.not_mem_of_blank (by decide) hblanks⟩
  · rw [List.mem_append, not_or]
    exact ⟨Text.not_mem_of_blank (by decide) hblanks', hafter⟩
  · rw [htext, fences_around, fences_eq_zero hfree, fences_eq_zero hfree', Nat.zero_add,
      Nat.add_zero]

/-- An object in prose without braces is returned as it is where no fence follows another one. If
there is no fence in it, it is returned exactly if no block stands in front of it and none behind
it, the block apart that begins in front and encloses it. -/
theorem extract_prose (repair : Repairer) {before text after : String} {members : Members}
    (h : decode .strict text = .ok (.object members)) (hbefore : '{' ∉ before.toList)
    (hafter : '}' ∉ after.toList) (lenient : Bool) :
    (fences before.toList + fences text.toList + fences after.toList ≤ 1 →
      extract repair (before ++ text ++ after) lenient = .ok members) ∧
    (fences text.toList = 0 →
      extract repair (before ++ text ++ after) lenient =
        if fences before.toList ≤ 1 ∧ (0 < fences before.toList ∨ fences after.toList ≤ 1) then
          .ok members
        else .error .noCandidate) := by
  obtain ⟨front, inner, back, hwhole, hfront, hback, hcount, hcount', hcount'', hread⟩ :=
    exists_parts h hbefore hafter
  have hcandidate : candidate? (before ++ text ++ after) =
      (candidateChars? (front ++ ('{' :: inner ++ '}' :: back))).map String.ofList := by
    rw [candidate?, hwhole]
  rw [← hcount, ← hcount', ← hcount'']
  constructor
  · intro hfew
    rw [candidateChars?_of_fences hfront hback hfew] at hcandidate
    exact extract_of_strict repair lenient hcandidate hread
  · intro hfree
    rw [candidateChars?_of_free hfront hback hfree] at hcandidate
    split at hcandidate
    · next hreached =>
      rw [if_pos hreached]
      exact extract_of_strict repair lenient hcandidate hread
    · next hhidden =>
      rw [if_neg hhidden]
      exact extract_of_none repair hcandidate lenient

/-- Braces, a quote and a fence in a string. -/
theorem extract_prose_strings :
    extract Lenient.repair ("as ``" ++ "\x7b\"a\":\"\x7d\\\"``` \x7b\"\x7d" ++ "\n`` \x7b") false =
      .ok [("a", .string "\x7d\"``` \x7b")] := by
  have hsound : (Value.object [("a", .string "\x7d\"``` \x7b")]).Sound Number.IsInteger :=
    .object (List.nodup_singleton _) (List.forall_mem_singleton.mpr (.string _))
  refine (@extract_prose _ _ _ _ _ ?_ ?_ ?_ false).1 ?_
  · refine (@decode_dump _ 0 _ hsound ?_).2
    rw [dump, if_pos (by decide +kernel)]
    exact congrArg Except.ok (by decide +kernel)
  · decide +kernel
  · decide +kernel
  · decide +kernel

/-- Two fences in front of an object hide it. -/
theorem extract_prose_hidden :
    let before := "``` ``` "
    let text := "\x7b\"a\":1\x7d"
    decode .strict text = .ok (.object [("a", .int 1)]) ∧ '{' ∉ before.toList ∧
      '}' ∉ before.toList ∧ extract Lenient.repair (before ++ text ++ "") false = .error .noCandidate := by
  have hsound : (Value.object [("a", .int 1)]).Sound Number.IsInteger :=
    .object (List.nodup_singleton _) (List.forall_mem_singleton.mpr (.number trivial))
  refine ⟨?_, by decide, by decide, extract_of_none _ (by decide +kernel) false⟩
  refine (@decode_dump _ 0 _ hsound ?_).2
  rw [dump, if_pos (by decide +kernel)]
  exact congrArg Except.ok (by decide +kernel)

end Json

end Wireframe

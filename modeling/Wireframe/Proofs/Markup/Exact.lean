import Wireframe.Proofs.Markup.ReadBack

/-! # Reading is exact

A reader of tags takes nothing for what it is not: an element that is read was written as it stands,
up to the last character. Together with `Tag.read?_html` this says that a text is the html of a
readable element exactly when that element is read from it.
-/

namespace Wireframe

namespace Text

theorem escapeChars_of_unescape? {s t : List Char} (h : unescape? s = some t) :
    escapeChars t = s := by
  induction s using unescape?.induct generalizing t with
  | case1 =>
      cases h
      rfl
  | case2 rest ih | case3 rest ih | case4 rest ih | case5 rest ih | case6 rest ih =>
      rw [unescape?, Option.map_eq_some_iff] at h
      obtain ⟨t, ht, rfl⟩ := h
      rw [escapeChars_cons, ih ht]
      rfl
  | case7 c rest h₁ h₂ h₃ h₄ h₅ hreserved =>
      rw [unescape?.eq_7 c rest h₁ h₂ h₃ h₄ h₅, if_pos hreserved] at h
      cases h
  | case8 c rest h₁ h₂ h₃ h₄ h₅ hfree ih =>
      rw [unescape?.eq_7 c rest h₁ h₂ h₃ h₄ h₅, if_neg hfree, Option.map_eq_some_iff] at h
      obtain ⟨t, ht, rfl⟩ := h
      have hnone : entityOf? c = none := by simpa using hfree
      rw [escapeChars_cons, ih ht, escapeChar, hnone]
      rfl

end Text

namespace Tag

variable {s rest : List Char}

theorem readName_exact {name : String} (h : readName s = some (name, rest)) :
    s = name.toList ++ rest ∧ isName name = true := by
  rw [readName] at h
  split at h
  · cases h
  · rename_i hne
    simp only [Option.some.injEq, Prod.mk.injEq] at h
    obtain ⟨rfl, rfl⟩ := h
    rw [String.toList_ofList, List.takeWhile_append_dropWhile]
    refine ⟨rfl, ?_⟩
    rw [isName, String.toList_ofList, Bool.and_eq_true]
    exact ⟨by simpa using hne, List.all_takeWhile⟩

theorem readUpTo_exact {mark : Char} {text : String} (h : readUpTo mark s = some (text, rest)) :
    s = Text.escapeChars text.toList ++ rest := by
  rw [readUpTo, Option.bind_eq_bind, Option.bind_eq_some_iff] at h
  obtain ⟨chars, hchars, h⟩ := h
  simp only [Option.some.injEq, Prod.mk.injEq] at h
  obtain ⟨rfl, rfl⟩ := h
  rw [String.toList_ofList, Text.escapeChars_of_unescape? hchars, List.takeWhile_append_dropWhile]

theorem readAttribute_exact {entry : String × String} (h : readAttribute s = some (entry, rest)) :
    ' ' :: s = TagHead.attributeChars entry ++ rest ∧ isName entry.1 = true := by
  rw [readAttribute, Option.bind_eq_bind, Option.bind_eq_some_iff] at h
  obtain ⟨⟨key, behind⟩, hkey, h⟩ := h
  obtain ⟨rfl, hname⟩ := readName_exact hkey
  dsimp only at h
  split at h
  · rename_i rest'
    split at h
    · rename_i value rest'' hvalue
      cases h
      refine ⟨?_, hname⟩
      rw [readUpTo_exact hvalue]
      simp [TagHead.attributeChars]
    · cases h
  · cases h

theorem readAttributes_exact {fuel : Nat} {entries : List (String × String)}
    (h : readAttributes fuel s = some (entries, rest)) :
    s = entries.flatMap TagHead.attributeChars ++ rest ∧
      ∀ entry ∈ entries, isName entry.1 = true := by
  induction fuel generalizing s entries with
  | zero =>
      unfold readAttributes at h
      split at h
      · rename_i heq
        cases heq
      · cases h
      · cases h
        exact ⟨rfl, by simp⟩
  | succ fuel ih =>
      unfold readAttributes at h
      split at h
      · rename_i behind heq
        cases heq
        simp only [Option.bind_eq_bind, Option.bind_eq_some_iff, Option.some.injEq,
          Prod.mk.injEq] at h
        obtain ⟨⟨entry, middle⟩, hentry, ⟨others, last⟩, hothers, rfl, rfl⟩ := h
        obtain ⟨hfirst, hname⟩ := readAttribute_exact hentry
        obtain ⟨rfl, hkeys⟩ := ih hothers
        rw [hfirst, List.flatMap_cons, List.append_assoc]
        exact ⟨rfl, List.forall_mem_cons.mpr ⟨hname, hkeys⟩⟩
      · cases h
      · cases h
        exact ⟨rfl, by simp⟩

theorem readOpening_exact {name : String} {attributes : List (String × String)}
    (h : readOpening s = some ((name, attributes), rest)) :
    s = TagHead.openingChars { name, attributes } ++ rest ∧ isName name = true ∧
      ∀ entry ∈ attributes, isName entry.1 = true := by
  unfold readOpening at h
  split at h
  · rename_i behind
    simp only [Option.bind_eq_bind, Option.bind_eq_some_iff, Option.some.injEq, Prod.mk.injEq] at h
    obtain ⟨⟨found, middle⟩, hfound, ⟨entries, last⟩, hentries, ⟨rfl, rfl⟩, rfl⟩ := h
    obtain ⟨rfl, hname⟩ := readName_exact hfound
    obtain ⟨rfl, hkeys⟩ := readAttributes_exact hentries
    refine ⟨?_, hname, hkeys⟩
    simp [TagHead.openingChars]
  · cases h

theorem readClosing_exact {name : String} (h : readClosing name s = some rest) :
    s = TagHead.closingChars { name } ++ rest := by
  unfold readClosing at h
  split at h
  · rename_i behind
    rw [Option.bind_eq_bind, Option.bind_eq_some_iff] at h
    obtain ⟨⟨found, last⟩, hfound, h⟩ := h
    obtain ⟨rfl, -⟩ := readName_exact hfound
    dsimp only at h
    split at h
    · split at h
      · rename_i heq
        cases h
        cases heq
        simp [TagHead.closingChars]
      · cases h
    · cases h
  · cases h

/-- What is read as one element, or as elements up to a closing tag, is written so. -/
theorem read_exact (fuel : Nat) :
    (∀ s tag rest, readElement fuel s = some (tag, rest) → s = chars tag ++ rest ∧ Readable tag) ∧
      ∀ s tags rest, readElements fuel s = some (tags, rest) →
        s = charsAll tags ++ rest ∧ ∀ tag ∈ tags, Readable tag := by
  induction fuel with
  | zero =>
      refine ⟨?_, ?_⟩ <;> intro s tag rest h
      · cases h
      · unfold readElements at h
        cases h
  | succ fuel ih =>
      refine ⟨?_, ?_⟩ <;> intro s tag rest h
      · rw [readElement, Option.bind_eq_bind, Option.bind_eq_some_iff] at h
        obtain ⟨⟨⟨name, attributes⟩, behind⟩, hopening, h⟩ := h
        obtain ⟨rfl, hname, hkeys⟩ := readOpening_exact hopening
        dsimp only at h
        split at h
        · cases h
          refine ⟨?_, .void hname hkeys⟩
          rw [chars_void]
          simp [TagHead.openingChars]
        · simp only [Option.bind_eq_bind, Option.bind_eq_some_iff, Option.some.injEq,
            Prod.mk.injEq] at h
          obtain ⟨⟨text, middle⟩, htext, ⟨elements, last⟩, helements, closed, hclosed, rfl,
            rfl⟩ := h
          obtain ⟨rfl, hbelow⟩ := ih.2 _ _ _ helements
          refine ⟨?_, .element hname hkeys rfl rfl hbelow⟩
          have hlast : last = TagHead.closingChars { name } ++ closed := readClosing_exact hclosed
          rw [readUpTo_exact htext, hlast, chars_element rfl rfl]
          simp [TagHead.openingChars, TagHead.closingChars]
        · cases h
      · by_cases hclosing : ∃ more, s = '<' :: '/' :: more
        · obtain ⟨more, rfl⟩ := hclosing
          cases h
          exact ⟨rfl, by simp⟩
        · rw [readElements_succ fun more heq => hclosing ⟨more, heq⟩] at h
          simp only [Option.bind_eq_bind, Option.bind_eq_some_iff, Option.some.injEq,
            Prod.mk.injEq] at h
          obtain ⟨⟨element, middle⟩, helement, ⟨elements, last⟩, helements, rfl, rfl⟩ := h
          obtain ⟨rfl, hfirst⟩ := ih.1 _ _ _ helement
          obtain ⟨hmiddle, hothers⟩ := ih.2 _ _ _ helements
          refine ⟨?_, List.forall_mem_cons.mpr ⟨hfirst, hothers⟩⟩
          rw [charsAll, List.append_assoc, ← hmiddle]

/-- An element is read from a text exactly when the text is its html and it is readable. -/
theorem read?_eq_some_iff {text : String} {tag : Tag} :
    read? text = some tag ↔ Readable tag ∧ tag.html = text := by
  constructor
  · intro h
    unfold read? at h
    split at h
    · rename_i found hfound
      cases h
      obtain ⟨hchars, readable⟩ := (read_exact _).1 _ _ _ hfound
      rw [List.append_nil] at hchars
      exact ⟨readable, by rw [html, ← hchars, String.ofList_toList]⟩
    · cases h
  · rintro ⟨readable, rfl⟩
    exact read?_html readable

end Tag

end Wireframe

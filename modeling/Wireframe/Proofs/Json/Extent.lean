import Wireframe.Proofs.Json.Decoded
import Wireframe.Proofs.Json.Dialect
import Wireframe.Proofs.Json.RoundTrip

/-! # How far readers look

A reader takes a part of a text and leaves the rest, and it looks at most at the first character of
what it leaves. So what it took is read alike when the rest is cut off, wherever that is done. For
an object this means that the text between its braces denotes it without what stands around
(`decode_object_extent`).
-/

namespace Wireframe.Json

/-- What is read is read alike before any part of the rest. -/
def Local {α β : Type} (reader : List Char → β) (result : α × List Char → β) : Prop :=
  ∀ s a rest, reader s = result (a, rest) →
    ∃ read, s = read ++ rest ∧ ∀ kept, kept <+: rest → reader (read ++ kept) = result (a, kept)

variable {s rest kept : List Char}

theorem mem_head?_of_take (h : kept <+: s) {c : Char} (hc : c ∈ kept.head?) : c ∈ s.head? := by
  obtain ⟨cut, rfl⟩ := h
  cases kept with
  | nil => cases hc
  | cons d kept => exact hc

/-! ## Strings -/

theorem local_readUnit : Local readUnit some := by
  intro s unit rest h
  unfold readUnit at h
  split at h
  · next a b c d tail =>
    simp only [Option.bind_eq_bind, Option.bind_eq_some_iff, Option.some.injEq,
      Prod.mk.injEq] at h
    obtain ⟨a', ha, b', hb, c', hc, d', hd, rfl, rfl⟩ := h
    refine ⟨[a, b, c, d], rfl, fun kept _ => ?_⟩
    simp [readUnit, ha, hb, hc, hd]
  · cases h

theorem local_readScalar : Local readScalar some := by
  intro s c rest h
  simp only [readScalar, Option.bind_eq_bind, Option.bind_eq_some_iff, Prod.exists] at h
  obtain ⟨unit, after, hunit, h⟩ := h
  obtain ⟨read, rfl, hread⟩ := local_readUnit s unit after hunit
  split at h
  · next hhigh =>
    split at h
    · next tail =>
      obtain ⟨⟨low, after⟩, hlow, hpair⟩ := Option.bind_eq_some_iff.mp h
      split at hpair
      · next hrange =>
        obtain ⟨rfl, rfl⟩ := Prod.mk.inj (Option.some.inj hpair)
        obtain ⟨more, rfl, hmore⟩ := local_readUnit _ low after hlow
        refine ⟨read ++ '\\' :: 'u' :: more, by simp, fun kept hkept => ?_⟩
        have hafter : '\\' :: 'u' :: (more ++ kept) <+: '\\' :: 'u' :: (more ++ after) := by
          simpa using hkept
        simp [readScalar, hread _ hafter, hhigh, hmore kept hkept, hrange]
      · cases hpair
    · cases h
  · next hhigh =>
    split at h
    · cases h
    · next hlow =>
      cases h
      refine ⟨read, rfl, fun kept hkept => ?_⟩
      simp only [readScalar, Option.bind_eq_bind, hread kept hkept, Option.bind_some]
      rw [if_neg hhigh, if_neg hlow]

theorem local_readEscape : Local readEscape some := by
  intro s c rest h
  unfold readEscape at h
  split at h
  case h_9 tail =>
    obtain ⟨read, rfl, hread⟩ := local_readScalar tail c rest h
    exact ⟨'u' :: read, rfl, hread⟩
  case h_10 => cases h
  all_goals
    cases h
    exact ⟨[_], rfl, fun kept _ => rfl⟩

theorem exists_cons_of_lt_length {n : Nat} {steps : List Char} (h : n < steps.length) :
    ∃ step more, steps = step :: more ∧ n ≤ more.length := by
  cases steps with
  | nil => cases h
  | cons step more => exact ⟨step, more, rfl, Nat.le_of_lt_succ h⟩

/-- A string is read alike with fewer steps, as long as there are as many as it has characters. -/
theorem readString_extent {steps acc : List Char} {str : String}
    (h : readString steps acc s = some (str, rest)) :
    ∃ read, s = read ++ rest ∧ ∀ kept, kept <+: rest → ∀ steps' : List Char,
      read.length ≤ steps'.length → readString steps' acc (read ++ kept) = some (str, kept) := by
  fun_induction readString steps acc s with
  | case1 acc step steps tail c after hescape ih =>
    obtain ⟨escape, rfl, hlocal⟩ := local_readEscape tail c after hescape
    obtain ⟨read, rfl, hread⟩ := ih h
    refine ⟨'\\' :: escape ++ read, by simp, fun kept hkept steps' hlength => ?_⟩
    obtain ⟨step', more, rfl, hmore⟩ := exists_cons_of_lt_length hlength
    have hafter : read ++ kept <+: read ++ rest := by simpa using hkept
    rw [List.cons_append, List.cons_append, List.append_assoc,
      readString_escape (hlocal _ hafter)]
    exact hread kept hkept more (Nat.le_trans (by simp) hmore)
  | case2 => cases h
  | case3 acc step steps tail hslash =>
    cases h
    refine ⟨['"'], rfl, fun kept _ steps' hlength => ?_⟩
    obtain ⟨step', more, rfl, -⟩ := exists_cons_of_lt_length hlength
    rfl
  | case4 => cases h
  | case5 acc step steps c tail hslash hquote hplain ih =>
    obtain ⟨read, rfl, hread⟩ := ih h
    refine ⟨c :: read, rfl, fun kept hkept steps' hlength => ?_⟩
    obtain ⟨step', more, rfl, hmore⟩ := exists_cons_of_lt_length hlength
    rw [List.cons_append, readString_plain hslash hquote (Nat.not_lt.mp hplain)]
    exact hread kept hkept more hmore
  | case6 => cases h

theorem local_readQuoted : Local readQuoted some := by
  intro s str rest h
  obtain ⟨read, hs, hread⟩ := readString_extent h
  exact ⟨read, hs, fun kept hkept => hread kept hkept _ (by simp)⟩

/-! ## Numbers -/

theorem spanDigits_eq (s : List Char) : s = (spanDigits s).1 ++ (spanDigits s).2 :=
  List.takeWhile_append_dropWhile.symm

theorem spanDigits_kept (h : kept <+: (spanDigits s).2) :
    spanDigits ((spanDigits s).1 ++ kept) = ((spanDigits s).1, kept) := by
  refine spanDigits_append isDigit_of_mem_spanDigits fun c hc => ?_
  have hmem : c ∈ (s.dropWhile Char.isDigit).head? := mem_head?_of_take h hc
  have hhead := List.head?_dropWhile_not Char.isDigit s
  rwa [Option.mem_def.mp hmem] at hhead

theorem readFraction_cons (s : List Char) :
    readFraction ('.' :: s) = if (spanDigits s).1.isEmpty then none
      else some (some (spanDigits s).1, (spanDigits s).2) := rfl

theorem local_readFraction : Local readFraction some := by
  intro s fraction rest h
  by_cases hpoint : ∃ tail, s = '.' :: tail
  · obtain ⟨tail, rfl⟩ := hpoint
    rw [readFraction_cons] at h
    split at h
    · cases h
    · next hdigits =>
      cases h
      refine ⟨'.' :: (spanDigits tail).1, congrArg _ (spanDigits_eq tail), fun kept hkept => ?_⟩
      rw [List.cons_append, readFraction_cons, spanDigits_kept hkept]
      exact if_neg hdigits
  · have hne : ∀ t, t <+: s → ∀ c ∈ t.head?, c ≠ '.' := by
      rintro t ht c hc rfl
      obtain ⟨tail, htail⟩ := List.head?_eq_some_iff.mp (mem_head?_of_take ht hc)
      exact hpoint ⟨tail, htail⟩
    rw [readFraction_of_ne (hne s List.prefix_rfl)] at h
    cases h
    exact ⟨[], rfl, fun kept hkept => readFraction_of_ne (hne kept hkept)⟩

theorem splitSign_extent (s : List Char) :
    ∃ sign, s = sign ++ (Text.splitSign s).2 ∧ ∀ t : List Char,
      t.head? = (Text.splitSign s).2.head? →
        Text.splitSign (sign ++ t) = ((Text.splitSign s).1, t) := by
  unfold Text.splitSign
  split
  · exact ⟨['-'], rfl, fun _ _ => rfl⟩
  · exact ⟨['+'], rfl, fun _ _ => rfl⟩
  · next hminus hplus =>
    refine ⟨[], rfl, fun t ht => ?_⟩
    rw [List.nil_append]
    split
    · obtain ⟨tail, htail⟩ := List.head?_eq_some_iff.mp ht.symm
      exact absurd htail (hminus tail)
    · obtain ⟨tail, htail⟩ := List.head?_eq_some_iff.mp ht.symm
      exact absurd htail (hplus tail)
    · rfl

theorem readExponentDigits_eq (s : List Char) :
    readExponentDigits s =
      if (spanDigits (Text.splitSign s).2).1.isEmpty then none
      else
        let magnitude : Int := Nat.ofDigitChars 10 (spanDigits (Text.splitSign s).2).1 0
        some (if (Text.splitSign s).1 then -magnitude else magnitude,
          (spanDigits (Text.splitSign s).2).2) := rfl

theorem local_readExponentDigits : Local readExponentDigits some := by
  intro s exponent rest h
  obtain ⟨sign, hs, hsign⟩ := splitSign_extent s
  rw [readExponentDigits_eq] at h
  split at h
  · cases h
  · next hdigits =>
    obtain ⟨rfl, rfl⟩ := Prod.mk.inj (Option.some.inj h)
    have hspan := spanDigits_eq (Text.splitSign s).2
    refine ⟨sign ++ (spanDigits (Text.splitSign s).2).1, ?_, fun kept hkept => ?_⟩
    · rw [List.append_assoc, ← hspan, ← hs]
    · have hne : (spanDigits (Text.splitSign s).2).1 ≠ [] := by simpa using hdigits
      have hhead : ((spanDigits (Text.splitSign s).2).1 ++ kept).head? =
          (Text.splitSign s).2.head? := by
        conv_rhs => rw [hspan]
        rw [List.head?_append_of_ne_nil _ hne, List.head?_append_of_ne_nil _ hne]
      rw [readExponentDigits_eq, List.append_assoc, hsign _ hhead]
      dsimp only
      rw [spanDigits_kept hkept, if_neg hdigits]

theorem local_readExponent : Local readExponent some := by
  intro s exponent rest h
  unfold readExponent at h
  split at h
  case h_1 tail | h_2 tail =>
    obtain ⟨⟨n, after⟩, hn, heq⟩ := Option.map_eq_some_iff.mp h
    cases heq
    obtain ⟨read, rfl, hread⟩ := local_readExponentDigits tail n _ hn
    refine ⟨_ :: read, rfl, fun kept hkept => ?_⟩
    rw [List.cons_append, readExponent, hread kept hkept]
    rfl
  case h_3 hlower hupper =>
    cases h
    refine ⟨[], rfl, fun kept hkept => ?_⟩
    unfold readExponent
    rw [List.nil_append]
    split
    · obtain ⟨cut, rfl⟩ := hkept
      exact absurd rfl (hlower _)
    · obtain ⟨cut, rfl⟩ := hkept
      exact absurd rfl (hupper _)
    · rfl

theorem local_readTail : Local readTail some := by
  intro s parts rest h
  simp only [readTail, Option.bind_eq_bind, Option.bind_eq_some_iff, Prod.exists,
    Option.some.injEq, Prod.mk.injEq] at h
  obtain ⟨fraction, after, hfraction, exponent, after', hexponent, rfl, rfl⟩ := h
  obtain ⟨read, rfl, hread⟩ := local_readFraction s fraction after hfraction
  obtain ⟨more, rfl, hmore⟩ := local_readExponent after exponent after' hexponent
  refine ⟨read ++ more, by simp, fun kept hkept => ?_⟩
  rw [List.append_assoc]
  exact readTail_of_parts (hread _ (by simpa using hkept)) (hmore kept hkept)

theorem local_readMagnitude (dialect : Dialect) (negative : Bool) :
    Local (readMagnitude dialect negative) .ok := by
  intro s n rest h
  unfold readMagnitude at h
  dsimp only at h
  split at h
  · cases h
  · next hdigits =>
    cases htail : readTail (spanDigits s).2 with
    | none => simp [htail] at h
    | some found =>
        obtain ⟨⟨fraction, exponent⟩, after⟩ := found
        obtain ⟨read, hs, hread⟩ := local_readTail _ _ _ htail
        have heq : s = (spanDigits s).1 ++ read ++ after := by
          rw [List.append_assoc, ← hs]
          exact spanDigits_eq s
        have hspan : ∀ kept, kept <+: after →
            spanDigits ((spanDigits s).1 ++ read ++ kept) = ((spanDigits s).1, read ++ kept) := by
          intro kept hkept
          rw [List.append_assoc]
          exact spanDigits_kept (hs ▸ by simpa using hkept)
        rw [htail] at h
        cases fraction <;> cases exponent <;> dsimp only at h <;> split at h
        all_goals cases h
        all_goals
          next hcase =>
          refine ⟨(spanDigits s).1 ++ read, heq, fun kept hkept => ?_⟩
          unfold readMagnitude
          simp only [hspan kept hkept, hdigits, hread kept hkept, hcase, if_true, if_false,
            Bool.false_eq_true]

theorem exists_digit_of_readMagnitude {dialect : Dialect} {negative : Bool}
    {r : Number × List Char} (h : readMagnitude dialect negative s = .ok r) :
    ∃ c tail, s = c :: tail ∧ c.isDigit = true := by
  by_contra hnone
  have hfirst : ∀ c ∈ s.head?, c.isDigit = false := by
    intro c hc
    obtain ⟨tail, rfl⟩ := List.head?_eq_some_iff.mp hc
    exact Bool.eq_false_iff.mpr fun hdigit => hnone ⟨c, tail, rfl, hdigit⟩
  rw [readMagnitude_of_not_digit hfirst] at h
  cases h

theorem local_readNumber (dialect : Dialect) : Local (readNumber dialect) .ok := by
  intro s n rest h
  unfold readNumber at h
  split at h
  case h_1 => cases h; exact ⟨['N', 'a', 'N'], rfl, fun _ _ => rfl⟩
  case h_2 => cases h; exact ⟨['I', 'n', 'f', 'i', 'n', 'i', 't', 'y'], rfl, fun _ _ => rfl⟩
  case h_3 => cases h; exact ⟨['-', 'I', 'n', 'f', 'i', 'n', 'i', 't', 'y'], rfl, fun _ _ => rfl⟩
  case h_4 tail _ =>
    obtain ⟨read, rfl, hread⟩ := local_readMagnitude dialect true tail n rest h
    obtain ⟨c, more, hcons, hc⟩ := exists_digit_of_readMagnitude (hread [] List.nil_prefix)
    rw [List.append_nil] at hcons
    subst hcons
    refine ⟨'-' :: c :: more, rfl, fun kept hkept => ?_⟩
    rw [← hread kept hkept]
    exact readNumber_minus hc (more ++ kept)
  case h_5 =>
    obtain ⟨read, rfl, hread⟩ := local_readMagnitude dialect false s n rest h
    obtain ⟨c, more, hcons, hc⟩ := exists_digit_of_readMagnitude (hread [] List.nil_prefix)
    rw [List.append_nil] at hcons
    subst hcons
    refine ⟨c :: more, rfl, fun kept hkept => ?_⟩
    rw [← hread kept hkept]
    exact readNumber_digit hc (more ++ kept)

theorem readNumber_head {dialect : Dialect} {r : Number × List Char}
    (h : readNumber dialect s = .ok r) :
    ∃ c tail, s = c :: tail ∧ (c.isDigit = true ∨ c = '-' ∨ c = 'I' ∨ c = 'N') := by
  unfold readNumber at h
  split at h
  case h_1 => exact ⟨_, _, rfl, by simp⟩
  case h_2 => exact ⟨_, _, rfl, by simp⟩
  case h_3 => exact ⟨_, _, rfl, by simp⟩
  case h_4 => exact ⟨_, _, rfl, by simp⟩
  case h_5 =>
    obtain ⟨c, tail, rfl, hc⟩ := exists_digit_of_readMagnitude h
    exact ⟨c, tail, rfl, .inl hc⟩

/-! ## Values -/

theorem skipBlanks_extent {c : Char} (h : skipBlanks s = c :: rest) :
    ∃ blanks, s = blanks ++ c :: rest ∧ ∀ t, skipBlanks (blanks ++ c :: t) = c :: t := by
  refine ⟨s.takeWhile isBlank, ?_, fun t => ?_⟩
  · rw [← h]
    exact List.takeWhile_append_dropWhile.symm
  · have hfirst := List.head?_dropWhile_not isBlank s
    rw [show s.dropWhile isBlank = c :: rest from h] at hfirst
    rw [skipBlanks_append (List.all_eq_true.mp List.all_takeWhile), skipBlanks_cons hfirst]

-- `decode` gives two steps for each character and two more. The bounds on steps are what that leaves
-- at each reader.

/-- A value is read alike, with the steps that it needs, before any part of the rest. -/
def ValueExtent (dialect : Dialect) (fuel : Nat) : Prop :=
  ∀ s v rest, readValue dialect fuel s = .ok (v, rest) → ∃ c read, s = c :: (read ++ rest) ∧
    ∀ kept steps, kept <+: rest → 2 * read.length + 2 ≤ steps →
      readValue dialect steps (c :: (read ++ kept)) = .ok (v, kept)

def ItemsExtent (dialect : Dialect) (fuel : Nat) : Prop :=
  ∀ s items rest, readItems dialect fuel s = .ok (items, rest) →
    ∃ c read, s = c :: (read ++ ']' :: rest) ∧
      ∀ kept steps, kept <+: rest → 2 * read.length + 4 ≤ steps →
        readItems dialect steps (c :: (read ++ ']' :: kept)) = .ok (items, kept)

def MembersExtent (dialect : Dialect) (fuel : Nat) : Prop :=
  ∀ s entries rest, readMembers dialect fuel s = .ok (entries, rest) →
    ∃ read, s = '"' :: (read ++ '}' :: rest) ∧
      ∀ kept steps, kept <+: rest → 2 * read.length + 4 ≤ steps →
        readMembers dialect steps ('"' :: (read ++ '}' :: kept)) = .ok (entries, kept)

variable {dialect : Dialect} {fuel : Nat}

theorem ItemsExtent.succ (hvalue : ValueExtent dialect fuel) (hitems : ItemsExtent dialect fuel) :
    ItemsExtent dialect (fuel + 1) := by
  intro s items rest h
  rw [readItems.eq_def] at h
  dsimp only at h
  split at h
  · cases h
  · next item after hitem =>
    obtain ⟨c, first, rfl, hfirst⟩ := hvalue s item after hitem
    split at h
    · next tail htail =>
      obtain ⟨⟨more, last⟩, hmore, heq⟩ := Except.map_ok_iff.mp h
      obtain ⟨rfl, rfl⟩ := Prod.mk.inj heq
      obtain ⟨d, read, hread, hsteps⟩ := hitems _ more last hmore
      obtain ⟨blanks, rfl, hcomma⟩ := skipBlanks_extent htail
      obtain ⟨blanks', rfl, hnext⟩ := skipBlanks_extent hread
      refine ⟨c, first ++ (blanks ++ ',' :: (blanks' ++ d :: read)), by simp,
        fun kept steps hkept hle => ?_⟩
      simp only [List.length_append, List.length_cons] at hle
      obtain ⟨steps, rfl⟩ : ∃ n, steps = n + 1 := ⟨steps - 1, by omega⟩
      have hafter : blanks ++ ',' :: (blanks' ++ d :: (read ++ ']' :: kept)) <+:
          blanks ++ ',' :: (blanks' ++ d :: (read ++ ']' :: last)) := by simpa using hkept
      have hitem' := hfirst _ steps hafter (by omega)
      have hmore' := hsteps kept steps hkept (by omega)
      rw [← hnext] at hmore'
      simpa using readItems_more hitem' (hcomma _) hmore'
    · next tail htail =>
      cases h
      obtain ⟨blanks, rfl, hclose⟩ := skipBlanks_extent htail
      refine ⟨c, first ++ blanks, by simp, fun kept steps hkept hle => ?_⟩
      simp only [List.length_append] at hle
      obtain ⟨steps, rfl⟩ : ∃ n, steps = n + 1 := ⟨steps - 1, by omega⟩
      have hafter : blanks ++ ']' :: kept <+: blanks ++ ']' :: rest := by simpa using hkept
      have hitem' := hfirst _ steps hafter (by omega)
      simpa using readItems_last hitem' (hclose kept)
    · cases h

theorem MembersExtent.succ (hvalue : ValueExtent dialect fuel)
    (hmembers : MembersExtent dialect fuel) : MembersExtent dialect (fuel + 1) := by
  intro s entries rest h
  rw [readMembers.eq_def] at h
  dsimp only at h
  split at h
  · next inner heq =>
    obtain rfl := Nat.succ.inj heq
    split at h
    · cases h
    · next key colon hkey =>
      obtain ⟨quoted, rfl, hquoted⟩ := local_readQuoted inner key colon hkey
      split at h
      · next behind hbehind =>
        split at h
        · cases h
        · next value after hread =>
          obtain ⟨c, first, hfirst, hvalue'⟩ := hvalue _ value after hread
          obtain ⟨blanks, rfl, hcolon⟩ := skipBlanks_extent hbehind
          obtain ⟨blanks', rfl, hopen⟩ := skipBlanks_extent hfirst
          split at h
          · next tail htail =>
            obtain ⟨⟨more, last⟩, hmore, heq⟩ := Except.map_ok_iff.mp h
            obtain ⟨rfl, rfl⟩ := Prod.mk.inj heq
            obtain ⟨read, hread', hsteps⟩ := hmembers _ more last hmore
            obtain ⟨blanks₂, rfl, hcomma⟩ := skipBlanks_extent htail
            obtain ⟨blanks₃, rfl, hnext⟩ := skipBlanks_extent hread'
            refine ⟨quoted ++ (blanks ++ ':' :: (blanks' ++ c :: (first ++
              (blanks₂ ++ ',' :: (blanks₃ ++ '"' :: read))))), by simp,
              fun kept steps hkept hle => ?_⟩
            simp only [List.length_append, List.length_cons] at hle
            obtain ⟨steps, rfl⟩ : ∃ n, steps = n + 1 := ⟨steps - 1, by omega⟩
            have hafter : blanks₂ ++ ',' :: (blanks₃ ++ '"' :: (read ++ '}' :: kept)) <+:
                blanks₂ ++ ',' :: (blanks₃ ++ '"' :: (read ++ '}' :: last)) := by simpa using hkept
            have hvalue' := hvalue' _ steps hafter (by omega)
            have hmore' := hsteps kept steps hkept (by omega)
            rw [← hopen] at hvalue'
            rw [← hnext] at hmore'
            have hkey' := hquoted (blanks ++ ':' :: (blanks' ++ c :: (first ++
              (blanks₂ ++ ',' :: (blanks₃ ++ '"' :: (read ++ '}' :: kept))))))
              (by simpa using hkept)
            simpa using readMembers_more hkey' (hcolon _) hvalue' (hcomma _) hmore'
          · next tail htail =>
            cases h
            obtain ⟨blanks₂, rfl, hclose⟩ := skipBlanks_extent htail
            refine ⟨quoted ++ (blanks ++ ':' :: (blanks' ++ c :: (first ++ blanks₂))), by simp,
              fun kept steps hkept hle => ?_⟩
            simp only [List.length_append, List.length_cons] at hle
            obtain ⟨steps, rfl⟩ : ∃ n, steps = n + 1 := ⟨steps - 1, by omega⟩
            have hafter : blanks₂ ++ '}' :: kept <+: blanks₂ ++ '}' :: rest := by simpa using hkept
            have hvalue' := hvalue' _ steps hafter (by omega)
            rw [← hopen] at hvalue'
            have hkey' := hquoted (blanks ++ ':' :: (blanks' ++ c :: (first ++
              (blanks₂ ++ '}' :: kept)))) (by simpa using hkept)
            simpa using readMembers_last hkey' (hcolon _) hvalue' (hclose kept)
          · cases h
      · cases h
  · cases h

theorem MembersExtent.object (hmembers : MembersExtent dialect fuel) {s rest : List Char}
    {v : Value} (h : readValue dialect (fuel + 1) ('{' :: s) = .ok (v, rest)) :
    ∃ read, s = read ++ '}' :: rest ∧ ∀ kept steps, kept <+: rest → 2 * read.length + 4 ≤ steps →
      readValue dialect steps ('{' :: (read ++ '}' :: kept)) = .ok (v, kept) := by
  rw [readValue] at h
  split at h
  · next tail htail =>
    cases h
    obtain ⟨blanks, rfl, hopen⟩ := skipBlanks_extent htail
    refine ⟨blanks, rfl, fun kept steps hkept hle => ?_⟩
    obtain ⟨steps, rfl⟩ : ∃ n, steps = n + 1 := ⟨steps - 1, by omega⟩
    rw [readValue, hopen]
    rfl
  · obtain ⟨⟨entries, last⟩, hentries, heq⟩ := Except.map_ok_iff.mp h
    obtain ⟨rfl, rfl⟩ := Prod.mk.inj heq
    obtain ⟨read, hread, hsteps⟩ := hmembers _ entries last hentries
    obtain ⟨blanks, rfl, hopen⟩ := skipBlanks_extent hread
    refine ⟨blanks ++ '"' :: read, by simp, fun kept steps hkept hle => ?_⟩
    simp only [List.length_append, List.length_cons] at hle
    obtain ⟨steps, rfl⟩ : ∃ n, steps = n + 1 := ⟨steps - 1, by omega⟩
    simpa using readValue_members (hopen _) (hsteps kept steps hkept (by omega))

theorem required_ok_iff {α : Type} {found : Option α} {a : α} :
    required found = .ok a ↔ found = some a := by
  cases found <;> simp [required]

theorem ValueExtent.succ (hitems : ItemsExtent dialect fuel)
    (hmembers : MembersExtent dialect fuel) : ValueExtent dialect (fuel + 1) := by
  intro s v rest h
  have hcase := h
  rw [readValue.eq_def] at hcase
  dsimp only at hcase
  split at hcase
  case h_1 tail =>
    obtain ⟨read, rfl, hread⟩ := hmembers.object h
    refine ⟨'{', read ++ ['}'], by simp, fun kept steps hkept hle => ?_⟩
    simp only [List.length_append, List.length_singleton] at hle
    simpa using hread kept steps hkept (by omega)
  case h_2 tail =>
    split at hcase
    · next after hafter =>
      cases hcase
      obtain ⟨blanks, rfl, hopen⟩ := skipBlanks_extent hafter
      refine ⟨'[', blanks ++ [']'], by simp, fun kept steps hkept hle => ?_⟩
      obtain ⟨steps, rfl⟩ : ∃ n, steps = n + 1 := ⟨steps - 1, by omega⟩
      rw [List.append_assoc, List.singleton_append, readValue, hopen]
      rfl
    · next hclose =>
      obtain ⟨⟨items, last⟩, hread, heq⟩ := Except.map_ok_iff.mp hcase
      obtain ⟨rfl, rfl⟩ := Prod.mk.inj heq
      obtain ⟨c, read, hcons, hsteps⟩ := hitems _ items last hread
      obtain ⟨blanks, rfl, hopen⟩ := skipBlanks_extent hcons
      refine ⟨'[', blanks ++ c :: (read ++ [']']), by simp, fun kept steps hkept hle => ?_⟩
      simp only [List.length_append, List.length_cons, List.length_nil] at hle
      obtain ⟨steps, rfl⟩ : ∃ n, steps = n + 1 := ⟨steps - 1, by omega⟩
      have hnext : ∀ d ∈ (c :: (read ++ ']' :: kept)).head?, d ≠ ']' := by
        rintro _ ⟨⟩ rfl
        exact hclose _ hcons
      simpa using readValue_items hnext (hopen _) (hsteps kept steps hkept (by omega))
  case h_3 tail =>
    obtain ⟨⟨str, last⟩, hread, heq⟩ := Except.map_ok_iff.mp hcase
    obtain ⟨rfl, rfl⟩ := Prod.mk.inj heq
    obtain ⟨read, rfl, hlocal⟩ := local_readQuoted tail str last (required_ok_iff.mp hread)
    refine ⟨'"', read, rfl, fun kept steps hkept hle => ?_⟩
    obtain ⟨steps, rfl⟩ : ∃ n, steps = n + 1 := ⟨steps - 1, by omega⟩
    rw [readValue, hlocal kept hkept]
    rfl
  case h_4 | h_5 =>
    cases hcase
    refine ⟨_, [_, _, _], rfl, fun kept steps hkept hle => ?_⟩
    obtain ⟨steps, rfl⟩ : ∃ n, steps = n + 1 := ⟨steps - 1, by omega⟩
    rfl
  case h_6 =>
    cases hcase
    refine ⟨'f', ['a', 'l', 's', 'e'], rfl, fun kept steps hkept hle => ?_⟩
    obtain ⟨steps, rfl⟩ : ∃ n, steps = n + 1 := ⟨steps - 1, by omega⟩
    rfl
  case h_7 =>
    obtain ⟨⟨n, last⟩, hread, heq⟩ := Except.map_ok_iff.mp hcase
    obtain ⟨rfl, rfl⟩ := Prod.mk.inj heq
    obtain ⟨read, rfl, hlocal⟩ := local_readNumber dialect s n last hread
    obtain ⟨c, more, hcons, hc⟩ := readNumber_head (hlocal [] List.nil_prefix)
    rw [List.append_nil] at hcons
    subst hcons
    refine ⟨c, more, rfl, fun kept steps hkept hle => ?_⟩
    obtain ⟨steps, rfl⟩ : ∃ n, steps = n + 1 := ⟨steps - 1, by omega⟩
    rw [readValue_number hc, ← List.cons_append, hlocal kept hkept]
    rfl

/-- Every reading stays what it was when the rest is cut off. -/
theorem read_extent (dialect : Dialect) (fuel : Nat) :
    ValueExtent dialect fuel ∧ ItemsExtent dialect fuel ∧ MembersExtent dialect fuel := by
  induction fuel with
  | zero => exact ⟨nofun, nofun, nofun⟩
  | succ fuel ih =>
      obtain ⟨hvalue, hitems, hmembers⟩ := ih
      exact ⟨.succ hitems hmembers, .succ hvalue hitems, .succ hvalue hmembers⟩

theorem readValue_object_head {members : Members}
    (h : readValue dialect fuel s = .ok (.object members, rest)) : ∃ tail, s = '{' :: tail := by
  rw [readValue.eq_def] at h
  split at h
  · cases h
  · split at h
    case h_1 tail => exact ⟨tail, rfl⟩
    case h_2 =>
      split at h
      · cases h
      · obtain ⟨_, -, heq⟩ := Except.map_ok_iff.mp h
        cases heq
    case h_4 => cases h
    case h_5 => cases h
    case h_6 => cases h
    all_goals
      obtain ⟨_, -, heq⟩ := Except.map_ok_iff.mp h
      cases heq

/-- A text that denotes an object has blanks around the braces of the object, and what the braces
enclose denotes it alone. -/
theorem decode_object_extent {text : String} {members : Members}
    (h : decode dialect text = .ok (.object members)) :
    ∃ blanks inner blanks', text.toList = blanks ++ ('{' :: inner ++ '}' :: blanks') ∧
      (∀ c ∈ blanks, isBlank c = true) ∧ (∀ c ∈ blanks', isBlank c = true) ∧
      decode dialect (String.ofList ('{' :: inner ++ ['}'])) = .ok (.object members) := by
  unfold decode decodeChars at h
  split at h
  · cases h
  · next v rest hread =>
    split at h
    · next hrest =>
      cases h
      obtain ⟨tail, htail⟩ := readValue_object_head hread
      rw [htail] at hread
      obtain ⟨inner, rfl, hinner⟩ := (read_extent dialect _).2.2.object hread
      refine ⟨text.toList.takeWhile isBlank, inner, rest, ?_,
        List.all_eq_true.mp List.all_takeWhile, ?_, ?_⟩
      · rw [List.cons_append, ← htail]
        exact List.takeWhile_append_dropWhile.symm
      · have hall : rest.takeWhile isBlank ++ skipBlanks rest = rest :=
          List.takeWhile_append_dropWhile
        rw [List.isEmpty_iff.mp hrest, List.append_nil] at hall
        exact List.all_eq_true.mp (hall ▸ List.all_takeWhile)
      · have halone := hinner [] (2 * ('{' :: inner ++ ['}']).length + 2) List.nil_prefix
          (by simp only [List.length_append, List.length_cons, List.length_nil]; omega)
        unfold decode decodeChars
        rw [String.toList_ofList, List.cons_append, skipBlanks_cons rfl, ← List.cons_append]
        rw [List.cons_append] at halone ⊢
        rw [halone]
        rfl
    · cases h

end Wireframe.Json

import Wireframe.Json.Lenient
import Wireframe.Proofs.Json.Candidate
import Wireframe.Proofs.Json.Decoded

/-! # An object in a fenced block

A written object that stands in a fenced block is read back from any response around it, when
neither the text before the block nor the object has a fence in it. Backticks right before the block
move the first fence forward and are left over inside it; the braces of the object come after them.
Blanks around a response are in no fence and no brace, so that trimming it changes nothing
(`candidateChars?_eq`).
-/

namespace Wireframe

def Number.IsInteger : Number → Prop
  | .int _ => True
  | .double _ => False

namespace Json

variable {mark s rest left right : List Char} {c : Char}

/-! ## The first place where a mark stands -/

theorem prefix_append_cons_iff (hc : c ∉ mark) : mark <+: s ++ c :: rest ↔ mark <+: s := by
  refine ⟨fun h => ?_, fun h => h.trans (List.prefix_append s _)⟩
  rcases List.prefix_or_prefix_of_prefix h (List.prefix_append s (c :: rest)) with h' | ⟨more, rfl⟩
  · exact h'
  · rw [List.prefix_append_right_inj, List.prefix_cons_iff] at h
    rcases h with rfl | ⟨_, rfl, -⟩
    · rw [List.append_nil]
    · exact absurd (by simp) hc

theorem infix_append_cons_iff (hc : c ∉ mark) :
    mark <:+: s ++ c :: rest ↔ mark <:+: s ∨ mark <:+: rest := by
  induction s with
  | nil =>
      rw [List.nil_append, List.infix_cons_iff, List.infix_nil, ← List.prefix_nil]
      exact or_congr_left (prefix_append_cons_iff (s := []) hc)
  | cons d s ih =>
      rw [List.cons_append, List.infix_cons_iff, ih, List.infix_cons_iff, ← List.cons_append,
        prefix_append_cons_iff hc, or_assoc]

theorem splitFirst_append (s : List Char) : splitFirst mark (mark ++ s) = some ([], s) := by
  have hprefix : mark.isPrefixOf (mark ++ s) = true := by simp
  rw [splitFirst.eq_def, if_pos hprefix, List.drop_left]

theorem splitFirst_cons (h : ¬ mark <+: c :: s) :
    splitFirst mark (c :: s) =
      (splitFirst mark s).map fun (before, after) => (c :: before, after) := by
  rw [splitFirst, if_neg (by simpa using h)]

theorem splitFirst_of_not_infix (h : ¬ mark <:+: s) : splitFirst mark s = none := by
  induction s with
  | nil =>
      rw [List.infix_nil] at h
      rw [splitFirst, if_neg (by simpa using h)]
  | cons c s ih =>
      rw [List.infix_cons_iff, not_or] at h
      rw [splitFirst_cons h.1, ih h.2, Option.map_none]

/-- A mark is found in front of a character that is not in it or, failing that, behind. -/
theorem splitFirst_around (hc : c ∉ mark) (s rest : List Char) :
    splitFirst mark (s ++ c :: rest) =
      ((splitFirst mark s).map fun (before, after) => (before, after ++ c :: rest)).or
        ((splitFirst mark rest).map fun (before, after) => (s ++ c :: before, after)) := by
  induction s with
  | nil =>
      by_cases hprefix : mark <+: c :: rest
      · have hnil : mark = [] :=
          List.prefix_nil.mp ((prefix_append_cons_iff (s := []) hc).mp hprefix)
        subst hnil
        rfl
      · have hmark : ¬ mark <:+: [] := fun h =>
          hprefix (List.infix_nil.mp h ▸ List.nil_prefix)
        rw [List.nil_append, splitFirst_cons hprefix, splitFirst_of_not_infix hmark]
        rfl
  | cons d s ih =>
      by_cases hprefix : mark <+: d :: s
      · obtain ⟨tail, htail⟩ := hprefix
        rw [← htail, List.append_assoc, splitFirst_append, splitFirst_append]
        rfl
      · rw [splitFirst_cons hprefix, List.cons_append, splitFirst_cons, ih]
        · cases splitFirst mark s with
          | none => cases splitFirst mark rest <;> rfl
          | some found => rfl
        · rwa [← List.cons_append, prefix_append_cons_iff hc]

theorem splitFirst_append_cons (hc : c ∉ mark) (hs : ¬ mark <:+: s) (rest : List Char) :
    splitFirst mark (s ++ c :: (mark ++ rest)) = some (s ++ [c], rest) := by
  rw [splitFirst_around hc, splitFirst_of_not_infix hs, splitFirst_append]
  rfl

/-- The first fence of a text with none in front of it may begin with backticks that stand there
already; as many are left over. -/
theorem splitFirst_fence (hs : ¬ fence <:+: s) (rest : List Char) :
    ∃ before ticks, splitFirst fence (s ++ (fence ++ rest)) = some (before, ticks ++ rest) ∧
      ¬ fence <:+: ticks ∧ ∀ c ∈ ticks, c = '\x60' := by
  induction s with
  | nil => exact ⟨[], [], splitFirst_append rest, hs, by simp⟩
  | cons c s ih =>
      have hs' := hs
      rw [List.infix_cons_iff, not_or] at hs'
      by_cases hprefix : fence <+: c :: (s ++ (fence ++ rest))
      · -- At most two backticks stand in front, and they are all there is in front.
        obtain ⟨left, hleft⟩ := hprefix
        have hticks : left = (c :: s) ++ rest ∧ ∀ d ∈ c :: s, d = '\x60' := by
          match s with
          | [] =>
              obtain ⟨rfl, rfl⟩ : '\x60' = c ∧ left = _ := by simpa [fence] using hleft
              exact ⟨rfl, by simp⟩
          | [d] =>
              obtain ⟨rfl, rfl, rfl⟩ : '\x60' = c ∧ '\x60' = d ∧ left = _ := by
                simpa [fence] using hleft
              exact ⟨rfl, by simp⟩
          | d :: e :: more =>
              obtain ⟨rfl, rfl, rfl, -⟩ : '\x60' = c ∧ '\x60' = d ∧ '\x60' = e ∧ left = _ := by
                simpa [fence] using hleft
              exact absurd (List.prefix_append fence more) hs'.1
        refine ⟨[], c :: s, ?_, hs, hticks.2⟩
        rw [List.cons_append, ← hleft, splitFirst_append, ← hticks.1]
      · obtain ⟨before, ticks, hsplit, hticks⟩ := ih hs'.2
        refine ⟨c :: before, ticks, ?_, hticks⟩
        rw [List.cons_append, splitFirst_cons hprefix, hsplit]
        rfl

/-! ## Blanks around a text -/

theorem dropLanguage_of_not (h : ¬ ['j', 's', 'o', 'n'] <+: s) : dropLanguage s = s := by
  unfold dropLanguage
  split
  · exact absurd ⟨_, rfl⟩ h
  · rfl

theorem dropLanguage_append_cons (hc : c ∉ ['j', 's', 'o', 'n']) (s rest : List Char) :
    dropLanguage (s ++ c :: rest) = dropLanguage s ++ c :: rest := by
  by_cases hjson : ['j', 's', 'o', 'n'] <+: s
  · obtain ⟨tail, rfl⟩ := hjson
    rfl
  · rw [dropLanguage_of_not hjson, dropLanguage_of_not]
    rwa [prefix_append_cons_iff hc]

theorem fenced?_cons (hc : c ∉ fence) (s : List Char) : fenced? (c :: s) = fenced? s := by
  have hno : ¬ fence <+: c :: s := fun h => by
    simpa [fence] using (prefix_append_cons_iff (s := []) hc).mp h
  simp only [fenced?, splitFirst_cons hno]
  cases splitFirst fence s <;> rfl

theorem fenced?_append_left (hleft : '\x60' ∉ left) (s : List Char) :
    fenced? (left ++ s) = fenced? s := by
  induction left with
  | nil => rfl
  | cons c left ih =>
      rw [List.mem_cons, not_or] at hleft
      rw [List.cons_append, fenced?_cons (by simpa [fence] using Ne.symm hleft.1), ih hleft.2]

theorem splitFirst_append_right (hright : '\x60' ∉ right) (s : List Char) :
    splitFirst fence (s ++ right) =
      (splitFirst fence s).map fun (before, after) => (before, after ++ right) := by
  cases right with
  | nil => simp
  | cons c rest =>
      rw [List.mem_cons, not_or] at hright
      have hrest : ¬ fence <:+: rest := fun h => hright.2 (h.subset List.mem_cons_self)
      rw [splitFirst_around (by simpa [fence] using Ne.symm hright.1),
        splitFirst_of_not_infix hrest, Option.map_none, Option.or_none]

/-- Blanks behind a text belong to no block: they are in no fence, nor in the word behind one. -/
theorem fenced?_append_blanks (hright : ∀ c ∈ right, Text.isBlank c = true) (s : List Char) :
    fenced? (s ++ right) = fenced? s := by
  have htick : '\x60' ∉ right := Text.not_mem_of_blank (by decide) hright
  have hlanguage : ∀ opened, dropLanguage (opened ++ right) = dropLanguage opened ++ right := by
    intro opened
    cases right with
    | nil => simp
    | cons c rest =>
        have hblank := hright c List.mem_cons_self
        refine dropLanguage_append_cons ?_ opened rest
        simp only [List.mem_cons, List.not_mem_nil, or_false]
        rintro (rfl | rfl | rfl | rfl) <;> revert hblank <;> decide
  unfold fenced?
  rw [splitFirst_append_right htick]
  cases splitFirst fence s with
  | none => rfl
  | some opened =>
      simp only [Option.map_some, Option.bind_eq_bind, Option.bind_some, hlanguage,
        splitFirst_append_right htick]
      cases splitFirst fence (dropLanguage opened.2) <;> rfl

/-- Trimming changes nothing: what it takes away is in no fence and no brace. -/
theorem candidateChars?_eq (s : List Char) :
    candidateChars? s = braced? ((fenced? s).getD s) := by
  obtain ⟨left, right, hs, hleft, hright⟩ := Text.exists_trimBy Text.isBlank s
  unfold candidateChars? Text.trim
  dsimp only
  generalize Text.trimBy Text.isBlank s = trimmed at hs ⊢
  subst hs
  rw [fenced?_append_left (Text.not_mem_of_blank (by decide) hleft),
    fenced?_append_blanks hright]
  cases fenced? trimmed with
  | none =>
      have hbraces : ∀ {blanks : List Char}, (∀ c ∈ blanks, Text.isBlank c = true) →
          '{' ∉ blanks ∧ '}' ∉ blanks := fun hblanks =>
        ⟨Text.not_mem_of_blank (by decide) hblanks, Text.not_mem_of_blank (by decide) hblanks⟩
      exact (braced?_between (hbraces hleft) (hbraces hright) trimmed).symm
  | some body => rfl

/-! ## What stands in the block -/

variable {language ticks before body : List Char}

/-- The first line of a block holds neither a fence nor a brace, whether or not its language was
dropped: backticks that were left over keep the language. -/
theorem dropLanguage_opened (hlanguage : language = ['j', 's', 'o', 'n'] ∨ language = [])
    (hticks : ¬ fence <:+: ticks) (hall : ∀ c ∈ ticks, c = '\x60') (body : List Char) :
    ∃ front, dropLanguage (ticks ++ (language ++ '\n' :: body)) = front ++ '\n' :: body ∧
      ¬ fence <:+: front ∧ '{' ∉ front := by
  have hjson : ¬ fence <:+: ticks ++ ['j', 's', 'o', 'n'] := by
    rw [infix_append_cons_iff (by decide), not_or]
    exact ⟨hticks, by decide⟩
  have hbrace : '{' ∉ ticks := fun h => absurd (hall _ h) (by decide)
  cases ticks with
  | nil =>
      refine ⟨[], ?_, hticks, hbrace⟩
      rcases hlanguage with rfl | rfl
      all_goals rfl
  | cons c ticks =>
      obtain rfl := hall c List.mem_cons_self
      refine ⟨'\x60' :: ticks ++ language, by simp [dropLanguage], ?_⟩
      rcases hlanguage with rfl | rfl
      · exact ⟨hjson, by simpa using hbrace⟩
      · rw [List.append_nil]
        exact ⟨hticks, hbrace⟩

theorem fenced?_block (hbefore : ¬ fence <:+: before)
    (hlanguage : language = ['j', 's', 'o', 'n'] ∨ language = []) (hbody : ¬ fence <:+: body)
    (after : List Char) :
    ∃ front, '{' ∉ front ∧ fenced? (before ++ (fence ++ (language ++ '\n' ::
      (body ++ '\n' :: (fence ++ after))))) = some (front ++ '\n' :: (body ++ ['\n'])) := by
  obtain ⟨skipped, ticks, hopened, hticks, hall⟩ :=
    splitFirst_fence hbefore (language ++ '\n' :: (body ++ '\n' :: (fence ++ after)))
  obtain ⟨front, hfront, hfree, hbrace⟩ :=
    dropLanguage_opened hlanguage hticks hall (body ++ '\n' :: (fence ++ after))
  have hline : ¬ fence <:+: front ++ '\n' :: body := by
    rw [infix_append_cons_iff (by decide), not_or]
    exact ⟨hfree, hbody⟩
  refine ⟨front, hbrace, ?_⟩
  have hclosed := splitFirst_append_cons (c := '\n') (by decide) hline after
  rw [List.append_assoc, List.cons_append] at hclosed
  simp [fenced?, hopened, hfront, hclosed]

/-- The candidate of a response with a fenced block is what the braces in the block enclose. -/
theorem candidateChars?_block {inner : List Char} (hbefore : ¬ fence <:+: before)
    (hlanguage : language = ['j', 's', 'o', 'n'] ∨ language = [])
    (hbody : ¬ fence <:+: '{' :: inner ++ ['}']) (after : List Char) :
    candidateChars? (before ++ (fence ++ (language ++ '\n' :: ('{' :: inner ++ ['}'] ++
      '\n' :: (fence ++ after))))) = some ('{' :: inner ++ ['}']) := by
  obtain ⟨front, hbrace, hfenced⟩ := fenced?_block hbefore hlanguage hbody after
  have hfront : '{' ∉ front ++ ['\n'] := by simpa using hbrace
  have hback : '}' ∉ ['\n'] := by decide
  have hbraced := braced?_around hfront hback inner
  simp only [List.append_assoc, List.cons_append, List.nil_append] at hfenced hbraced ⊢
  rw [candidateChars?_eq, hfenced, Option.getD_some, hbraced]

/-! ## Reading the block -/

theorem sound_of_isWritable {p : Number → Prop} {v : Value} (sound : v.Sound p)
    (h : v.isWritable = true) : v.Sound Number.IsWritable := by
  unfold Value.isWritable at h
  induction sound with
  | null => exact .null
  | bool b => exact .bool b
  | @number n _ =>
      cases n with
      | int n => exact .number (by rwa [Value.allIntegers] at h)
      | double x => exact .number trivial
  | string s => exact .string s
  | list _ ih =>
      rw [Value.allIntegers, Value.allIntegersIn_eq_all, List.all_eq_true] at h
      exact .list fun v hv => ih v hv (h v hv)
  | object keys _ ih =>
      rw [Value.allIntegers, Value.allIntegersAmong_eq_all, List.all_eq_true] at h
      exact .object keys fun entry hentry => ih entry hentry (h entry hentry)

/-- What is written without doubles is strict JSON for the same value. -/
theorem decode_dump {v : Value} {indent : Int} {written : String}
    (sound : v.Sound Number.IsInteger) (hwritten : dump v indent = .ok written) :
    written = encode (formatFor indent v) v ∧ decode .strict written = .ok v := by
  unfold dump at hwritten
  split at hwritten
  · next hall =>
    cases hwritten
    have kept : v.Sound ((formatFor indent v).Keeps .strict) := by
      refine (sound.and (sound_of_isWritable sound hall)).mono fun n hn => ?_
      cases n with
      | int n => exact hn.2
      | double x => exact hn.1.elim
    exact ⟨rfl, decode_encode (readable_formatFor indent v) kept⟩
  · cases hwritten

theorem extract_of_strict (repair : Repairer) {text candidate : String} {members : Members}
    (lenient : Bool) (hcandidate : candidate? text = some candidate)
    (h : decode .strict candidate = .ok (.object members)) :
    extract repair text lenient = .ok members := by
  unfold extract
  rw [hcandidate]
  dsimp only
  rw [h]
  rfl

/-- An object without doubles that was written into a fenced block is read back exactly. The text
before the block may end in backticks and hold any braces, and any text may follow. -/
theorem extract_fenced (repair : Repairer) {members : Members} {indent : Int}
    {before language written : String}
    (sound : (Value.object members).Sound Number.IsInteger)
    (hwritten : dump (.object members) indent = .ok written) (hfree : ¬ fence <:+: written.toList)
    (hbefore : ¬ fence <:+: before.toList) (hlanguage : language = "json" ∨ language = "")
    (after : String) (lenient : Bool) :
    extract repair (before ++ "```" ++ language ++ "\n" ++ written ++ "\n```" ++ after) lenient =
      .ok members := by
  obtain ⟨heq, hread⟩ := decode_dump sound hwritten
  refine extract_of_strict repair lenient ?_ hread
  obtain ⟨inner, hinner⟩ := encodeValue_object (formatFor indent (.object members)) 0 members
  have hchars : written.toList = '{' :: inner ++ ['}'] := by
    rw [heq, encode, String.toList_ofList, hinner]
  have hlanguage' : language.toList = ['j', 's', 'o', 'n'] ∨ language.toList = [] := by
    rcases hlanguage with rfl | rfl
    · exact .inl rfl
    · exact .inr rfl
  rw [hchars] at hfree
  have hcandidate := candidateChars?_block hbefore hlanguage' hfree after.toList
  have htext : (before ++ "```" ++ language ++ "\n" ++ written ++ "\n```" ++ after).toList =
      before.toList ++ (fence ++ (language.toList ++ '\n' :: ('{' :: inner ++ ['}'] ++
        '\n' :: (fence ++ after.toList)))) := by
    simp [hchars, fence]
  rw [candidate?, htext, hcandidate, Option.map_some, ← hchars, String.ofList_toList]

/-- Two backticks before the fence move it forward; a fence follows the block. -/
theorem extract_fenced_ticks :
    extract Lenient.repair ("as \x7bin\x7d ``" ++ "```" ++ "json" ++ "\n" ++
      "\x7b\n \"a``\": [\n  null,\n  100000000000000000000\n ],\n \"\\\"\x7d\": \x7b\x7d\n\x7d" ++
        "\n```" ++ "\x7d ```") false =
      .ok [("a``", .list [.null, .number (.int 100000000000000000000)]),
        ("\"\x7d", .object [])] := by
  refine @extract_fenced _ _ 1 _ _ _ ?_ ?_ ?_ ?_ (.inl rfl) _ _
  · refine .object (by decide) ?_
    simp only [List.forall_mem_cons]
    refine ⟨.list ?_, .object List.nodup_nil (List.forall_mem_nil _), List.forall_mem_nil _⟩
    simp only [List.forall_mem_cons]
    exact ⟨.null, .number trivial, List.forall_mem_nil _⟩
  · rw [dump, if_pos (by decide +kernel)]
    exact congrArg Except.ok (by decide +kernel)
  · decide +kernel
  · decide +kernel

end Json

end Wireframe

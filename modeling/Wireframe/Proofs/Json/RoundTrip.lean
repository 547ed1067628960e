import Wireframe.Proofs.Json.Numeral
import Wireframe.Proofs.Json.Sound

/-! # Values that are written and read

A sound value is read as it was written, in every format. The induction is on the value: whatever
follows a value is left, and twice as many steps as it has characters are enough to read it.
-/

namespace Wireframe.Json

variable {dialect : Dialect} {rest : List Char}

/-! ## Strings -/

theorem hexValue?_hexDigit {n : Nat} (hn : n < 32) : hexValue? (hexDigit n) = some (n % 16) := by
  have h : ∀ n : Fin 32, hexValue? (hexDigit n) = some (n % 16) := by decide
  exact h ⟨n, hn⟩

theorem readScalar_control {c : Char} (hc : c.toNat < 32) (rest : List Char) :
    readScalar ('0' :: '0' :: hexDigit (c.toNat / 16) :: hexDigit c.toNat :: rest) =
      some (c, rest) := by
  have hhigh := hexValue?_hexDigit (n := c.toNat / 16) (by omega)
  have hlow := hexValue?_hexDigit hc
  have hzero : hexValue? '0' = some 0 := by decide
  have hunit : readUnit ('0' :: '0' :: hexDigit (c.toNat / 16) :: hexDigit c.toNat :: rest) =
      some (c.toNat, rest) := by
    simp only [readUnit, hhigh, hlow, hzero, Option.bind_eq_bind, Option.bind_some]
    congr 2
    omega
  rw [readScalar, hunit]
  simp only [Option.bind_eq_bind, Option.bind_some]
  rw [if_neg (by omega), if_neg (by omega), Char.ofNat_toNat]

theorem readString_plain {c : Char} (hslash : c ≠ '\\') (hquote : c ≠ '"')
    (hplain : 0x20 ≤ c.toNat) (step : Char) (steps read rest : List Char) :
    readString (step :: steps) read (c :: rest) = readString steps (c :: read) rest := by
  rw [readString]
  · rw [if_neg hquote, if_neg (Nat.not_lt.mpr hplain)]
  · exact hslash

theorem readString_escape {c : Char} {s rest : List Char} (h : readEscape s = some (c, rest))
    (step : Char) (steps read : List Char) :
    readString (step :: steps) read ('\\' :: s) = readString steps (c :: read) rest := by
  rw [readString, h]

/-- A written character is read in one step. -/
theorem readString_escapeChar (c step : Char) (steps read rest : List Char) :
    readString (step :: steps) read (escapeChar c ++ rest) =
      readString steps (c :: read) rest := by
  unfold escapeChar
  by_cases hquote : c = '"'
  · subst hquote
    exact readString_escape rfl step steps read
  by_cases hslash : c = '\\'
  · subst hslash
    exact readString_escape rfl step steps read
  rw [if_neg hquote, if_neg hslash]
  by_cases hplain : 0x20 ≤ c.toNat
  · rw [if_pos hplain]
    exact readString_plain hslash hquote hplain step steps read rest
  rw [if_neg hplain]
  -- The controls that have a letter of their own come before those that are written as a number.
  split
  · next h => subst h; exact readString_escape rfl step steps read
  split
  · next h => subst h; exact readString_escape rfl step steps read
  split
  · next h => subst h; exact readString_escape rfl step steps read
  split
  · next h => subst h; exact readString_escape rfl step steps read
  split
  · next h => subst h; exact readString_escape rfl step steps read
  · have hread : readEscape ('u' :: '0' :: '0' :: hexDigit (c.toNat / 16) :: hexDigit c.toNat ::
        rest) = some (c, rest) := readScalar_control (by omega) rest
    exact readString_escape hread step steps read

theorem readString_escapeChars {cs steps : List Char} (hsteps : cs.length < steps.length)
    (read rest : List Char) :
    readString steps read (cs.flatMap escapeChar ++ '"' :: rest) =
      some (String.ofList (read.reverse ++ cs), rest) := by
  induction cs generalizing steps read with
  | nil =>
      cases steps with
      | nil => simp at hsteps
      | cons step steps => simp [readString]
  | cons c cs ih =>
      cases steps with
      | nil => simp at hsteps
      | cons step steps =>
          rw [List.flatMap_cons, List.append_assoc, readString_escapeChar,
            ih (by simpa using hsteps)]
          simp

theorem length_le_flatMap_escapeChar (cs : List Char) :
    cs.length ≤ (cs.flatMap escapeChar).length := by
  induction cs with
  | nil => simp
  | cons c cs ih =>
      have hone : 1 ≤ (escapeChar c).length := by
        unfold escapeChar
        repeat' split
        all_goals simp
      rw [List.flatMap_cons, List.length_append, List.length_cons]
      omega

theorem readQuoted_quote (s : String) (rest : List Char) :
    ∃ inner, quote s ++ rest = '"' :: inner ∧ readQuoted inner = some (s, rest) := by
  refine ⟨s.toList.flatMap escapeChar ++ '"' :: rest, by simp [quote], ?_⟩
  have hlength := length_le_flatMap_escapeChar s.toList
  unfold readQuoted
  rw [readString_escapeChars (by rw [List.length_append, List.length_cons]; omega)]
  simp

/-! ## Blanks -/

/-- The formats whose blanks are blanks of the reader and whose integral doubles keep a fraction. -/
structure Format.Readable (format : Format) : Prop where
  afterComma : ∀ c ∈ format.afterComma, isBlank c = true
  afterColon : ∀ c ∈ format.afterColon, isBlank c = true
  wholeSuffix : format.numbers.wholeSuffix = ".0"

theorem readable_formatFor (indent : Int) (v : Value) : (formatFor indent v).Readable := by
  unfold formatFor
  split
  · exact ⟨by simp [Format.compact], by simp [Format.compact], rfl⟩
  · split
    · exact ⟨by simp [Format.indented], by simp [Format.indented, isBlank], rfl⟩
    · exact ⟨by simp [Format.wide, isBlank], by simp [Format.wide, isBlank], rfl⟩

theorem skipBlanks_append {blanks s : List Char} (h : ∀ c ∈ blanks, isBlank c = true) :
    skipBlanks (blanks ++ s) = skipBlanks s :=
  List.dropWhile_append_of_pos h

theorem skipBlanks_cons {c : Char} (h : isBlank c = false) (s : List Char) :
    skipBlanks (c :: s) = c :: s := by
  simp [skipBlanks, h]

theorem isBlank_of_mem_lineBreak (format : Format) (level : Nat) :
    ∀ c ∈ format.lineBreak level, isBlank c = true := by
  intro c hc
  unfold Format.lineBreak at hc
  split at hc
  · simp at hc
  · rcases List.mem_cons.mp hc with rfl | hc
    · rfl
    · rw [List.eq_of_mem_replicate hc]
      rfl

theorem separator_eq {format : Format} (readable : format.Readable) (level : Nat) :
    ∃ blanks, format.separator level = ',' :: blanks ∧ ∀ c ∈ blanks, isBlank c = true := by
  unfold Format.separator
  split
  · exact ⟨_, rfl, readable.afterComma⟩
  · exact ⟨_, rfl, isBlank_of_mem_lineBreak format level⟩

/-! ## Values -/

/-- The numbers that a format writes as numbers of a dialect. -/
def Format.Keeps (format : Format) (dialect : Dialect) : Number → Prop
  | .int n => Text.isWritable n = true
  | .double x => x.isFinite = true ∨ dialect = .extended ∧ format.numbers = .jsonWide

theorem readNumber_kept {format : Format} (readable : format.Readable) {n : Number}
    (kept : format.Keeps dialect n) (hrest : EndsNumeral rest) :
    readNumber dialect (numberChars format.numbers n ++ rest) = .ok (n, rest) := by
  cases n with
  | int n => exact readNumber_int kept hrest
  | double x =>
      by_cases hx : x.isFinite = true
      · exact readNumber_finite readable.wholeSuffix hx hrest
      · obtain ⟨rfl, hwide⟩ := kept.resolve_left hx
        rw [hwide]
        exact readNumber_word (by simpa using hx)

/-- A character that no blank, bracket, brace or end of a value can be taken for. -/
def Opens (c : Char) : Prop := isBlank c = false ∧ c ≠ ']' ∧ c ≠ '}'

theorem isBlank_of_isDigit {c : Char} (h : c.isDigit = true) : Opens c := by
  refine ⟨?_, ?_, ?_⟩
  · simp only [isBlank, Bool.or_eq_false_iff, beq_eq_false_iff_ne]
    refine ⟨⟨⟨?_, ?_⟩, ?_⟩, ?_⟩
    all_goals
      rintro rfl
      exact absurd h (by decide)
  all_goals
    rintro rfl
    exact absurd h (by decide)

theorem numberChars_head_of_keeps {format : Format} {n : Number} (kept : format.Keeps dialect n) :
    ∃ c more, numberChars format.numbers n = c :: more ∧
      (c.isDigit = true ∨ c = '-' ∨ c = 'I' ∨ c = 'N') := by
  apply numberChars_head
  cases n with
  | int i => exact .inl ⟨i, rfl⟩
  | double x => exact .inr ⟨x, rfl, kept.imp_right And.right⟩

/-- A written value begins with a character of its own. -/
theorem encodeValue_head {format : Format} {v : Value} (sound : v.Sound (format.Keeps dialect))
    (level : Nat) : ∃ c more, encodeValue format level v = c :: more ∧ Opens c := by
  have hopens : ∀ c ∈ ['n', 't', 'f', '"', '[', '{', '-', 'I', 'N'], Opens c := by
    simp only [List.forall_mem_cons, Opens]
    exact ⟨by decide, by decide, by decide, by decide, by decide, by decide, by decide, by decide,
      by decide, List.forall_mem_nil _⟩
  cases sound with
  | null => exact ⟨'n', _, rfl, hopens _ (by simp)⟩
  | bool b => cases b with
    | true => exact ⟨'t', _, rfl, hopens _ (by simp)⟩
    | false => exact ⟨'f', _, rfl, hopens _ (by simp)⟩
  | number kept =>
      obtain ⟨c, more, hcons, hc⟩ := numberChars_head_of_keeps kept
      refine ⟨c, more, hcons, ?_⟩
      rcases hc with hc | rfl | rfl | rfl
      · exact isBlank_of_isDigit hc
      all_goals exact hopens _ (by simp)
  | string s => exact ⟨'"', _, rfl, hopens _ (by simp)⟩
  | @list items _ => cases items with
    | nil => exact ⟨'[', _, rfl, hopens _ (by simp)⟩
    | cons item items => exact ⟨'[', _, rfl, hopens _ (by simp)⟩
  | @object members _ _ => cases members with
    | nil => exact ⟨'{', _, rfl, hopens _ (by simp)⟩
    | cons entry members => exact ⟨'{', _, rfl, hopens _ (by simp)⟩

theorem skipBlanks_encodeValue {format : Format} {v : Value}
    (sound : v.Sound (format.Keeps dialect)) (level : Nat) {blanks : List Char}
    (hblanks : ∀ c ∈ blanks, isBlank c = true) (s : List Char) :
    skipBlanks (blanks ++ (encodeValue format level v ++ s)) = encodeValue format level v ++ s := by
  obtain ⟨c, more, hcons, hc⟩ := encodeValue_head sound level
  rw [skipBlanks_append hblanks, hcons, List.cons_append, skipBlanks_cons hc.1]

theorem endsNumeral_cons {c : Char} (h : c = ',' ∨ c = ']' ∨ c = '}' ∨ c = '\n') (s : List Char) :
    EndsNumeral (c :: s) := by
  rintro _ ⟨⟩
  rcases h with rfl | rfl | rfl | rfl
  all_goals decide

theorem endsNumeral_close (format : Format) (level : Nat) {c : Char} (h : c = ']' ∨ c = '}')
    (s : List Char) : EndsNumeral (format.lineBreak level ++ c :: s) := by
  unfold Format.lineBreak
  split
  · exact endsNumeral_cons (by rcases h with rfl | rfl <;> simp) s
  · exact endsNumeral_cons (by simp) _

theorem endsNumeral_separator (format : Format) (level : Nat) (s : List Char) :
    EndsNumeral (format.separator level ++ s) :=
  endsNumeral_cons (.inl rfl) _

/-- What a reader of values makes of a number. -/
theorem readValue_number {c : Char}
    (hc : c.isDigit = true ∨ c = '-' ∨ c = 'I' ∨ c = 'N') (fuel : Nat) (s : List Char) :
    readValue dialect (fuel + 1) (c :: s) =
      (readNumber dialect (c :: s)).map fun (n, rest) => (.number n, rest) := by
  have hne : c ≠ '{' ∧ c ≠ '[' ∧ c ≠ '"' ∧ c ≠ 'n' ∧ c ≠ 't' ∧ c ≠ 'f' := by
    refine ⟨?_, ?_, ?_, ?_, ?_, ?_⟩
    all_goals
      rintro rfl
      revert hc
      decide
  rw [readValue.eq_def]
  simp only
  split
  all_goals simp_all

def ReadsBack (dialect : Dialect) (format : Format) (v : Value) : Prop :=
  ∀ (level fuel : Nat) (rest : List Char), 2 * (encodeValue format level v).length + 1 ≤ fuel →
    EndsNumeral rest → readValue dialect fuel (encodeValue format level v ++ rest) = .ok (v, rest)

variable {fuel : Nat} {s after next : List Char}

theorem readValue_items {items : List Value} (hnext : ∀ c ∈ next.head?, c ≠ ']')
    (hopen : skipBlanks s = next) (hitems : readItems dialect fuel next = .ok (items, rest)) :
    readValue dialect (fuel + 1) ('[' :: s) = .ok (.list items, rest) := by
  rw [readValue, hopen]
  split
  · exact absurd rfl (hnext ']' rfl)
  · rw [hitems]
    rfl

theorem readItems_last {item : Value} (hitem : readValue dialect fuel s = .ok (item, after))
    (hclose : skipBlanks after = ']' :: rest) :
    readItems dialect (fuel + 1) s = .ok ([item], rest) := by
  rw [readItems, hitem]
  simp only [hclose]

theorem readItems_more {item : Value} {items : List Value}
    (hitem : readValue dialect fuel s = .ok (item, after))
    (hcomma : skipBlanks after = ',' :: next)
    (hitems : readItems dialect fuel (skipBlanks next) = .ok (items, rest)) :
    readItems dialect (fuel + 1) s = .ok (item :: items, rest) := by
  rw [readItems, hitem]
  simp only [hcomma, hitems]
  rfl

theorem readItems_encodeItems {format : Format} (readable : format.Readable) {item : Value}
    {items : List Value} (sound : ∀ v ∈ item :: items, v.Sound (format.Keeps dialect))
    (reads : ∀ v ∈ item :: items, ReadsBack dialect format v) (level outer fuel : Nat)
    (hfuel : 2 * ((encodeValue format level item).length +
      (encodeItems format level items).length) + 2 ≤ fuel) (rest : List Char) :
    readItems dialect fuel (encodeValue format level item ++
      (encodeItems format level items ++ (format.lineBreak outer ++ ']' :: rest))) =
        .ok (item :: items, rest) := by
  obtain ⟨fuel, rfl⟩ := Nat.exists_eq_add_of_le' (Nat.le_trans (Nat.le_add_left 1 _) hfuel)
  induction items generalizing item fuel with
  | nil =>
      have hend := endsNumeral_close format outer (.inl rfl) rest
      refine readItems_last (reads item List.mem_cons_self level fuel _ (by omega) hend) ?_
      rw [encodeItems, List.nil_append, skipBlanks_append (isBlank_of_mem_lineBreak format outer),
        skipBlanks_cons rfl]
  | cons next items ih =>
      obtain ⟨blanks, hseparator, hblanks⟩ := separator_eq readable level
      have hlength : (encodeItems format level (next :: items)).length =
          1 + blanks.length + (encodeValue format level next).length +
            (encodeItems format level items).length := by
        simp [encodeItems, hseparator]
        omega
      obtain ⟨fuel, rfl⟩ : ∃ k, fuel = k + 1 := ⟨fuel - 1, by omega⟩
      have hend := endsNumeral_separator format level (encodeValue format level next ++
        (encodeItems format level items ++ (format.lineBreak outer ++ ']' :: rest)))
      have hitem := reads item List.mem_cons_self level (fuel + 1) _ (by omega) hend
      have hitems := ih (fun v hv => sound v (List.mem_cons_of_mem _ hv))
        (fun v hv => reads v (List.mem_cons_of_mem _ hv)) fuel (by omega)
      rw [← skipBlanks_encodeValue (sound next (by simp)) level hblanks] at hitems
      rw [encodeItems, List.append_assoc, List.append_assoc]
      refine readItems_more hitem ?_ hitems
      rw [hseparator, List.cons_append, skipBlanks_cons rfl]

theorem readValue_members {entries : List (String × Value)} (hopen : skipBlanks s = '"' :: next)
    (hentries : readMembers dialect fuel ('"' :: next) = .ok (entries, rest)) :
    readValue dialect (fuel + 1) ('{' :: s) = .ok (.object (Members.ofEntries entries), rest) := by
  rw [readValue, hopen]
  split
  · next heq => simp at heq
  · rw [hentries]
    rfl

theorem readMembers_last {inner colon value : List Char} {key : String} {v : Value}
    (hkey : readQuoted inner = some (key, colon)) (hcolon : skipBlanks colon = ':' :: value)
    (hvalue : readValue dialect fuel (skipBlanks value) = .ok (v, after))
    (hclose : skipBlanks after = '}' :: rest) :
    readMembers dialect (fuel + 1) ('"' :: inner) = .ok ([(key, v)], rest) := by
  rw [readMembers, hkey]
  simp only [hcolon, hvalue, hclose]

theorem readMembers_more {inner colon value : List Char} {key : String} {v : Value}
    {entries : List (String × Value)} (hkey : readQuoted inner = some (key, colon))
    (hcolon : skipBlanks colon = ':' :: value)
    (hvalue : readValue dialect fuel (skipBlanks value) = .ok (v, after))
    (hcomma : skipBlanks after = ',' :: next)
    (hentries : readMembers dialect fuel (skipBlanks next) = .ok (entries, rest)) :
    readMembers dialect (fuel + 1) ('"' :: inner) = .ok ((key, v) :: entries, rest) := by
  rw [readMembers, hkey]
  simp only [hcolon, hvalue, hcomma, hentries]
  rfl

/-- A key, its colon and its value, as they stand in an object. -/
def memberChars (format : Format) (level : Nat) (entry : String × Value) : List Char :=
  quote entry.1 ++ ':' :: (format.afterColon ++ encodeValue format level entry.2)

theorem skipBlanks_memberChars (format : Format) (level : Nat) (entry : String × Value)
    {blanks : List Char} (hblanks : ∀ c ∈ blanks, isBlank c = true) (s : List Char) :
    skipBlanks (blanks ++ (memberChars format level entry ++ s)) =
      memberChars format level entry ++ s := by
  rw [skipBlanks_append hblanks]
  exact skipBlanks_cons rfl _

/-- A written member comes apart into what the reader of members looks for. -/
theorem memberChars_parts {format : Format} (readable : format.Readable) {entry : String × Value}
    (sound : entry.2.Sound (format.Keeps dialect)) (reads : ReadsBack dialect format entry.2)
    (level fuel : Nat) (hfuel : 2 * (memberChars format level entry).length ≤ fuel) {s : List Char}
    (hend : EndsNumeral s) :
    ∃ inner colon value, memberChars format level entry ++ s = '"' :: inner ∧
      readQuoted inner = some (entry.1, colon) ∧ skipBlanks colon = ':' :: value ∧
      readValue dialect fuel (skipBlanks value) = .ok (entry.2, s) := by
  obtain ⟨key, v⟩ := entry
  obtain ⟨inner, hinner, hkey⟩ := readQuoted_quote key
    (':' :: (format.afterColon ++ (encodeValue format level v ++ s)))
  have hlength :
      (encodeValue format level v).length < (memberChars format level (key, v)).length := by
    simp only [memberChars, List.length_append, List.length_cons]
    omega
  refine ⟨inner, _, _, ?_, hkey, skipBlanks_cons rfl _, ?_⟩
  · rw [← hinner, memberChars, List.append_assoc, List.cons_append, List.append_assoc]
  · rw [skipBlanks_encodeValue sound level readable.afterColon]
    have hvalue : 2 * (encodeValue format level v).length + 1 ≤ fuel := by omega
    exact reads level fuel s hvalue hend

theorem readMembers_encodeMembers {format : Format} (readable : format.Readable)
    {entry : String × Value} {entries : List (String × Value)}
    (sound : ∀ e ∈ entry :: entries, e.2.Sound (format.Keeps dialect))
    (reads : ∀ e ∈ entry :: entries, ReadsBack dialect format e.2) (level outer fuel : Nat)
    (hfuel : 2 * ((memberChars format level entry).length +
      (encodeMembers format level entries).length) + 1 ≤ fuel) (rest : List Char) :
    readMembers dialect fuel (memberChars format level entry ++
      (encodeMembers format level entries ++ (format.lineBreak outer ++ '}' :: rest))) =
        .ok (entry :: entries, rest) := by
  obtain ⟨fuel, rfl⟩ := Nat.exists_eq_add_of_le' (Nat.le_trans (Nat.le_add_left 1 _) hfuel)
  have hentry := sound entry List.mem_cons_self
  have hreads := reads entry List.mem_cons_self
  induction entries generalizing entry fuel with
  | nil =>
      obtain ⟨inner, colon, value, hinner, hkey, hcolon, hvalue⟩ := memberChars_parts readable
        hentry hreads level fuel (by omega) (endsNumeral_close format outer (.inr rfl) rest)
      rw [encodeMembers, List.nil_append, hinner]
      refine readMembers_last hkey hcolon hvalue ?_
      rw [skipBlanks_append (isBlank_of_mem_lineBreak format outer), skipBlanks_cons rfl]
  | cons next entries ih =>
      obtain ⟨blanks, hseparator, hblanks⟩ := separator_eq readable level
      have hentries : encodeMembers format level (next :: entries) =
          format.separator level ++ (memberChars format level next ++
            encodeMembers format level entries) := by
        simp [encodeMembers, memberChars]
      have hlength : (encodeMembers format level (next :: entries)).length =
          1 + blanks.length + (memberChars format level next).length +
            (encodeMembers format level entries).length := by
        simp only [hentries, hseparator, List.length_append, List.length_cons]
        omega
      have hpos : 0 < (memberChars format level entry).length := by simp [memberChars, quote]
      obtain ⟨fuel, rfl⟩ : ∃ k, fuel = k + 1 := ⟨fuel - 1, by omega⟩
      have hmembers := ih (fun e he => sound e (List.mem_cons_of_mem _ he))
        (fun e he => reads e (List.mem_cons_of_mem _ he)) fuel (by omega)
        (sound next (by simp)) (reads next (by simp))
      rw [← skipBlanks_memberChars format level next hblanks] at hmembers
      obtain ⟨inner, colon, value, hinner, hkey, hcolon, hvalue⟩ := memberChars_parts readable
        hentry hreads level (fuel + 1) (by omega) (endsNumeral_separator format level
          (memberChars format level next ++ (encodeMembers format level entries ++
            (format.lineBreak outer ++ '}' :: rest))))
      rw [hentries, List.append_assoc, List.append_assoc, hinner]
      refine readMembers_more hkey hcolon hvalue ?_ hmembers
      rw [hseparator, List.cons_append, skipBlanks_cons rfl]

/-- A sound value is read as it was written. -/
theorem readsBack {format : Format} (readable : format.Readable) {v : Value}
    (sound : v.Sound (format.Keeps dialect)) : ReadsBack dialect format v := by
  induction sound with
  | null =>
      intro level fuel rest hfuel _
      obtain ⟨fuel, rfl⟩ : ∃ k, fuel = k + 1 := ⟨fuel - 1, by omega⟩
      rfl
  | bool b =>
      intro level fuel rest hfuel _
      obtain ⟨fuel, rfl⟩ : ∃ k, fuel = k + 1 := ⟨fuel - 1, by omega⟩
      cases b <;> rfl
  | @number n kept =>
      intro level fuel rest hfuel hrest
      obtain ⟨fuel, rfl⟩ : ∃ k, fuel = k + 1 := ⟨fuel - 1, by omega⟩
      have hread := readNumber_kept readable kept hrest
      obtain ⟨c, more, hcons, hc⟩ := numberChars_head_of_keeps kept
      rw [hcons, List.cons_append] at hread
      rw [encodeValue, hcons, List.cons_append, readValue_number hc, hread]
      rfl
  | string s =>
      intro level fuel rest hfuel _
      obtain ⟨fuel, rfl⟩ : ∃ k, fuel = k + 1 := ⟨fuel - 1, by omega⟩
      obtain ⟨inner, hinner, hread⟩ := readQuoted_quote s rest
      rw [encodeValue, hinner, readValue, hread]
      rfl
  | @list items below ih =>
      intro level fuel rest hfuel _
      obtain ⟨fuel, rfl⟩ : ∃ k, fuel = k + 1 := ⟨fuel - 1, by omega⟩
      cases items with
      | nil => rfl
      | cons item items =>
          have hlength : (encodeValue format level (.list (item :: items))).length =
              2 + (format.lineBreak (level + 1)).length + (format.lineBreak level).length +
                (encodeValue format (level + 1) item).length +
                (encodeItems format (level + 1) items).length := by
            simp [encodeValue]
            omega
          have hitems := readItems_encodeItems readable below ih (level + 1) level fuel (by omega)
            rest
          have hopen := skipBlanks_encodeValue (below item List.mem_cons_self) (level + 1)
            (isBlank_of_mem_lineBreak format (level + 1)) (encodeItems format (level + 1) items ++
              (format.lineBreak level ++ ']' :: rest))
          obtain ⟨c, more, hcons, hc⟩ :=
            encodeValue_head (below item List.mem_cons_self) (level + 1)
          have htext : encodeValue format level (.list (item :: items)) ++ rest =
              '[' :: (format.lineBreak (level + 1) ++ (encodeValue format (level + 1) item ++
                (encodeItems format (level + 1) items ++
                  (format.lineBreak level ++ ']' :: rest)))) := by
            simp [encodeValue]
          rw [htext]
          refine readValue_items ?_ hopen hitems
          rw [hcons]
          rintro _ ⟨⟩
          exact hc.2.1
  | @object members keys below ih =>
      intro level fuel rest hfuel _
      obtain ⟨fuel, rfl⟩ : ∃ k, fuel = k + 1 := ⟨fuel - 1, by omega⟩
      cases members with
      | nil => rfl
      | cons entry entries =>
          have hlength : (encodeValue format level (.object (entry :: entries))).length =
              2 + (format.lineBreak (level + 1)).length + (format.lineBreak level).length +
                (memberChars format (level + 1) entry).length +
                (encodeMembers format (level + 1) entries).length := by
            simp [encodeValue, memberChars]
            omega
          have hmembers := readMembers_encodeMembers readable below ih (level + 1) level fuel
            (by omega) rest
          have hopen := skipBlanks_memberChars format (level + 1) entry
            (isBlank_of_mem_lineBreak format (level + 1))
            (encodeMembers format (level + 1) entries ++ (format.lineBreak level ++ '}' :: rest))
          have htext : encodeValue format level (.object (entry :: entries)) ++ rest =
              '{' :: (format.lineBreak (level + 1) ++ (memberChars format (level + 1) entry ++
                (encodeMembers format (level + 1) entries ++
                  (format.lineBreak level ++ '}' :: rest)))) := by
            simp [encodeValue, memberChars]
          rw [htext, ← Members.ofEntries_of_nodup keys]
          exact readValue_members hopen hmembers

/-- A sound value that was written is decoded to itself. -/
theorem decode_encode {format : Format} (readable : format.Readable) {v : Value}
    (sound : v.Sound (format.Keeps dialect)) : decode dialect (encode format v) = .ok v := by
  have hread := readsBack readable sound 0 (2 * (encodeValue format 0 v).length + 2) [] (by omega)
    (by rintro _ ⟨⟩)
  have hopen := skipBlanks_encodeValue sound 0 (List.forall_mem_nil _) []
  rw [List.append_nil] at hread
  rw [List.nil_append, List.append_nil] at hopen
  unfold decode encode decodeChars
  rw [String.toList_ofList, hopen, hread]
  rfl

end Wireframe.Json

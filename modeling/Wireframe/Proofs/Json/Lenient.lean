import Wireframe.Json.Lenient
import Wireframe.Proofs.Json.Candidate
import Wireframe.Proofs.Json.Decoded

/-! # What is read with slips is sound

The lenient reader keeps the same invariant in every step, whatever it passes over: what it holds
of a list or of an object so far is sound, and what a step adds to it is. So what it takes from a
text can be written, and the text that it is repaired to denotes it (`readRepaired_repair`).
-/

namespace Wireframe.Json.Lenient

/-! ## Texts and numerals -/

theorem sound_ofConstant {s rest : List Char} {v : Value}
    (h : readConstant? s = some (v, rest)) : v.Sound Number.IsWritable := by
  unfold readConstant? at h
  obtain ⟨entry, hmem, hentry⟩ := List.exists_of_findSome?_eq_some h
  obtain ⟨word, constant⟩ := entry
  obtain ⟨_, _, heq⟩ := Option.map_eq_some_iff.mp hentry
  obtain rfl : constant = v := congrArg Prod.fst heq
  have hconstants : ∀ entry ∈ constants, entry.2.Sound Number.IsWritable := by
    simp only [constants, List.forall_mem_cons]
    exact ⟨.bool _, .bool _, .null, .null, by simp⟩
  exact hconstants _ hmem

theorem sound_readEnclosed (enclosure : Enclosure) (s : List Char) :
    (readEnclosed enclosure s).1.Sound Number.IsWritable := by
  unfold readEnclosed
  refine iteInduction (motive := fun result : Value × List Char =>
    result.1.Sound Number.IsWritable) (fun _ => ?_) (fun _ => ?_)
  · exact .string _
  · exact .string _

theorem sound_readTwiceOpened (enclosure : Enclosure) (after : List Char) :
    (readTwiceOpened enclosure after).1.Sound Number.IsWritable := by
  unfold readTwiceOpened
  dsimp only
  split
  · exact .string _
  split
  · exact .string _
  split
  · exact sound_readEnclosed _ _
  split
  · exact .string _
  split
  · exact sound_readEnclosed _ _
  · exact sound_readEnclosed _ _

theorem sound_readText (places : List Place) (s : List Char) :
    (readText places s).1.Sound Number.IsWritable := by
  unfold readText
  split
  · exact .string _
  split
  · exact .string _
  split
  · dsimp only
    split
    · split
      · exact sound_readTwiceOpened _ _
      · exact sound_readEnclosed _ _
    · exact sound_readEnclosed _ _
  · split
    · next h =>
      split at h
      · cases h
      · exact sound_ofConstant h
    · exact sound_readEnclosed _ _

theorem sound_numeralValue (numeral : List Char) :
    (numeralValue numeral).Sound Number.IsWritable := by
  unfold numeralValue
  dsimp only
  split
  · exact .string _
  split
  · cases Text.readPlainDouble? numeral with
    | none => exact .string _
    | some x => exact .number trivial
  split
  · exact .string _
  · next hwhole =>
    simp only [Bool.or_eq_true, Bool.not_eq_true', decide_eq_true_eq, not_or, Bool.not_eq_false,
      Nat.not_lt] at hwhole
    obtain ⟨⟨_, hdigits⟩, hlength⟩ := hwhole
    exact .number (wholeNumber_isWritable (List.all_eq_true.mp hdigits) hlength _)

theorem sound_readNumeral (places : List Place) (s : List Char) :
    (readNumeral places s).1.Sound Number.IsWritable := by
  unfold readNumeral
  dsimp only
  split
  · exact sound_readText _ _
  split
  · exact sound_numeralValue _
  · exact sound_numeralValue _

/-! ## Containers -/

theorem sound_continueList {members : Members} {more : List Value}
    (sound : members.Sound Number.IsWritable) (h : ∀ v ∈ more, v.Sound Number.IsWritable) :
    (continueList members more).Sound Number.IsWritable := by
  unfold continueList
  split
  · next key items rest hlast =>
    have hmembers : members = ((key, Value.list items) :: rest).reverse := by
      rw [← hlast, List.reverse_reverse]
    have hkeys := sound.keys
    have hbelow := sound.below
    rw [hmembers] at hkeys hbelow
    refine ⟨by simpa using hkeys, ?_⟩
    intro entry hentry
    rw [List.mem_reverse, List.mem_cons] at hentry
    rcases hentry with rfl | hentry
    · have hlist := hbelow (key, .list items) (by simp)
      cases hlist with
      | list below =>
          refine .list ?_
          intro v hv
          rcases List.mem_append.mp hv with hv | hv
          · exact below v hv
          · split at hv
            · next inner =>
              cases h _ List.mem_cons_self with
              | list below => exact below v hv
            · exact h v hv
    · exact hbelow entry (by simp [hentry])
  · exact sound

/-- What the readers return with some fuel is sound, when what they hold so far is. -/
structure SoundWith (fuel : Nat) : Prop where
  value : ∀ position, (readValue fuel position).1.Sound Number.IsWritable
  array : ∀ position, (readArray fuel position).1.Sound Number.IsWritable
  items : ∀ read position, (∀ v ∈ read, v.Sound Number.IsWritable) →
    ∀ v ∈ (readItems fuel read position).1, v.Sound Number.IsWritable
  key : ∀ members position, members.Sound Number.IsWritable →
    (readKey fuel members position).members.Sound Number.IsWritable
  members : ∀ read position, read.Sound Number.IsWritable →
    (readMembers fuel read position).1.Sound Number.IsWritable
  object : ∀ position, (readObject fuel position).1.Sound Number.IsWritable

namespace SoundWith

theorem zero : SoundWith 0 where
  value _ := by rw [readValue.eq_def]; exact .string _
  array _ := by rw [readArray.eq_def]; exact .list (by simp)
  items _ _ h := by rw [readItems.eq_def]; exact h
  key _ _ h := by rw [readKey.eq_def]; exact h
  members _ _ h := by rw [readMembers.eq_def]; exact h
  object _ := by rw [readObject.eq_def]; exact .object List.nodup_nil (by simp)

variable {fuel : Nat}

theorem readValue_succ (ih : SoundWith fuel) (position : Position) :
    (readValue (fuel + 1) position).1.Sound Number.IsWritable := by
  rw [readValue.eq_def]
  split
  · next heq _ =>
    obtain rfl := Nat.succ.inj heq
    split
    · exact ih.object _
    split
    · exact ih.array _
    split
    · exact sound_readText _ _
    split
    · exact sound_readNumeral _ _
    split
    · dsimp only
      split
      · exact ih.value _
      · exact .string _
    · exact ih.value _
  · exact .string _

theorem readArray_succ (ih : SoundWith fuel) (position : Position) :
    (readArray (fuel + 1) position).1.Sound Number.IsWritable := by
  rw [readArray.eq_def]
  refine .list ?_
  intro v hv
  exact ih.items [] _ (by simp) v (List.mem_reverse.mp hv)

theorem readItems_succ (ih : SoundWith fuel) {read : List Value} (position : Position)
    (h : ∀ v ∈ read, v.Sound Number.IsWritable) :
    ∀ v ∈ (readItems (fuel + 1) read position).1, v.Sound Number.IsWritable := by
  rw [readItems.eq_def]
  split
  · next heq _ =>
    obtain rfl := Nat.succ.inj heq
    split
    · exact h
    · dsimp only
      refine ih.items _ _ ?_
      refine iteInduction (motive := fun result : List Value × Position =>
        ∀ v ∈ result.1, v.Sound Number.IsWritable) (fun _ => h) (fun _ => ?_)
      refine iteInduction (motive := fun result : List Value × Position =>
        ∀ v ∈ result.1, v.Sound Number.IsWritable) (fun _ => h) (fun _ => ?_)
      refine List.forall_mem_cons.mpr ⟨?_, h⟩
      split
      · exact ih.object _
      split
      · exact sound_readText _ _
      · exact ih.value _
  · exact h

theorem readKey_succ (ih : SoundWith fuel) {members : Members} (position : Position)
    (sound : members.Sound Number.IsWritable) :
    (readKey (fuel + 1) members position).members.Sound Number.IsWritable := by
  rw [readKey.eq_def]
  split
  · next rest heq _ =>
    obtain rfl := Nat.succ.inj heq
    split
    · refine ih.key _ _ (sound_continueList sound ?_)
      have hmore := ih.array { position with rest := rest }
      split
      · next hitems =>
        rw [hitems] at hmore
        cases hmore with
        | list below => exact below
      · simp
    · refine iteInduction
        (motive := fun reading : KeyReading => reading.members.Sound Number.IsWritable)
        (fun _ => sound) (fun _ => ?_)
      exact ih.key _ _ sound
  · exact sound

theorem readMembers_succ (ih : SoundWith fuel) {read : Members} (position : Position)
    (sound : read.Sound Number.IsWritable) :
    (readMembers (fuel + 1) read position).1.Sound Number.IsWritable := by
  rw [readMembers.eq_def]
  dsimp only
  split
  · exact sound
  have hkey := ih.key read ((position.skipBlanks.dropMark [':']).enter .key) sound
  split
  · exact hkey
  split
  · exact ih.members _ _ hkey
  refine ih.members _ _ (hkey.put ?_)
  split
  · exact .string _
  · exact ih.value _

theorem readObject_succ (ih : SoundWith fuel) (position : Position) :
    (readObject (fuel + 1) position).1.Sound Number.IsWritable := by
  rw [readObject.eq_def]
  dsimp only
  have hmembers := ih.members [] position .nil
  have hobject := Value.Sound.object hmembers.keys hmembers.below
  split
  · exact ih.array _
  split
  · exact hobject
  split
  · exact hobject
  split
  · exact hobject
  split
  · next more _ hmore =>
    have hfurther :=
      ih.object ((((readMembers fuel [] position).2.drop 1).skipBlanks.drop 1).skipBlanks)
    rw [hmore] at hfurther
    cases hfurther with
    | object _ below =>
        have table := Members.sound_ofEntries (List.forall_mem_append.mpr ⟨hmembers.below, below⟩)
        exact .object table.keys table.below
  · exact hobject

theorem succ (ih : SoundWith fuel) : SoundWith (fuel + 1) where
  value := ih.readValue_succ
  array := ih.readArray_succ
  items _ := ih.readItems_succ
  key _ := ih.readKey_succ
  members _ := ih.readMembers_succ
  object := ih.readObject_succ

end SoundWith

/-- Whatever the lenient readers return is sound: every step of theirs keeps it so. -/
theorem soundWith (fuel : Nat) : SoundWith fuel := by
  induction fuel with
  | zero => exact .zero
  | succ fuel ih => exact ih.succ

/-! ## Whole texts -/

theorem sound_addValue {read : List Value} {value : Value}
    (h : ∀ v ∈ read, v.Sound Number.IsWritable) (hvalue : value.Sound Number.IsWritable) :
    ∀ v ∈ addValue read value, v.Sound Number.IsWritable := by
  unfold addValue
  split
  · next last before =>
    split
    · exact List.forall_mem_cons.mpr ⟨hvalue, (List.forall_mem_cons.mp h).2⟩
    · exact List.forall_mem_cons.mpr ⟨hvalue, h⟩
  · exact List.forall_mem_singleton.mpr hvalue

theorem sound_readFurther (fuel : Nat) {read : List Value} (position : Position)
    (h : ∀ v ∈ read, v.Sound Number.IsWritable) :
    ∀ v ∈ readFurther fuel read position, v.Sound Number.IsWritable := by
  induction fuel generalizing read position with
  | zero => exact h
  | succ fuel ih =>
      unfold readFurther
      split
      · exact h
      dsimp only
      split
      · exact ih _ (sound_addValue h ((soundWith fuel).value _))
      · exact ih _ h

theorem sound_decodeChars (s : List Char) : (decodeChars s).Sound Number.IsWritable := by
  have hfirst := (soundWith (fuelFor s)).value ⟨[], s⟩
  have hall := sound_readFurther (fuelFor s) (readValue (fuelFor s) ⟨[], s⟩).2
    (List.forall_mem_singleton.mpr hfirst)
  unfold decodeChars
  dsimp only
  split
  · next heq =>
    rw [heq] at hall
    exact List.forall_mem_singleton.mp hall
  · refine .list ?_
    intro v hv
    exact hall v (List.mem_reverse.mp hv)

/-! ## Repaired texts -/

theorem repair_keeps : Repairer.Keeps repair := by
  intro text v h
  rw [repair, h, readRepaired, h]
  rfl

/-- A text with slips is repaired to one that denotes what the lenient reader takes from it. -/
theorem readRepaired_repair {text : String} (h : Json.decode .extended text = .error .malformed) :
    readRepaired (repair text) = .ok (decode text) := by
  have sound : (decode text).Sound Number.IsWritable := sound_decodeChars text.toList
  have hformat : formatFor (-1) (decode text) = .wide none := by simp [formatFor]
  have kept : (decode text).Sound ((formatFor (-1) (decode text)).Keeps .extended) := by
    rw [hformat]
    refine sound.mono fun n hn => ?_
    cases n with
    | int n => exact hn
    | double x => exact .inr ⟨rfl, rfl⟩
  rw [repair, h, dump_of_sound sound]
  exact readRepaired_ok_iff.mpr
    ⟨_, rfl, decode_encode (readable_formatFor (-1) (decode text)) kept⟩

end Wireframe.Json.Lenient

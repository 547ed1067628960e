import Wireframe.Proofs.Json.Candidate
import Wireframe.Proofs.Json.Lenient
import Wireframe.Proofs.Spec.Complete
import Wireframe.Proofs.Spec.Written

/-! # Saving and loading again

A loaded spec can be written at every indent. `Spec.load_dump` says when what was written loads
again, and to which spec: nothing is lost but the props that are null. The parts are that the object
is found in the text again, that it passes the check, that it is read as it was written, and that
nothing in it is left to be filled in.
-/

namespace Wireframe

/-! ## A saved spec has nothing left out -/

theorem Element.id_withoutNulls (e : Element) : e.withoutNulls.id = e.id := by
  cases e
  rfl

theorem Screen.Loaded.isComplete_saved {s : Screen Number} (loaded : s.Loaded) :
    s.saved.IsComplete where
  id := loaded.id
  position := by
    obtain ⟨p, hp, -, -⟩ := loaded.position
    rw [show s.saved.position = s.position.map Point.saved from rfl, hp]
    rfl
  elements e he := by
    obtain ⟨given, hgiven, rfl⟩ := List.mem_map.mp he
    rw [Element.id_withoutNulls]
    exact loaded.ids given hgiven

theorem Spec.ensureIds_saved {spec : Spec Number} (loaded : ∀ s ∈ spec.screens, s.Loaded) :
    spec.saved.ensureIds = spec.saved := by
  rw [ensureIds_eq_self_iff]
  intro s hs
  obtain ⟨given, hgiven, rfl⟩ := List.mem_map.mp hs
  exact (loaded given hgiven).isComplete_saved

/-! ## The outer shape of what is written -/

namespace Envelope

theorem screens_write (spec : Spec Number) :
    ∃ members, spec.write = .object members ∧ screens members = spec.screens.map Screen.write ∧
      checkList members "screens" = .ok () ∧ checkList members "flows" = .ok () :=
  ⟨_, rfl, rfl, rfl, rfl⟩

theorem checkScreens_write (screens : List (Screen Number)) :
    checkScreens 0 (screens.map Screen.write) = .ok () := by
  rw [checkScreens_ok_iff]
  intro v hv
  obtain ⟨s, _, rfl⟩ := List.mem_map.mp hv
  obtain ⟨members, hwrite, -, -, -, helements⟩ := s.fields_write
  refine ⟨members, hwrite, Element.writeAll s.elements, ?_⟩
  rw [Members.value_of_value? helements]
  rfl

theorem idField_write {s : Screen Number} {id : String} (h : s.id = some id) :
    s.write.idField = .string id := by
  obtain ⟨members, hwrite, hid, -⟩ := s.fields_write
  rw [h] at hid
  rw [hwrite]
  exact Members.value_of_value? hid

theorem screenIds_write {spec : Spec Number} (loaded : ∀ s ∈ spec.screens, s.Loaded) :
    screenIds (spec.screens.map Screen.write) =
      spec.screens.map fun s => .string (s.id.getD "") := by
  have hmap : (spec.screens.map Screen.write).map Value.idField =
      spec.screens.map fun s => .string (s.id.getD "") := by
    rw [List.map_map]
    refine List.map_congr_left fun s hs => ?_
    obtain ⟨id, hid, -⟩ := (loaded s hs).id
    rw [Function.comp_apply, idField_write hid, hid, Option.getD_some]
  rw [screenIds_eq, hmap, List.filter_eq_self]
  intro v hv
  obtain ⟨s, _, rfl⟩ := List.mem_map.mp hv
  rfl

/-- The ids that are written pass the check exactly when they differ. -/
theorem checkIds_write {spec : Spec Number} (loaded : ∀ s ∈ spec.screens, s.Loaded) :
    checkIds [] (screenIds (spec.screens.map Screen.write)) = .ok () ↔
      (spec.screens.map (·.id)).Nodup := by
  have hpairs : spec.screens.Pairwise (fun s t => (Value.string (s.id.getD "")).sameKey
      (.string (t.id.getD "")) = false) ↔ spec.screens.Pairwise fun s t => s.id ≠ t.id := by
    refine List.Pairwise.iff_of_mem fun {s t} hs ht => ?_
    obtain ⟨id, hid, -⟩ := (loaded s hs).id
    obtain ⟨id', hid', -⟩ := (loaded t ht).id
    rw [hid, hid']
    simp [Value.sameKey]
  rw [screenIds_write loaded, checkIds_ok_iff, List.pairwise_map, hpairs, List.Nodup,
    List.pairwise_map]
  simp [Value.isKey]

/-- What is written of a loaded spec passes the check within the limits on its size and depth, when
no two screens have the same id. -/
theorem check_write {spec : Spec Number} (loaded : ∀ s ∈ spec.screens, s.Loaded)
    (distinct : (spec.screens.map (·.id)).Nodup) {text : String} {maxSize maxDepth : Int} :
    check spec.write (some text) maxSize maxDepth = .ok () ↔
      (text.utf8ByteSize : Int) ≤ maxSize ∧ excess? maxDepth 0 spec.write = none := by
  obtain ⟨members, hwrite, hscreens, hlist, hflows⟩ := screens_write spec
  rw [check_ok_iff]
  constructor
  · rintro ⟨hsize, _, _, hdepth, -⟩
    exact ⟨hsize, hdepth⟩
  · rintro ⟨hsize, hdepth⟩
    refine ⟨hsize, members, hwrite, hdepth, hlist, hflows, ?_, ?_⟩
    · rw [hscreens]
      exact checkScreens_write _
    · rw [hscreens]
      exact (checkIds_write loaded).mpr distinct

end Envelope

/-! ## What was saved is loaded -/

theorem Element.sound_of_mem_subtrees {e : Element} (sound : e.Sound) :
    ∀ t ∈ e.subtrees, Element.Sound t := by
  induction e using Tree.induct with
  | node head children ih =>
      have hbelow := (sound_node.mp sound).2
      intro t ht
      rw [Tree.subtrees_node, List.mem_cons] at ht
      rcases ht with rfl | ht
      · exact sound
      · obtain ⟨e, he, ht⟩ := List.mem_flatMap.mp ht
        exact ih e he (hbelow e he) t ht

def Number.IsFinite : Number → Prop
  | .int _ => True
  | .double x => x.isFinite = true

theorem Json.keeps_of_isWritable {format : Format} {v : Value}
    (sound : v.Sound Number.IsWritable)
    (h : v.Sound Number.IsFinite ∨ format.numbers = .jsonWide) :
    v.Sound (format.Keeps .extended) := by
  rcases h with finite | hwide
  · refine (sound.and finite).mono fun n hn => ?_
    cases n with
    | int n => exact hn.1
    | double x => exact .inl hn.2
  · refine sound.mono fun n hn => ?_
    cases n with
    | int n => exact hn
    | double x => exact .inr ⟨rfl, hwide⟩

/-- A character takes one to four bytes. -/
theorem utf8ByteSize_bounds (cs : List Char) :
    cs.length ≤ (String.ofList cs).utf8ByteSize ∧
      (String.ofList cs).utf8ByteSize ≤ 4 * cs.length := by
  induction cs with
  | nil => decide
  | cons c cs ih =>
      have hpos := c.utf8Size_pos
      have hmost := c.utf8Size_le_four
      rw [String.ofList_cons, String.utf8ByteSize_append, String.utf8ByteSize_singleton,
        List.length_cons]
      omega

/-- A text at an indent has the blanks of one row at least. -/
theorem Json.toNat_le_size_encode {indent : Int} (h : 2 < indent) (entry : String × Value)
    (members : Members) :
    indent.toNat ≤ (encode (formatFor indent (.object (entry :: members)))
      (.object (entry :: members))).utf8ByteSize := by
  have hformat : formatFor indent (.object (entry :: members)) = .wide (some indent.toNat) := by
    unfold formatFor
    rw [if_neg (by omega), if_neg (by omega), if_pos (by omega)]
  refine Nat.le_trans ?_ (utf8ByteSize_bounds _).1
  rw [hformat, encodeValue]
  simp only [Format.lineBreak, Format.wide, List.length_append, List.length_cons,
    List.length_replicate]
  omega

namespace Spec

/-- What a spec needs for a text of it to hold all of it. -/
structure KeptBy (spec : Spec Number) (indent : Int) (saved : String) : Prop where
  /-- No double is written as null: all are finite, or the format has words for the others. -/
  numbers : spec.write.Sound Number.IsFinite ∨
    (Json.formatFor indent spec.write).numbers = .jsonWide
  /-- Nothing in the text is taken for a fenced block. -/
  unfenced : Json.fenced? saved.toList = none
  distinct : (spec.screens.map (·.id)).Nodup

/-- A saved spec reads as the spec does: nulls as absent props, and a coordinate that was left out
as zero. -/
structure ReadsAlike (spec : Spec Number) : Prop where
  props : ∀ s ∈ spec.screens, ∀ e ∈ Tree.subtreesAll s.elements, ∀ name, name ≠ "children" →
    (Element.withoutNulls e).prop name = Element.prop e name
  coordinates : ∀ s ∈ spec.screens, ∀ p, s.position = some p →
    (p.saved.x = p.x ∨ p.x = .int 0 ∧ p.saved.x = .double 0) ∧
      (p.saved.y = p.y ∨ p.y = .int 0 ∧ p.saved.y = .double 0)

theorem readsAlike {spec : Spec Number} (loaded : ∀ s ∈ spec.screens, s.Loaded) :
    spec.ReadsAlike := by
  refine ⟨?_, ?_⟩
  · intro s hs e he name hname
    rw [Tree.subtreesAll_eq_flatMap] at he
    obtain ⟨root, hroot, he⟩ := List.mem_flatMap.mp he
    have sound := Element.sound_of_mem_subtrees ((loaded s hs).sound root hroot) e he
    exact Element.prop_withoutNulls sound hname
  · intro s hs p hp
    obtain ⟨q, hq, hx, hy⟩ := (loaded s hs).position
    obtain rfl := Option.some.inj (hp.symm.trans hq)
    have hcoordinate : ∀ n : Number, n.IsCoordinate →
        Number.double n.toDouble = n ∨ n = .int 0 ∧ Number.double n.toDouble = .double 0 := by
      rintro n (rfl | ⟨x, rfl⟩)
      · exact .inr ⟨rfl, rfl⟩
      · exact .inl rfl
    exact ⟨hcoordinate _ hx, hcoordinate _ hy⟩

theorem dump_eq {spec : Spec Number} (loaded : ∀ s ∈ spec.screens, s.Loaded) (indent : Int) :
    spec.dump indent = .ok (Json.encode (Json.formatFor indent spec.write) spec.write) :=
  Json.dump_of_sound (sound_write loaded) indent

theorem extract_saved {repair : Json.Repairer} (keeps : repair.Keeps) {spec : Spec Number}
    (loaded : ∀ s ∈ spec.screens, s.Loaded) {indent : Int} {saved : String}
    (hsaved : spec.dump indent = .ok saved) (kept : spec.KeptBy indent saved) {members : Members}
    (hwrite : spec.write = .object members) :
    Json.extract repair saved true = .ok members := by
  obtain rfl := Except.ok.inj ((dump_eq loaded indent).symm.trans hsaved)
  have hkeeps := Json.keeps_of_isWritable (sound_write loaded) kept.numbers
  have hfence := kept.unfenced
  have readable := Json.readable_formatFor indent spec.write
  rw [hwrite] at hkeeps hfence readable ⊢
  exact Json.extract_encode keeps readable hkeeps hfence

/-- A text that holds all of a spec loads within the limits, and is refused beyond them. -/
theorem load_saved {repair : Json.Repairer} (keeps : repair.Keeps) {spec : Spec Number}
    (loaded : ∀ s ∈ spec.screens, s.Loaded) {indent : Int} {saved : String}
    (hsaved : spec.dump indent = .ok saved) (kept : spec.KeptBy indent saved)
    (maxSize maxDepth : Int) :
    (load repair saved maxSize maxDepth).toOption =
      if (saved.utf8ByteSize : Int) ≤ maxSize ∧ Envelope.excess? maxDepth 0 spec.write = none then
        some spec.saved
      else none := by
  obtain ⟨members, hwrite, -⟩ := Envelope.screens_write spec
  have hextract := extract_saved keeps loaded hsaved kept hwrite
  have hread := read_write fun s hs => (loaded s hs).regular
  have hcheck : Envelope.check spec.write (some saved) maxSize maxDepth = .ok () ↔ _ :=
    Envelope.check_write loaded kept.distinct
  split
  · next hfits =>
    have hpasses := hcheck.mpr hfits
    rw [hwrite] at hread hpasses
    rw [load_ok_iff.mpr ⟨members, _, hextract, hpasses, hread, ensureIds_saved loaded⟩]
    rfl
  · next hexceeds =>
    cases hload : load repair saved maxSize maxDepth with
    | error cause => rfl
    | ok again =>
        obtain ⟨found, _, hfound, hpasses, -⟩ := load_ok_iff.mp hload
        obtain rfl := Except.ok.inj (hextract.symm.trans hfound)
        rw [← hwrite] at hpasses
        exact absurd (hcheck.mp hpasses) hexceeds

/-- A loaded spec can be written at every indent. Where no double is written as null, no fenced
block is found in the text, and the ids of the screens differ, the text loads again whenever it is
within the limits, to the spec without the props that are null. -/
theorem load_dump {repair : Json.Repairer} (keeps : repair.Keeps) {text : String}
    {maxSize maxDepth : Int} {spec : Spec Number}
    (h : load repair text maxSize maxDepth = .ok spec) (indent : Int) :
    ∃ saved, spec.dump indent = .ok saved ∧ spec.ReadsAlike ∧
      (spec.KeptBy indent saved → ∀ size depth : Int, (load repair saved size depth).toOption =
        if (saved.utf8ByteSize : Int) ≤ size ∧ Envelope.excess? depth 0 spec.write = none then
          some spec.saved
        else none) := by
  have loaded := loaded_screens h
  have hdump := dump_eq loaded indent
  exact ⟨_, hdump, readsAlike loaded, load_saved keeps loaded hdump⟩

/-- A button with a null prop and a double, saved at four blanks a level. -/
theorem load_dump_button :
    let text := "\x7b\"screens\":[\x7b\"elements\":[\x7b\"label\":null,\"size\":0.5\x7d]\x7d]\x7d"
    ∃ spec saved, load Json.Lenient.repair text defaultMaxSize defaultMaxDepth = .ok spec ∧
      spec.dump 4 = .ok saved ∧ spec.ReadsAlike ∧ spec.KeptBy 4 saved ∧
      (load Json.Lenient.repair saved defaultMaxSize defaultMaxDepth).toOption = some spec.saved := by
  intro text
  have hrun : ((load Json.Lenient.repair text defaultMaxSize
      defaultMaxDepth).toOption.any fun spec =>
      (Json.fenced? (Json.encodeValue (Json.formatFor 4 spec.write) 0 spec.write)).isNone &&
        decide (spec.screens.map (·.id)).Nodup &&
        decide ((4 * (Json.encodeValue (Json.formatFor 4 spec.write) 0 spec.write).length : Int) ≤
          defaultMaxSize) &&
        (Envelope.excess? defaultMaxDepth 0 spec.write).isNone) = true := by
    decide +kernel
  cases h : load Json.Lenient.repair text defaultMaxSize defaultMaxDepth with
  | error cause => simp [h, Except.toOption] at hrun
  | ok spec =>
      obtain ⟨saved, hdump, halike, hload⟩ := load_dump Json.Lenient.repair_keeps h 4
      obtain rfl := Except.ok.inj ((dump_eq (loaded_screens h) 4).symm.trans hdump)
      simp only [h, Except.toOption, Option.any_some, Bool.and_eq_true, decide_eq_true_eq,
        Option.isNone_iff_eq_none] at hrun
      obtain ⟨⟨⟨hfence, hdistinct⟩, hsize⟩, hdepth⟩ := hrun
      have kept : spec.KeptBy 4 (Json.encode (Json.formatFor 4 spec.write) spec.write) :=
        ⟨.inr rfl, by rw [Json.encode, String.toList_ofList]; exact hfence, hdistinct⟩
      have hbytes := (utf8ByteSize_bounds
        (Json.encodeValue (Json.formatFor 4 spec.write) 0 spec.write)).2
      refine ⟨spec, _, rfl, hdump, halike, kept, ?_⟩
      rw [hload kept, if_pos ⟨by unfold Json.encode; omega, hdepth⟩]

/-- What is written at a wider indent than the limit on the size does not load. -/
theorem load_saved_wide (repair : Json.Repairer) {spec : Spec Number}
    (loaded : ∀ s ∈ spec.screens, s.Loaded) {indent maxSize : Int} (hindent : 2 < indent)
    (hsize : maxSize < indent) {saved : String} (hsaved : spec.dump indent = .ok saved)
    (maxDepth : Int) :
    (load repair saved maxSize maxDepth).toOption = none := by
  obtain rfl := Except.ok.inj ((dump_eq loaded indent).symm.trans hsaved)
  have hlong : indent.toNat ≤ (Json.encode (Json.formatFor indent spec.write)
      spec.write).utf8ByteSize := Json.toNat_le_size_encode hindent _ _
  cases h : load repair _ maxSize maxDepth with
  | error cause => rfl
  | ok again =>
      obtain ⟨_, _, _, hcheck, -⟩ := load_ok_iff.mp h
      have hlimit := (Envelope.check_ok_iff.mp hcheck).1
      omega

/-- Texts that load but are not read back: a name with fences in it, a coordinate that is infinite,
an empty element at the greatest depth, and any document at an indent of more blanks than a document
may have bytes. -/
theorem load_dump_lossy :
    let deep := "\x7b\"screens\":[\x7b\"elements\":[" ++
      String.join (List.replicate 8 "\x7b\"children\":[") ++ "\x7b\x7d" ++
      String.join (List.replicate 8 "]\x7d") ++ "]\x7d]\x7d"
    let again (text : String) (indent : Int) :=
      (load Json.Lenient.repair text defaultMaxSize defaultMaxDepth).toOption.bind fun spec =>
        (spec.dump indent).toOption.map fun saved =>
          let reread := load Json.Lenient.repair saved defaultMaxSize defaultMaxDepth
          (spec.appName, reread.toOption.map Spec.appName)
    again "\x7b\"appName\":\"\\u0060\\u0060\\u0060\x7b\x7d\\u0060\\u0060\\u0060\"\x7d" 0 =
        some ("\x60\x60\x60\x7b\x7d\x60\x60\x60", some "") ∧
      again "\x7b\"screens\":[\x7b\"position\":\x7b\"x\":1e999\x7d\x7d]\x7d" 0 = some ("", none) ∧
      again deep 1 = some ("", none) ∧ again "\x7b\x7d" 600000 = some ("", none) := by
  intro deep again
  refine ⟨by decide +kernel, by decide +kernel, ?_, ?_⟩
  · have hrun : ((load Json.Lenient.repair deep defaultMaxSize
        defaultMaxDepth).toOption.any fun spec =>
        (Json.fenced? (Json.encodeValue (Json.formatFor 1 spec.write) 0 spec.write)).isNone &&
          decide (spec.screens.map (·.id)).Nodup &&
          (Envelope.excess? defaultMaxDepth 0 spec.write).isSome && spec.appName == "") = true := by
      decide +kernel
    dsimp only [again]
    cases h : load Json.Lenient.repair deep defaultMaxSize defaultMaxDepth with
    | error cause => simp [h, Except.toOption] at hrun
    | ok spec =>
        have loaded := loaded_screens h
        simp only [h, Except.toOption, Option.any_some, Bool.and_eq_true, decide_eq_true_eq,
          Option.isNone_iff_eq_none, beq_iff_eq, Option.isSome_iff_ne_none] at hrun
        obtain ⟨⟨⟨hfence, hdistinct⟩, hdepth⟩, hname⟩ := hrun
        have kept : spec.KeptBy 1 (Json.encode (Json.formatFor 1 spec.write) spec.write) :=
          ⟨.inr rfl, by rw [Json.encode, String.toList_ofList]; exact hfence, hdistinct⟩
        have hlost := load_saved Json.Lenient.repair_keeps loaded (dump_eq loaded 1) kept
          defaultMaxSize defaultMaxDepth
        rw [if_neg fun hfits => hdepth hfits.2] at hlost
        rw [Except.toOption, Option.bind_some, dump_eq loaded, Except.toOption, Option.map_some,
          hlost, hname, Option.map_none]
  · have hrun : (load Json.Lenient.repair "\x7b\x7d" defaultMaxSize
        defaultMaxDepth).toOption.map Spec.appName = some "" := by
      decide +kernel
    dsimp only [again]
    cases h : load Json.Lenient.repair "\x7b\x7d" defaultMaxSize defaultMaxDepth with
    | error cause => simp [h, Except.toOption] at hrun
    | ok spec =>
        have loaded := loaded_screens h
        have hlost := load_saved_wide Json.Lenient.repair loaded (by decide)
          (by decide : defaultMaxSize < 600000) (dump_eq loaded 600000) defaultMaxDepth
        rw [h] at hrun
        rw [Except.toOption, Option.bind_some, dump_eq loaded, Except.toOption, Option.map_some,
          hlost, Option.some.inj hrun, Option.map_none]

end Spec

end Wireframe

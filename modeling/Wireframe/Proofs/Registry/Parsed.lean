import Wireframe.Proofs.Json.Numeral
import Wireframe.Proofs.Registry.Judged
import Wireframe.Proofs.Spec.Reading
import Wireframe.Registry.Table

/-! # Objects and the elements read from them

A validation reads an element as the object of everything that it says. Reading an object changes
none of its required props, so that object and element are answered alike if their types are. They
are not where a number stands for the type: its text is the type of the element and is unknown, but
zero is no type of the object, and an integer of too many digits is not put into words.
-/

namespace Wireframe

namespace Element

variable {members : Members} {e : Element}

theorem prop_eq_value_props {name : String} (h : name ∉ ["type", "id", "children"]) :
    e.prop name = e.props.value name := by
  simp only [List.mem_cons, List.not_mem_nil, or_false, not_or] at h
  obtain ⟨htype, hid, hchildren⟩ := h
  unfold prop Members.value
  rw [toMembers, Members.value?_cons, if_neg (Ne.symm htype), Members.value?_cons,
    if_neg (Ne.symm hid), Members.value?_cons, if_neg (Ne.symm hchildren)]

/-- What is no field of an element is a prop of it, as it was written. -/
theorem prop_of_read (hread : read (.object members) = .ok e) {name : String}
    (h : name ∉ ["type", "id", "children"]) : e.prop name = members.value name := by
  obtain ⟨_, ⟨⟩, -, -, hprops, -⟩ := read_ok_iff.mp hread
  have hfilter := Members.value?_filter
    (fun key => !(key == "type" || key == "id" || key == "children")) members name
  rw [if_pos (by simpa [and_assoc] using h)] at hfilter
  rw [prop_eq_value_props h, ← hprops]
  exact congrArg (fun value => value.getD .null) hfilter

/-- The type of an element is the text that its object gives, that of its number, or empty. -/
theorem type_of_read (hread : read (.object members) = .ok e) :
    members.value "type" = .string e.type ∨
    (∃ n, members.value "type" = .number n ∧ e.type = n.fullText) ∨
    members.value "type" = .null ∧ e.type = "" := by
  obtain ⟨_, ⟨⟩, htype, -⟩ := read_ok_iff.mp hread
  rcases Members.field_ok_iff.mp htype with ⟨v, hvalue, hv⟩ | ⟨habsent, hempty⟩
  · rw [Members.value_of_value? hvalue]
    cases v with
    | string s => cases hv; exact .inl rfl
    | number n =>
        obtain ⟨-, htext⟩ := Value.display_ok_iff.mp hv
        exact .inr (.inl ⟨n, rfl, htext.symm.trans (Value.fullText_number n)⟩)
    | _ => nomatch hv
  · exact .inr (.inr ⟨Members.value_of_absent habsent, hempty.symm⟩)

theorem read_number {n : Number} (h : n.IsWritable) :
    read (.object [("type", .number n)]) = .ok (.node ⟨n.fullText, none, []⟩ []) := by
  have htext : Value.asLooseString (.number n) = .ok n.fullText :=
    Value.display_ok_iff.mpr ⟨Value.isWritable_of_sound (.number h), Value.fullText_number n⟩
  refine read_ok_iff.mpr ⟨_, rfl, ?_, rfl, rfl, rfl⟩
  exact (Members.field_of_value? rfl).mpr htext

end Element

def Validation.ofResult : Except String ComponentSchema → Validation
  | .ok _ => .valid
  | .error error => .invalid error

namespace Registry

variable {registry : Registry} {members : Members} {e : Element}

/-! ## What decides an answer -/

theorem missingProp?_congr {names : List String} {other : Members}
    (h : ∀ name ∈ names, members.value name = other.value name) :
    missingProp? members names = missingProp? other names := by
  induction names with
  | nil => rfl
  | cons name names ih =>
      rw [List.forall_mem_cons] at h
      rw [missingProp?, missingProp?, h.1, ih h.2]

theorem mem_of_schema? {name : String} {schema : ComponentSchema}
    (h : registry.schema? name = some schema) : schema ∈ registry :=
  List.mem_of_find?_eq_some h

/-- Of an object with a type, only the required props count. -/
theorem verdict_congr {other : Members} {name : String}
    (htype : members.value "type" = .string name) (hother : other.value "type" = .string name)
    (hprops : ∀ schema ∈ registry, ∀ prop ∈ schema.requiredProps,
      members.value prop = other.value prop) :
    registry.verdict members = registry.verdict other := by
  by_cases hname : name = ""
  · rw [verdict_untyped (by rw [htype, hname]; rfl), verdict_untyped (by rw [hother, hname]; rfl)]
  · have htruthy : (Value.string name).truthy = true := by simp [Value.truthy, hname]
    cases hschema : registry.schema? name with
    | none =>
        have hlookup : registry.schemaOf? (.string name) = .ok none := by rw [schemaOf?, hschema]
        rw [verdict_unknown (by rwa [htype]) (by rwa [htype]),
          verdict_unknown (by rwa [hother]) (by rwa [hother]), htype, hother]
    | some schema =>
        have hknown : registry.HasSchema members schema := ⟨name, hname, htype, hschema⟩
        have hknown' : registry.HasSchema other schema := ⟨name, hname, hother, hschema⟩
        rw [hknown.verdict, hknown'.verdict,
          missingProp?_congr (hprops schema (mem_of_schema? hschema))]

theorem validate_eq_of_verdict (h : registry.verdict members = registry.verdict e.toMembers) :
    registry.validate (.object members) = registry.validateElement e :=
  congrArg (· >>= Validation.ofVerdict) h

theorem requiredProps_notMem_fields (hregistry : registry ⊆ builtin) :
    ∀ schema ∈ registry, ∀ prop ∈ schema.requiredProps, prop ∉ ["type", "id", "children"] := by
  have hbuiltin : ∀ schema ∈ builtin, ∀ prop ∈ schema.requiredProps,
      prop ∉ ["type", "id", "children"] := by decide +kernel
  exact fun schema hschema => hbuiltin schema (hregistry hschema)

/-- No number is written as a built-in type is. -/
theorem text_ne_typeName (hregistry : registry ⊆ builtin) (n : Number) :
    ∀ schema ∈ registry, n.fullText ≠ schema.typeName := by
  have hwords : ∀ schema ∈ builtin, schema.typeName ≠ "inf" ∧ schema.typeName ≠ "nan" := by
    decide +kernel
  have hheads : ∀ schema ∈ builtin,
      (schema.typeName.toList.head?.all fun c => !c.isDigit && c != '-') = true := by
    decide +kernel
  intro schema hschema htext
  obtain ⟨hinf, hnan⟩ := hwords schema (hregistry hschema)
  have hhead := hheads schema (hregistry hschema)
  rw [← htext] at hinf hnan hhead
  rcases n.fullText_head with ⟨c, more, hcons, hc⟩ | hword | hword
  · obtain ⟨hdigit, hminus⟩ : c.isDigit = false ∧ c ≠ '-' := by simpa [hcons] using hhead
    exact hc.elim (by simp [hdigit]) hminus
  · exact hinf hword
  · exact hnan hword

/-! ## Numbers that stand for a type -/

theorem validate_unknown {v type : Value} (htype : v.typeTag = type)
    (htruthy : type.truthy = true) (hkey : type.isKey = true)
    (hwritable : ∀ n, type = .number n → n.IsWritable)
    (hnew : ∀ schema ∈ registry, type ≠ .string schema.typeName) :
    registry.validate v = .ok (.invalid ("Unknown component type: " ++ type.fullText)) := by
  subst htype
  exact validate_of_judges (.unknown htruthy hkey hwritable hnew)

theorem validateElement_number (hregistry : registry ⊆ builtin) {n : Number}
    (htype : e.type = n.fullText) :
    registry.validateElement e = .ok (.invalid ("Unknown component type: " ++ n.fullText)) := by
  have htag : (Value.object e.toMembers).typeTag = .string n.fullText := by
    rw [← htype]
    exact value_type e
  have htruthy : (Value.string n.fullText).truthy = true := by
    simp [Value.truthy, n.fullText_ne_empty]
  refine validate_unknown htag htruthy rfl (fun m hm => by cases hm) fun schema hschema => ?_
  rw [Ne, Value.string.injEq]
  exact text_ne_typeName hregistry n schema hschema

/-- An object whose type is a number is of an unknown type as its element is, unless the number is
zero or an integer of too many digits. -/
theorem validate_number_iff {n : Number} (htype : members.value "type" = .number n) :
    registry.validate (.object members) =
      .ok (.invalid ("Unknown component type: " ++ n.fullText)) ↔
      n.isZero = false ∧ n.IsWritable := by
  have htag : (Value.object members).typeTag = .number n := htype
  cases hzero : n.isZero with
  | true =>
      have huntyped : registry.validate (.object members) =
          .ok (.invalid "Component missing type") :=
        validate_of_judges (.untyped (by rw [htag]; simp [Value.truthy, hzero]))
      rw [huntyped]
      refine iff_of_false (fun h => ?_) (by simp)
      have hfirst := congrArg (fun text => text.toList.head?)
        (Option.some.inj (congrArg Validation.error (Except.ok.inj h)))
      rw [String.toList_append] at hfirst
      exact absurd (show some 'C' = some 'U' from hfirst) (by decide)
  | false =>
      by_cases hwritable : n.IsWritable
      · rw [← Value.fullText_number]
        refine iff_of_true (validate_unknown htag ?_ rfl ?_ ?_) ⟨rfl, hwritable⟩
        · rw [Value.truthy, hzero]
          rfl
        · intro m hm
          cases hm
          exact hwritable
        · exact fun schema _ h => by cases h
      · have hfails : (registry.validate (.object members)).isOk = false :=
          validate_of_baffles (.overlong htag hwritable)
        refine iff_of_false (fun h => ?_) (fun h => hwritable h.2)
        rw [h] at hfails
        cases hfails

/-! ## Both forms -/

theorem conclude_invalid {type : Value} {error : String} (h : error ≠ "") :
    registry.conclude type (.invalid error) = .ok (.error error) := by
  rw [conclude, Validation.invalid, nonempty?_some, if_neg h]
  rfl

/-- What `inspect` answers is in accord with `validate`, and it does not fail by itself. -/
theorem inspect_ofResult (registry : Registry) (v : Value) :
    (registry.inspect v).map Validation.ofResult = registry.validate v := by
  cases hvalidate : registry.validate v with
  | error cause => rw [inspect, hvalidate]; rfl
  | ok outcome =>
      rw [inspect, hvalidate, Except.ok_bind]
      cases judges_of_validate hvalidate with
      | untyped falsy => rw [conclude_invalid (by decide)]; rfl
      | unknown truthy key writable new => rw [conclude_invalid (by simp)]; rfl
      | missing known order present absent => rw [conclude_invalid (by simp)]; rfl
      | valid known present =>
          obtain ⟨name, -, htype, hschema⟩ := known
          have hlookup : registry.schemaOf? (Value.object _).typeTag = .ok (some _) :=
            schemaOf?_eq_some_iff.mpr ⟨name, htype, hschema⟩
          rw [conclude, hlookup]
          rfl

/-- An object and the element that is read from it are answered alike, unless the type is zero or an
integer of too many digits; and for both `inspect` is in accord with `validate`. -/
theorem validate_parsed (hregistry : registry ⊆ builtin)
    (hread : Element.read (.object members) = .ok e) :
    (registry.validate (.object members) = registry.validateElement e ↔
      ∀ n, members.value "type" = .number n → n.isZero = false ∧ n.IsWritable) ∧
    (registry.inspect (.object members)).map Validation.ofResult =
      registry.validate (.object members) ∧
    (registry.inspectElement e).map Validation.ofResult = registry.validateElement e := by
  refine ⟨?_, registry.inspect_ofResult _, registry.inspect_ofResult (.object e.toMembers)⟩
  rcases Element.type_of_read hread with htype | ⟨n, htype, htext⟩ | ⟨htype, hempty⟩
  · have hprops : ∀ schema ∈ registry, ∀ prop ∈ schema.requiredProps,
        members.value prop = e.toMembers.value prop := fun schema hschema prop hprop =>
      (Element.prop_of_read hread
        (requiredProps_notMem_fields hregistry schema hschema prop hprop)).symm
    have hverdict := verdict_congr htype (value_type e) hprops
    exact iff_of_true (validate_eq_of_verdict hverdict) (by simp [htype])
  · rw [validateElement_number hregistry htext, validate_number_iff htype, htype]
    simp
  · have hverdict : registry.verdict members = registry.verdict e.toMembers := by
      rw [verdict_untyped (by rw [htype]; rfl),
        verdict_untyped (by rw [value_type, hempty]; rfl)]
    exact iff_of_true (validate_eq_of_verdict hverdict) (by simp [htype])

/-- A stat whose value is a number, and an object whose type is one. -/
theorem validate_parsed_numbers :
    let stat : Members := [
      ("type", .string "stat"), ("label", .string "Users"), ("value", .int 0), ("children", .null)]
    let five : Members := [("type", .int 5)]
    (∃ e, Element.read (.object stat) = .ok e ∧
      builtin.validate (.object stat) = builtin.validateElement e ∧
      builtin.validate (.object stat) = .ok .valid) ∧
    ∃ e, Element.read (.object five) = .ok e ∧
      builtin.validate (.object five) = builtin.validateElement e ∧
      builtin.validate (.object five) = .ok (.invalid "Unknown component type: 5") := by
  intro stat five
  have hstat : Element.read (.object stat) = .ok (.node ⟨"stat", none, _⟩ []) := rfl
  have hwritable : (Number.int 5).isZero = false ∧ (Number.int 5).IsWritable :=
    ⟨rfl, show Text.isWritable 5 = true by decide +kernel⟩
  have hfive := Element.read_number hwritable.2
  refine ⟨⟨_, hstat, ?_, rfl⟩, ⟨_, hfive, ?_, (validate_number_iff rfl).mpr hwritable⟩⟩
  · refine (validate_parsed (List.Subset.refl _) hstat).1.mpr fun n hn => ?_
    cases hn
  · refine (validate_parsed (List.Subset.refl _) hfive).1.mpr fun n hn => ?_
    cases hn
    exact hwritable

/-- Zero is no type of the object, but the text of it is one of the element. -/
theorem validate_parsed_zero :
    let zero : Members := [("type", .int 0)]
    ∃ e, Element.read (.object zero) = .ok e ∧
      builtin.validate (.object zero) = .ok (.invalid "Component missing type") ∧
      builtin.validateElement e = .ok (.invalid "Unknown component type: 0") :=
  ⟨.node ⟨"0", none, []⟩ [], Element.read_number Text.isWritable_zero, rfl, rfl⟩

end Registry

end Wireframe

import Wireframe.Proofs.Outcome
import Wireframe.Registry.Validation

/-! # Verdicts

A verdict is on the type first and then on the required props, in their order: the one that it names
is the first that is not present. There is no verdict where the type cannot be looked up, or where
behind props that are present stands a number that is too large for the test of presence.
-/

namespace Wireframe

/-- Behind required props that are present stands a number beyond the range of the doubles. -/
inductive Members.Exceeds (members : Members) : List String → Prop where
  | here {name : String} {names : List String} {n : Number}
      (number : members.value name = .number n) (beyond : n.inRange = false) :
      Exceeds members (name :: names)
  | later {name : String} {names : List String}
      (present : (members.value name).isPresent = .ok true) (rest : Exceeds members names) :
      Exceeds members (name :: names)

namespace Registry

variable {registry : Registry} {members : Members} {schema : ComponentSchema}

def HasSchema (registry : Registry) (members : Members) (schema : ComponentSchema) : Prop :=
  ∃ name, name ≠ "" ∧ members.value "type" = .string name ∧ registry.schema? name = some schema

/-! ## The required props -/

theorem isPresent_isOk (v : Value) :
    v.isPresent.isOk = false ↔ ∃ n, v = .number n ∧ n.inRange = false := by
  cases v with
  | number n =>
      rw [Value.isPresent]
      by_cases hrange : n.inRange = true
      · rw [if_pos hrange]
        simp [hrange]
      · rw [if_neg hrange]
        simp [hrange]
  | _ => simp [Value.isPresent]

theorem missingProp?_isOk (members : Members) (names : List String) :
    (missingProp? members names).isOk = false ↔ members.Exceeds names := by
  induction names with
  | nil => exact iff_of_false nofun nofun
  | cons name names ih =>
      rw [missingProp?]
      have hfirst := isPresent_isOk (members.value name)
      cases hpresent : (members.value name).isPresent with
      | error cause =>
          rw [hpresent] at hfirst
          obtain ⟨n, hnumber, hbeyond⟩ := hfirst.mp rfl
          exact iff_of_true rfl (.here hnumber hbeyond)
      | ok present =>
          rw [hpresent] at hfirst
          have hexceeds : members.Exceeds (name :: names) ↔
              present = true ∧ members.Exceeds names := by
            constructor
            · intro h
              cases h with
              | here hnumber hbeyond => cases hfirst.mpr ⟨_, hnumber, hbeyond⟩
              | later hnext hrest =>
                  rw [hpresent] at hnext
                  exact ⟨Except.ok.inj hnext, hrest⟩
            · intro h
              exact .later (by rw [hpresent, h.1]) h.2
          rw [Except.ok_bind, hexceeds]
          cases present with
          | true => simpa using ih
          | false => simp

theorem missingProp?_eq_none_iff {names : List String} :
    missingProp? members names = .ok none ↔
      ∀ name ∈ names, (members.value name).isPresent = .ok true := by
  induction names with
  | nil => simp [missingProp?]
  | cons name names ih =>
      rw [missingProp?, Except.bind_ok_iff, List.forall_mem_cons, ← ih]
      constructor
      · rintro ⟨present, hpresent, h⟩
        cases present with
        | true => exact ⟨hpresent, h⟩
        | false => cases h
      · rintro ⟨hpresent, h⟩
        exact ⟨true, hpresent, h⟩

theorem missingProp?_eq_some_iff {names : List String} {name : String} :
    missingProp? members names = .ok (some name) ↔
      ∃ before after, names = before ++ name :: after ∧
        (∀ other ∈ before, (members.value other).isPresent = .ok true) ∧
        (members.value name).isPresent = .ok false := by
  induction names with
  | nil => simp [missingProp?]
  | cons first names ih =>
      rw [missingProp?, Except.bind_ok_iff]
      constructor
      · rintro ⟨present, hpresent, h⟩
        cases present with
        | true =>
            obtain ⟨before, after, rfl, hbefore, hname⟩ := ih.mp h
            refine ⟨first :: before, after, rfl, ?_, hname⟩
            exact List.forall_mem_cons.mpr ⟨hpresent, hbefore⟩
        | false =>
            cases h
            exact ⟨[], names, rfl, List.forall_mem_nil _, hpresent⟩
      · rintro ⟨before, after, hnames, hbefore, hname⟩
        cases before with
        | nil =>
            cases hnames
            exact ⟨false, hname, rfl⟩
        | cons other before =>
            cases hnames
            rw [List.forall_mem_cons] at hbefore
            exact ⟨true, hbefore.1, ih.mpr ⟨before, after, rfl, hbefore.2, hname⟩⟩

/-! ## The type -/

theorem schema?_eq_none_iff {name : String} :
    registry.schema? name = none ↔ ∀ schema ∈ registry, name ≠ schema.typeName := by
  simp [schema?, List.find?_eq_none, @eq_comm _ name]

theorem schemaOf?_eq_none_iff {type : Value} :
    registry.schemaOf? type = .ok none ↔
      type.isKey = true ∧ ∀ schema ∈ registry, type ≠ .string schema.typeName := by
  cases type <;> simp [schemaOf?, Value.isKey, schema?_eq_none_iff]

theorem schemaOf?_eq_some_iff {type : Value} :
    registry.schemaOf? type = .ok (some schema) ↔
      ∃ name, type = .string name ∧ registry.schema? name = some schema := by
  cases type <;> simp [schemaOf?, Value.isKey]

theorem schemaOf?_isOk (registry : Registry) (type : Value) :
    (registry.schemaOf? type).isOk = type.isKey := by
  cases type <;> rfl

/-! ## Verdicts -/

theorem verdict_untyped (h : (members.value "type").truthy = false) :
    registry.verdict members = .ok (.error .missingType) := by
  simp [verdict, h, pure, Except.pure]

theorem verdict_unkeyed (htruthy : (members.value "type").truthy = true)
    (hkey : (members.value "type").isKey = false) : (registry.verdict members).isOk = false := by
  have hlookup := registry.schemaOf?_isOk (members.value "type")
  cases h : registry.schemaOf? (members.value "type") with
  | error cause => simp [verdict, htruthy, h, bind, Except.bind]
  | ok found => simp [h, hkey] at hlookup

theorem verdict_unknown (htruthy : (members.value "type").truthy = true)
    (h : registry.schemaOf? (members.value "type") = .ok none) :
    registry.verdict members = .ok (.error (.unknownType (members.value "type"))) := by
  simp [verdict, htruthy, h, Except.ok_bind, pure, Except.pure]

/-- Where there is a schema, the verdict is on the first prop that is missing. -/
theorem HasSchema.verdict (h : registry.HasSchema members schema) :
    registry.verdict members = (missingProp? members schema.requiredProps).map fun missing =>
      missing.elim (.ok schema) fun name => .error (.missingProp name) := by
  obtain ⟨name, hname, htype, hschema⟩ := h
  cases hmissing : missingProp? members schema.requiredProps with
  | error cause =>
      simp [Registry.verdict, htype, Value.truthy, hname, schemaOf?, hschema, hmissing, bind,
        Except.bind, Except.map]
  | ok missing =>
      cases missing <;>
        simp [Registry.verdict, htype, Value.truthy, hname, schemaOf?, hschema, hmissing,
          Except.ok_bind, Except.map, pure, Except.pure]

theorem value_type (e : Element) : e.toMembers.value "type" = .string e.type := rfl

end Registry

end Wireframe

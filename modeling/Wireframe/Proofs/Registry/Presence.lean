import Wireframe.Plan.Resolve
import Wireframe.Proofs.Registry.Parsed

/-! # Missing props and defaults

A validation asks whether a required prop is present, and a rule whether it was supplied. The two
differ on false and on not-a-number, which count as missing but are drawn as they are. Every other
required prop that is missing is one for which the default of the rule stands.
-/

namespace Wireframe

theorem Value.isPresent_eq_false_iff {v : Value} :
    v.isPresent = .ok false ↔
      v.isSupplied = false ∨ v = .bool false ∨ v = .number (.double .nan) := by
  cases v with
  | number n =>
      cases n with
      | int n =>
          cases hrange : (Number.int n).inRange <;>
            simp [isPresent, isSupplied, Number.isNaN, hrange]
      | double x =>
          cases x <;> simp [isPresent, isSupplied, Number.inRange, Number.isNaN, Double.isNaN]
  | _ => simp [isPresent, isSupplied]

namespace Resolution

variable {r : Resolution} {name : String}

/-- The effective value of a prop is the default, whatever that may be. -/
def TakesDefault (r : Resolution) (name : String) : Prop :=
  ∀ defaults : Members, { r with defaults }.prop name = defaults.value name

theorem takesDefault_iff : r.TakesDefault name ↔ (r.own.value name).isSupplied = false := by
  constructor
  · intro h
    cases hsupplied : (r.own.value name).isSupplied with
    | false => rfl
    | true =>
        have hnone : r.own.value name = .null := by
          have hprop := h []
          rwa [prop, supplied, if_pos hsupplied] at hprop
        rw [hnone] at hsupplied
        nomatch hsupplied
  · intro h defaults
    rw [prop, supplied, h]
    rfl

theorem prop_of_not_takesDefault (h : ¬ r.TakesDefault name) : r.prop name = r.own.value name := by
  rw [takesDefault_iff, Bool.not_eq_false] at h
  rw [prop, supplied, if_pos h]

end Resolution

/-- An element is resolved by a rule, which has the props of the element over its own defaults. -/
structure Rules.Applies (rules : Rules) (inherited : Option String) (e : Element) (rule : Rule)
    (r : Resolution) : Prop where
  known : rules.rule? e.type = some rule
  own : r.own = e.props
  defaults : r.defaults = rule.defaults
  plan : rules.resolve inherited e =
    (rule.expand r).map (Plan.asElement (resolvedId e.id inherited) e.type false)

theorem Rules.exists_applies {rules : Rules} {e : Element} {rule : Rule}
    (h : rules.rule? e.type = some rule) (inherited : Option String) :
    ∃ r, rules.Applies inherited e rule r := by
  obtain ⟨head, children⟩ := e
  have hrule : rules.rule? head.type = some rule := h
  refine ⟨⟨head.props, rule.defaults,
    resolveChildren rules (resolvedId head.id inherited) 0 children⟩, h, rfl, rfl, ?_⟩
  rw [resolve, hrule]
  rfl

namespace Registry

variable {registry : Registry} {schema : ComponentSchema} {e : Element}

/-- Every registered type has a rule, with a default for each required prop. -/
theorem exists_rule (h : schema ∈ builtin) :
    ∃ rule, Rules.builtin.rule? schema.typeName = some rule ∧
      ∀ name ∈ schema.requiredProps, (rule.defaults.value name).isSupplied = true := by
  have hbuiltin : ∀ schema ∈ builtin,
      (Rules.builtin.rule? schema.typeName).any fun rule =>
        schema.requiredProps.all fun name => (rule.defaults.value name).isSupplied := by
    decide +kernel
  obtain ⟨rule, hrule, hdefaults⟩ := (Option.any_eq_true _ _).mp (hbuiltin schema h)
  exact ⟨rule, hrule, List.all_eq_true.mp hdefaults⟩

/-- What has a known type is found to lack a required prop exactly if one is missing. -/
theorem HasSchema.missing_iff {members : Members} (known : registry.HasSchema members schema)
    {outcome : Validation} (h : registry.validate (.object members) = .ok outcome) :
    (∃ name ∈ schema.requiredProps, outcome = .invalid ("Missing required prop: " ++ name)) ↔
      ∃ name ∈ schema.requiredProps, (members.value name).isPresent = .ok false := by
  rw [known.validate, Except.map_ok_iff] at h
  obtain ⟨missing, hmissing, rfl⟩ := h
  cases missing with
  | none =>
      have hpresent := missingProp?_eq_none_iff.mp hmissing
      refine iff_of_false (fun ⟨name, _, h⟩ => nomatch h) fun ⟨name, hname, h⟩ => ?_
      rw [hpresent name hname] at h
      nomatch h
  | some name =>
      obtain ⟨before, after, order, -, absent⟩ := missingProp?_eq_some_iff.mp hmissing
      have hname : name ∈ schema.requiredProps := by simp [order]
      exact iff_of_true ⟨name, hname, rfl⟩ ⟨name, hname, absent⟩

theorem hasSchema_builtin (hschema : schema ∈ builtin) (htype : e.type = schema.typeName) :
    builtin.HasSchema e.toMembers schema := by
  have hnamed : ∀ schema ∈ builtin, schema.typeName ≠ "" := by decide +kernel
  refine ⟨e.type, by rw [htype]; exact hnamed schema hschema, value_type e, ?_⟩
  cases hfound : builtin.schema? e.type with
  | none => exact absurd htype (schema?_eq_none_iff.mp hfound schema hschema)
  | some other =>
      have hother : other.typeName = e.type := by simpa using List.find?_some hfound
      rw [List.inj_on_of_nodup_map types_builtin_nodup (mem_of_schema? hfound) hschema
        (hother.trans htype)]

/-- Of a registered type, a required prop is missing exactly if the rule's default stands for it,
or it is false or not-a-number; and a validation that answers reports that one is missing exactly if
one is. A prop that does not take the default has the value of the element. -/
theorem missing_iff_takesDefault (hschema : schema ∈ builtin) (htype : e.type = schema.typeName)
    (inherited : Option String) :
    (∃ rule r, Rules.builtin.Applies inherited e rule r ∧
      ∀ name ∈ schema.requiredProps,
        (rule.defaults.value name).isSupplied = true ∧
        ((e.prop name).isPresent = .ok false ↔
          r.TakesDefault name ∨ e.prop name = .bool false ∨
            e.prop name = .number (.double .nan)) ∧
        (¬ r.TakesDefault name → r.prop name = e.prop name)) ∧
    ∀ outcome, builtin.validateElement e = .ok outcome →
      ((∃ name ∈ schema.requiredProps, outcome = .invalid ("Missing required prop: " ++ name)) ↔
        ∃ name ∈ schema.requiredProps, (e.prop name).isPresent = .ok false) := by
  refine ⟨?_, fun outcome h => (hasSchema_builtin hschema htype).missing_iff h⟩
  obtain ⟨rule, hrule, hdefaults⟩ := exists_rule hschema
  obtain ⟨r, happlies⟩ := Rules.exists_applies (htype ▸ hrule) inherited
  refine ⟨rule, r, happlies, fun name hname => ?_⟩
  have hprop : e.prop name = r.own.value name := by
    rw [happlies.own]
    exact Element.prop_eq_value_props
      (requiredProps_notMem_fields (List.Subset.refl _) schema hschema name hname)
  refine ⟨hdefaults name hname, ?_, fun hown => ?_⟩
  · rw [Resolution.takesDefault_iff, ← hprop]
    exact Value.isPresent_eq_false_iff
  · rw [hprop]
    exact Resolution.prop_of_not_takesDefault hown

/-- A stat with an empty label and the value zero: the default stands for the label alone. -/
theorem missing_iff_takesDefault_stat :
    let stat : Element := .node ⟨"stat", none, [("value", .int 0), ("label", .string "")]⟩ []
    ∃ rule r, Rules.builtin.Applies none stat rule r ∧
      r.TakesDefault "label" ∧ ¬ r.TakesDefault "value" ∧ r.prop "value" = .int 0 := by
  intro stat
  obtain ⟨schema, hschema, htype, hlabel, hvalue⟩ : ∃ schema ∈ builtin,
      stat.type = schema.typeName ∧ "label" ∈ schema.requiredProps ∧
        "value" ∈ schema.requiredProps := by decide +kernel
  obtain ⟨rule, r, happlies, hprops⟩ := (missing_iff_takesDefault hschema htype none).1
  obtain ⟨-, hmissing, -⟩ := hprops "label" hlabel
  obtain ⟨-, hpresent, hown⟩ := hprops "value" hvalue
  have hkept : ¬ r.TakesDefault "value" := fun h => nomatch hpresent.mpr (.inl h)
  refine ⟨rule, r, happlies, ?_, hkept, hown hkept⟩
  rcases hmissing.mp rfl with h | h | h
  · exact h
  · cases h
  · cases h

/-- A text whose content is false lacks its content and is drawn with it. -/
theorem missing_false_supplied :
    let text : Element := .node ⟨"text", none, [("content", .bool false)]⟩ []
    (text.prop "content").isPresent = .ok false ∧
    builtin.validateElement text = .ok (.invalid "Missing required prop: content") ∧
    ∃ rule r, Rules.builtin.Applies none text rule r ∧
      rule.defaults.value "content" = .string "Text" ∧ r.prop "content" = .bool false ∧
      ¬ r.TakesDefault "content" := by
  intro text
  obtain ⟨r, happlies⟩ := Rules.exists_applies
    (show Rules.builtin.rule? text.type = some .textRule from rfl) none
  have hown : r.own.value "content" = .bool false := by rw [happlies.own]; rfl
  have hkept : ¬ r.TakesDefault "content" := by
    rw [Resolution.takesDefault_iff, hown]
    nofun
  exact ⟨rfl, rfl, _, r, happlies, rfl, (Resolution.prop_of_not_takesDefault hkept).trans hown,
    hkept⟩

end Registry

end Wireframe

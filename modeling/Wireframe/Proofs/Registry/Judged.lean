import Wireframe.Proofs.Json.Decoded
import Wireframe.Proofs.Registry.Verdict
import Wireframe.Registry.Table

/-! # What a validation answers

The words of a validation are determined by the type tag and, where the tag is registered, by the
first required prop that is not present. There is no answer in three cases: the tag is a list or an
object and cannot be looked up, it is an integer of too many digits and cannot be put into words, or
a required number is beyond the range of the doubles.
-/

namespace Wireframe

namespace Registry

variable {registry : Registry} {v : Value} {members : Members} {schema : ComponentSchema}
  {outcome : Validation}

def Unregistered (registry : Registry) (v : Value) : Prop :=
  ∀ schema ∈ registry, v.typeTag ≠ .string schema.typeName

/-- The answers of a validation, by what it finds. -/
inductive Judges (registry : Registry) : Value → Validation → Prop where
  | untyped {v : Value} (falsy : v.typeTag.truthy = false) :
      Judges registry v (.invalid "Component missing type")
  | unknown {v : Value} (truthy : v.typeTag.truthy = true) (key : v.typeTag.isKey = true)
      (writable : ∀ n, v.typeTag = .number n → n.IsWritable) (new : registry.Unregistered v) :
      Judges registry v (.invalid ("Unknown component type: " ++ v.typeTag.fullText))
  | missing {members : Members} {schema : ComponentSchema} {before after : List String}
      {name : String} (known : registry.HasSchema members schema)
      (order : schema.requiredProps = before ++ name :: after)
      (present : ∀ other ∈ before, (members.value other).isPresent = .ok true)
      (absent : (members.value name).isPresent = .ok false) :
      Judges registry (.object members) (.invalid ("Missing required prop: " ++ name))
  | valid {members : Members} {schema : ComponentSchema}
      (known : registry.HasSchema members schema)
      (present : ∀ name ∈ schema.requiredProps, (members.value name).isPresent = .ok true) :
      Judges registry (.object members) .valid

/-- What a validation has no answer to. -/
inductive Baffles (registry : Registry) : Value → Prop where
  | unkeyed {v : Value} (truthy : v.typeTag.truthy = true) (noKey : v.typeTag.isKey = false) :
      Baffles registry v
  | overlong {v : Value} {n : Number} (type : v.typeTag = .number n) (long : ¬ n.IsWritable) :
      Baffles registry v
  | beyond {members : Members} {schema : ComponentSchema}
      (known : registry.HasSchema members schema)
      (exceeds : members.Exceeds schema.requiredProps) :
      Baffles registry (.object members)

/-! ## Answers -/

/-- Only an object has a type. -/
theorem eq_object_of_truthy (h : v.typeTag.truthy = true) :
    ∃ members : Members, v = .object members := by
  cases v with
  | object members => exact ⟨members, rfl⟩
  | _ => nomatch h

theorem validate_object :
    registry.validate (.object members) = registry.verdict members >>= Validation.ofVerdict :=
  rfl

theorem HasSchema.validate (h : registry.HasSchema members schema) :
    registry.validate (.object members) =
      (missingProp? members schema.requiredProps).map fun missing =>
        missing.elim .valid fun name => .invalid ("Missing required prop: " ++ name) := by
  rw [validate_object, h.verdict]
  cases missingProp? members schema.requiredProps with
  | error cause => rfl
  | ok missing => cases missing <;> rfl

theorem ofVerdict_unknownType {type : Value} (h : ∀ n, type = .number n → n.IsWritable) :
    Validation.ofVerdict (.error (.unknownType type)) =
      .ok (.invalid ("Unknown component type: " ++ type.fullText)) := by
  cases type with
  | number n =>
      cases n with
      | int n =>
          have hwritable : Text.isWritable n = true := h _ rfl
          rw [Validation.ofVerdict, if_pos hwritable]
          rfl
      | double x => rfl
  | _ => rfl

theorem ofVerdict_overlong {n : Number} (h : ¬ n.IsWritable) :
    (Validation.ofVerdict (.error (.unknownType (.number n)))).isOk = false := by
  cases n with
  | int n =>
      have hlong : ¬ Text.isWritable n = true := h
      rw [Validation.ofVerdict, if_neg hlong]
      rfl
  | double x => exact absurd trivial h

theorem validate_of_judges (h : registry.Judges v outcome) : registry.validate v = .ok outcome := by
  cases h with
  | untyped falsy =>
      cases v with
      | object members => rw [validate_object, verdict_untyped falsy]; rfl
      | _ => rfl
  | unknown truthy key writable new =>
      obtain ⟨members, rfl⟩ := eq_object_of_truthy truthy
      rw [validate_object, verdict_unknown truthy (schemaOf?_eq_none_iff.mpr ⟨key, new⟩),
        Except.ok_bind]
      exact ofVerdict_unknownType writable
  | missing known order present absent =>
      have hmissing := missingProp?_eq_some_iff.mpr ⟨_, _, order, present, absent⟩
      rw [known.validate, hmissing]
      rfl
  | valid known present =>
      rw [known.validate, missingProp?_eq_none_iff.mpr present]
      rfl

theorem validate_of_baffles (h : registry.Baffles v) : (registry.validate v).isOk = false := by
  cases h with
  | unkeyed truthy noKey =>
      obtain ⟨members, rfl⟩ := eq_object_of_truthy truthy
      exact Except.isOk_bind_of_not (verdict_unkeyed truthy noKey)
  | @overlong _ n type long =>
      have htruthy : v.typeTag.truthy = true := by
        rw [type, Value.truthy, Bool.not_eq_true']
        exact Bool.eq_false_iff.mpr fun hzero => long (Number.isWritable_of_isZero hzero)
      obtain ⟨members, rfl⟩ := eq_object_of_truthy htruthy
      have htype : members.value "type" = .number n := type
      have hlookup : registry.schemaOf? (members.value "type") = .ok none := by
        rw [htype]
        rfl
      rw [validate_object, verdict_unknown htruthy hlookup, htype]
      exact ofVerdict_overlong long
  | beyond known exceeds =>
      rw [known.validate, Except.isOk_map]
      exact (missingProp?_isOk _ _).mpr exceeds

/-- What has a known type is judged by its props, unless one of them baffles. -/
theorem HasSchema.judges_or_baffles (known : registry.HasSchema members schema) :
    (∃ outcome, registry.Judges (.object members) outcome) ∨
      registry.Baffles (.object members) := by
  cases hmissing : missingProp? members schema.requiredProps with
  | error cause =>
      exact .inr (.beyond known ((missingProp?_isOk _ _).mp (by rw [hmissing]; rfl)))
  | ok missing =>
      cases missing with
      | none => exact .inl ⟨_, .valid known (missingProp?_eq_none_iff.mp hmissing)⟩
      | some name =>
          obtain ⟨before, after, order, present, absent⟩ := missingProp?_eq_some_iff.mp hmissing
          exact .inl ⟨_, .missing known order present absent⟩

theorem judges_or_baffles (registry : Registry) (v : Value) :
    (∃ outcome, registry.Judges v outcome) ∨ registry.Baffles v := by
  cases htruthy : v.typeTag.truthy with
  | false => exact .inl ⟨_, .untyped htruthy⟩
  | true =>
      obtain ⟨members, rfl⟩ := eq_object_of_truthy htruthy
      cases hlookup : registry.schemaOf? (members.value "type") with
      | error cause =>
          have hkey := registry.schemaOf?_isOk (members.value "type")
          rw [hlookup] at hkey
          exact .inr (.unkeyed htruthy hkey.symm)
      | ok found =>
          cases found with
          | some schema =>
              obtain ⟨name, htype, hschema⟩ := schemaOf?_eq_some_iff.mp hlookup
              refine HasSchema.judges_or_baffles ⟨name, ?_, htype, hschema⟩
              rintro rfl
              rw [show (Value.object members).typeTag = .string "" from htype] at htruthy
              nomatch htruthy
          | none =>
              obtain ⟨hkey, hnew⟩ := schemaOf?_eq_none_iff.mp hlookup
              by_cases hwritable : ∀ n, members.value "type" = .number n → n.IsWritable
              · exact .inl ⟨_, .unknown htruthy hkey hwritable hnew⟩
              · obtain ⟨n, hn⟩ := Classical.not_forall.mp hwritable
                obtain ⟨htype, hlong⟩ := Classical.not_imp.mp hn
                exact .inr (.overlong htype hlong)

theorem judges_of_validate (h : registry.validate v = .ok outcome) : registry.Judges v outcome := by
  rcases registry.judges_or_baffles v with ⟨other, hjudges⟩ | hbaffles
  · rw [validate_of_judges hjudges] at h
    cases h
    exact hjudges
  · have hfails := validate_of_baffles hbaffles
    rw [h] at hfails
    nomatch hfails

/-- A validation answers what is found, and nothing exactly where something baffles it. -/
theorem validate_judges (registry : Registry) (v : Value) :
    (∀ outcome, registry.validate v = .ok outcome ↔ registry.Judges v outcome) ∧
    ((∃ outcome, registry.validate v = .ok outcome) ↔ ¬ registry.Baffles v) := by
  refine ⟨fun outcome => ⟨judges_of_validate, validate_of_judges⟩, ?_⟩
  rw [← Except.isOk_iff_exists]
  constructor
  · intro hok hbaffles
    rw [validate_of_baffles hbaffles] at hok
    nomatch hok
  · intro hclear
    obtain ⟨outcome, hjudges⟩ := (registry.judges_or_baffles v).resolve_right hclear
    rw [validate_of_judges hjudges]
    rfl

/-- A list that stands for a type, an integer of 401 digits that stands for a text, and one of 4301
digits that stands for a type: there is no answer. -/
theorem validate_baffled :
    (¬ ∃ outcome, builtin.validate
      (.object [("type", .list [.string "text"])]) = .ok outcome) ∧
    (¬ ∃ outcome, builtin.validate
      (.object [("type", .string "text"), ("content", .int (Nat.pow 10 400))]) = .ok outcome) ∧
    ¬ ∃ outcome, builtin.validate (.object [("type", .int (Nat.pow 10 4300))]) = .ok outcome := by
  simp only [← Except.isOk_iff_exists]
  decide +kernel

end Registry

end Wireframe

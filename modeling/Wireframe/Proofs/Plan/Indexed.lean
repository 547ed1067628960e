import Mathlib.Data.Rat.Floor
import Wireframe.Proofs.Double.Exact
import Wireframe.Proofs.Plan.Resolvable

/-! # Indices

The index that a value of a document stands for, said on its own: a whole number itself, the whole
part of a fraction, 0 and 1 for the booleans, the integer that a string holds, and 0 for everything
else. An infinity stands for none. An element that gives no index, or null or an empty string for
it, has the index 0, which is also the one that rules take by default.
-/

namespace Wireframe

namespace Double

/-- The whole part of a magnitude, as it is found by dropping binary digits. -/
theorem floor_magnitude (mantissa : Nat) (exponent : Int) :
    ((if 0 ≤ exponent then mantissa * Nat.pow 2 exponent.toNat
      else mantissa / Nat.pow 2 (-exponent).toNat : Nat) : Int) =
        ⌊(mantissa : Rat) * twoPow exponent⌋ := by
  unfold twoPow
  split
  · rw [← Nat.cast_mul, Int.floor_natCast]
  · rw [Rat.mkRat_eq_div, Int.cast_one, one_div, ← div_eq_mul_inv]
    exact (Rat.floor_intCast_div_natCast mantissa _).symm

/-- The integer part of a finite number: its fraction is dropped, toward zero. -/
theorem truncate?_of_toRat? {x : Double} {q : Rat} (h : x.toRat? = some q) :
    x.truncate? = some (if 0 ≤ q then ⌊q⌋ else ⌈q⌉) := by
  cases x with
  | infinite _ => cases h
  | nan => cases h
  | finite negative mantissa exponent stored =>
      have hnonneg : 0 ≤ (mantissa : Rat) * twoPow exponent := by
        rw [twoPow_eq_zpow]
        positivity
      rw [toRat?, Option.some_inj] at h
      rw [truncate?, floor_magnitude, Option.some_inj, ← h]
      cases negative with
      | false => simp [hnonneg]
      | true =>
          simp only [if_true, Int.ceil_neg]
          split
          · next hzero =>
            have : (mantissa : Rat) * twoPow exponent = 0 := by linarith
            simp [this]
          · rfl

end Double

inductive Value.StandsForIndex : Value → Int → Prop where
  | whole (n : Int) : StandsForIndex (.number (.int n)) n
  | above {x : Double} {q : Rat} (value : x.toRat? = some q) (sign : 0 ≤ q) :
      StandsForIndex (.number (.double x)) ⌊q⌋
  | below {x : Double} {q : Rat} (value : x.toRat? = some q) (sign : q < 0) :
      StandsForIndex (.number (.double x)) ⌈q⌉
  | bool (b : Bool) : StandsForIndex (.bool b) (if b then 1 else 0)
  | text {s : String} {n : Int} (reads : Text.readIndex? s = some n) :
      StandsForIndex (.string s) n
  | unreadable {s : String} (fails : Text.readIndex? s = none) : StandsForIndex (.string s) 0
  | null : StandsForIndex .null 0
  | nan : StandsForIndex (.number (.double .nan)) 0
  | list (items : List Value) : StandsForIndex (.list items) 0
  | object (members : List (String × Value)) : StandsForIndex (.object members) 0

namespace Value

theorem index_double {x : Double} {q : Rat} (h : x.toRat? = some q) :
    (number (.double x)).index = .ok (if 0 ≤ q then ⌊q⌋ else ⌈q⌉) := by
  cases x with
  | infinite _ => cases h
  | nan => cases h
  | finite negative mantissa exponent stored =>
      rw [index, Double.truncate?_of_toRat? h, Option.getD_some]
      exact nofun

theorem index_ok_iff {v : Value} {k : Int} : v.index = .ok k ↔ v.StandsForIndex k := by
  constructor
  · intro h
    match v with
    | .number (.double x) =>
        cases hvalue : x.toRat? with
        | some q =>
            rw [index_double hvalue, Except.ok.injEq] at h
            rw [← h]
            split
            · next sign => exact .above hvalue sign
            · next sign => exact .below hvalue (not_le.mp sign)
        | none =>
            cases x with
            | finite _ _ _ _ => cases hvalue
            | infinite _ => cases h
            | nan =>
                cases h
                exact .nan
    | .string s =>
        cases hread : Text.readIndex? s with
        | none =>
            rw [index, hread] at h
            cases h
            exact .unreadable hread
        | some n =>
            rw [index, hread] at h
            cases h
            exact .text hread
    | .number (.int n) => cases h; exact .whole _
    | .bool b => cases h; exact .bool b
    | .null => cases h; exact .null
    | .list items => cases h; exact .list items
    | .object members => cases h; exact .object members
  · intro h
    cases h with
    | above value sign => rw [index_double value, if_pos sign]
    | below value sign => rw [index_double value, if_neg (not_le.mpr sign)]
    | text reads => rw [index, reads, Option.getD_some]
    | unreadable fails => rw [index, fails, Option.getD_none]
    | _ => rfl

end Value

/-- The effective index of an element is that of its own value, if that gives one. -/
theorem Resolution.index_prop {r : Resolution} {name : String}
    (h : (r.defaults.value name).index = .ok 0) :
    (r.prop name).index = (r.own.value name).index :=
  prop_congr (f := Value.index) h rfl rfl

theorem Resolution.texts_prop {r : Resolution} {name : String} {usual : List String}
    (h : (r.defaults.value name).texts usual = .ok usual) :
    (r.prop name).texts usual = (r.own.value name).texts usual :=
  prop_congr (f := (Value.texts · usual)) h rfl rfl

end Wireframe

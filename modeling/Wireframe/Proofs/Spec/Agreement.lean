import Wireframe.Proofs.Spec.Reading

/-! # Documents that read alike

Two documents that differ in some value are read side by side. `Checked.Agree` relates what comes of
two reads: both give results, which are related, or both fail with the same list of faults. It goes
through everything that readers are built from, so that only the field that differs has to be looked
at.
-/

namespace Wireframe

/-- Both checks give results, which are related, or both list the same faults. -/
inductive Checked.Agree {α β : Type} (R : α → β → Prop) : Checked α → Checked β → Prop where
  | ok {a : α} {b : β} (related : R a b) : Agree R (.ok a) (.ok b)
  | error (faults : List Fault) : Agree R (.error faults) (.error faults)

namespace Checked

variable {α β γ α' β' γ' : Type} {R : α → α' → Prop} {S : β → β' → Prop} {T : γ → γ' → Prop}

theorem Agree.of_eq {x y : Checked α} (h : x = y) : Agree Eq x y := by
  subst h
  cases x with
  | ok a => exact .ok rfl
  | error faults => exact .error faults

theorem Agree.under {x : Checked α} {x' : Checked α'} (h : Agree R x x') (step : Step) :
    Agree R (x.under step) (x'.under step) := by
  cases h with
  | ok related => exact .ok related
  | error faults => exact .error _

theorem Agree.both {x : Checked α} {x' : Checked α'} {y : Checked β} {y' : Checked β'}
    {f : α → β → γ} {g : α' → β' → γ'} (hx : Agree R x x') (hy : Agree S y y')
    (h : ∀ a a' b b', R a a' → S b b' → T (f a b) (g a' b')) :
    Agree T (Checked.both f x y) (Checked.both g x' y') := by
  cases hx with
  | ok hab =>
      cases hy with
      | ok hcd => exact .ok (h _ _ _ _ hab hcd)
      | error faults => exact .error _
  | error faults =>
      cases hy with
      | ok hcd => exact .error _
      | error more => exact .error _

theorem Agree.ap {f : Checked (α → β)} {g : Checked (α' → β')} {x : Checked α} {x' : Checked α'}
    (hf : Agree (fun f g => ∀ a a', R a a' → S (f a) (g a')) f g) (hx : Agree R x x') :
    Agree S (Checked.ap f x) (Checked.ap g x') :=
  hf.both hx fun _ _ _ _ hfg hab => hfg _ _ hab

/-- Items that agree one by one are read into related lists. -/
theorem Agree.each {check : α → Checked β} {check' : α' → Checked β'} {as : List α}
    {as' : List α'} (h : List.Forall₂ (fun a a' => Agree S (check a) (check' a')) as as')
    (start : Nat) :
    Agree (List.Forall₂ S) (Checked.each check start as) (Checked.each check' start as') := by
  induction h generalizing start with
  | nil => exact .ok .nil
  | cons hhead _ ih =>
      apply (hhead.under (.index start)).both (ih (start + 1))
      intro b b' bs bs' hb hbs
      exact .cons hb hbs

end Checked

/-! ## A value that is replaced -/

namespace Value

def mapItems (f : Value → Value) : Value → Value
  | .list items => .list (items.map f)
  | v => v

theorem asListOf_mapItems {α β : Type} {R : α → β → Prop} {read : Value → Checked α}
    {read' : Value → Checked β} {f : Value → Value}
    (h : ∀ v, Checked.Agree R (read v) (read' (f v))) (v : Value) :
    Checked.Agree (List.Forall₂ R) (v.asListOf read) ((v.mapItems f).asListOf read') := by
  cases v with
  | list items =>
      apply Checked.Agree.each
      rw [List.forall₂_map_right_iff, List.forall₂_same]
      intro v _
      exact h v
  | null => exact .ok .nil
  | _ => exact .error _

end Value

namespace Members

def mapAt (members : Members) (key : String) (f : Value → Value) : Members :=
  members.map fun entry => (entry.1, if entry.1 = key then f entry.2 else entry.2)

variable {members : Members} {key other : String} {f : Value → Value}

section Fields

variable {α : Type} {read : Value → Checked α} {default : α} {members' : Members}

theorem field_congr (h : members'.value? key = members.value? key) :
    members'.field key default read = members.field key default read := by
  rw [field, field, h]

theorem fieldNamed_congr (h : members'.value? key = members.value? key)
    (hother : members'.value? other = members.value? other) :
    members'.fieldNamed key other default read = members.fieldNamed key other default read := by
  rw [fieldNamed, fieldNamed, has, has, h, field_congr h, field_congr hother]

end Fields

theorem value?_mapAt (members : Members) (key : String) (f : Value → Value) :
    (members.mapAt key f).value? key = (members.value? key).map f := by
  induction members with
  | nil => rfl
  | cons entry rest ih =>
      obtain ⟨k, v⟩ := entry
      rw [mapAt, List.map_cons, ← mapAt, value?_cons, value?_cons, ih]
      split <;> rfl

theorem value?_mapAt_of_ne (h : other ≠ key) :
    (members.mapAt key f).value? other = members.value? other := by
  induction members with
  | nil => rfl
  | cons entry rest ih =>
      obtain ⟨k, v⟩ := entry
      rw [mapAt, List.map_cons, ← mapAt, value?_cons, value?_cons, ih]
      by_cases hk : k = other
      · have hne : k ≠ key := fun heq => h (hk.symm.trans heq)
        rw [if_pos hk, if_pos hk, if_neg hne]
      · rw [if_neg hk, if_neg hk]

theorem value_mapAt (hnull : f .null = .null) :
    (members.mapAt key f).value key = f (members.value key) := by
  rw [value, value, value?_mapAt]
  cases members.value? key with
  | none => exact hnull.symm
  | some v => rfl

theorem value_mapAt_of_ne (h : other ≠ key) :
    (members.mapAt key f).value other = members.value other := by
  rw [value, value, value?_mapAt_of_ne h]

variable {α β : Type} {R : α → β → Prop} {read : Value → Checked α} {read' : Value → Checked β}
  {default : α} {default' : β}

/-- A field whose value is replaced by one that reads alike. -/
theorem field_mapAt (hdefault : R default default')
    (h : ∀ v, Checked.Agree R (read v) (read' (f v))) :
    Checked.Agree R (members.field key default read)
      ((members.mapAt key f).field key default' read') := by
  rw [field, field, value?_mapAt]
  cases members.value? key with
  | none => exact .ok hdefault
  | some v => exact (h v).under (.key key)

theorem field_mapAt_of_ne (h : other ≠ key) :
    Checked.Agree Eq (members.field other default read)
      ((members.mapAt key f).field other default read) :=
  .of_eq (field_congr (value?_mapAt_of_ne h)).symm

theorem fieldNamed_mapAt_of_ne {second : String} (h : other ≠ key) (hsecond : second ≠ key) :
    Checked.Agree Eq (members.fieldNamed other second default read)
      ((members.mapAt key f).fieldNamed other second default read) :=
  .of_eq (fieldNamed_congr (value?_mapAt_of_ne h) (value?_mapAt_of_ne hsecond)).symm

end Members

end Wireframe

/-! # Steps that may fail

What a computation built from steps has to have done to succeed: every step succeeded, each on what
the one before it gave.
-/

namespace Except

variable {ε α β : Type}

theorem bind_ok_iff {x : Except ε α} {f : α → Except ε β} {b : β} :
    x >>= f = .ok b ↔ ∃ a, x = .ok a ∧ f a = .ok b := by
  cases x <;> simp [bind, Except.bind]

theorem ok_bind (a : α) (f : α → Except ε β) : (ok a >>= f) = f a := rfl

@[simp] theorem pure_ok_iff {a b : α} : (pure a : Except ε α) = .ok b ↔ a = b := by
  simp [pure, Except.pure]

theorem map_ok_iff {x : Except ε α} {f : α → β} {b : β} :
    x.map f = .ok b ↔ ∃ a, x = .ok a ∧ f a = b := by
  cases x <;> simp [Except.map]

theorem mapError_ok_iff {ε' : Type} {x : Except ε α} {f : ε → ε'} {a : α} :
    x.mapError f = .ok a ↔ x = .ok a := by
  cases x with
  | error e => exact iff_of_false nofun nofun
  | ok b =>
      show (ok b : Except ε' α) = ok a ↔ _
      rw [Except.ok.injEq, Except.ok.injEq]

theorem isOk_iff_exists {x : Except ε α} : x.isOk = true ↔ ∃ a, x = .ok a := by
  cases x with
  | error e => exact iff_of_false nofun nofun
  | ok a => exact iff_of_true rfl ⟨a, rfl⟩

@[simp] theorem isOk_ok (a : α) : (ok a : Except ε α).isOk = true := rfl

@[simp] theorem isOk_error (e : ε) : (error e : Except ε α).isOk = false := rfl

@[simp] theorem isOk_pure (a : α) : (pure a : Except ε α).isOk = true := rfl

@[simp] theorem isOk_map (f : α → β) (x : Except ε α) : (x.map f).isOk = x.isOk := by
  cases x <;> rfl

@[simp] theorem isOk_mapError {ε' : Type} (f : ε → ε') (x : Except ε α) :
    (x.mapError f).isOk = x.isOk := by
  cases x <;> rfl

/-- Two steps, of which the second succeeds or fails whatever the first one gave. -/
theorem isOk_bind {x : Except ε α} {f : α → Except ε β} {b : Bool} (h : ∀ a, (f a).isOk = b) :
    (x >>= f).isOk = (x.isOk && b) := by
  cases x with
  | error e => rfl
  | ok a => exact h a

theorem isOk_bind_total {x : Except ε α} {f : α → Except ε β} (h : ∀ a, (f a).isOk = true) :
    (x >>= f).isOk = x.isOk := by
  rw [isOk_bind h, Bool.and_true]

/-- After a step that fails nothing succeeds. -/
theorem isOk_bind_of_not {x : Except ε α} {f : α → Except ε β} (h : x.isOk = false) :
    (x >>= f).isOk = false := by
  cases x with
  | error e => rfl
  | ok a => nomatch h

/-- The same step over a list succeeds when it does so on every item. -/
theorem isOk_mapM (f : α → Except ε β) (l : List α) :
    (l.mapM f).isOk = l.all fun a => (f a).isOk := by
  induction l with
  | nil => rfl
  | cons a l ih =>
      rw [List.mapM_cons, List.all_cons, ← ih]
      exact isOk_bind fun _ => isOk_bind_total fun _ => rfl

/-! ## Causes of failure -/

def error? : Except ε α → Option ε
  | .ok _ => none
  | .error e => some e

theorem error?_eq_some_iff {x : Except ε α} {e : ε} : x.error? = some e ↔ x = .error e := by
  cases x <;> simp [error?]

theorem error?_eq_none_iff {x : Except ε α} : x.error? = none ↔ x.isOk = true := by
  cases x <;> simp [error?]

@[simp] theorem error?_map (f : α → β) (x : Except ε α) : (x.map f).error? = x.error? := by
  cases x <;> rfl

/-- The first of two steps that fails gives the cause. -/
theorem error?_bind {x : Except ε α} {f : α → Except ε β} {cause : Option ε}
    (h : ∀ a, (f a).error? = cause) : (x >>= f).error? = x.error?.or cause := by
  cases x with
  | error e => rfl
  | ok a => exact h a

theorem error?_bind_total {x : Except ε α} {f : α → Except ε β} (h : ∀ a, (f a).isOk = true) :
    (x >>= f).error? = x.error? := by
  rw [error?_bind fun a => error?_eq_none_iff.mpr (h a), Option.or_none]

end Except

import Wireframe.Log.Context

/-! # Contexts after a block

A block that is left unbinds the names that it has bound, and restores nothing. So a stretch of a
program gives back the variables that it found exactly when none of the blocks that it opens binds
one of their names; whatever it does bind over is gone, whether it succeeds or fails (`run_eq`).
-/

namespace Wireframe

namespace Members

theorem has_iff {members : Members} {key : String} :
    members.has key = true ↔ key ∈ members.map Prod.fst := by
  unfold has
  induction members with
  | nil => simp
  | cons entry rest ih =>
      rw [value?_cons, List.map_cons, List.mem_cons, ← ih]
      by_cases h : entry.1 = key
      · simp [h]
      · simp [h, Ne.symm h]

end Members

namespace LogContext

variable {added : Members}

theorem filter_put {keeps : String → Bool} {key : String} (hkey : keeps key = false)
    (bound : Members) (value : Value) :
    (bound.put key value).filter (fun entry => keeps entry.1) =
      bound.filter fun entry => keeps entry.1 := by
  induction bound with
  | nil => rw [Members.put, List.filter_cons_of_neg (by simp [hkey])]
  | cons entry rest ih =>
      obtain ⟨k, v⟩ := entry
      unfold Members.put
      split
      · next hk =>
        obtain rfl := eq_of_beq hk
        rw [List.filter_cons_of_neg (by simp [hkey]), List.filter_cons_of_neg (by simp [hkey])]
      · rw [List.filter_cons, List.filter_cons, ih]

theorem filter_bind (keeps : String → Bool) (hadded : ∀ entry ∈ added, keeps entry.1 = false)
    (bound : Members) :
    (bind bound added).filter (fun entry => keeps entry.1) =
      bound.filter fun entry => keeps entry.1 := by
  unfold bind
  induction added generalizing bound with
  | nil => rfl
  | cons entry rest ih =>
      rw [List.forall_mem_cons] at hadded
      rw [List.foldl_cons, ih hadded.2, filter_put hadded.1]

end LogContext

namespace LogScope

/-- What is left of variables once names are unbound. -/
def without (bound : Members) (names : List String) : Members :=
  bound.filter fun entry => decide (entry.1 ∉ names)

theorem without_nil (bound : Members) : without bound [] = bound :=
  List.filter_eq_self.mpr fun _ _ => decide_eq_true List.not_mem_nil

theorem without_without (bound : Members) (names names' : List String) :
    without (without bound names) names' = without bound (names ++ names') := by
  unfold without
  rw [List.filter_filter]
  congr 1
  funext entry
  simp [Bool.and_comm]

theorem unbind_eq (bound dropped : Members) :
    LogContext.unbind bound dropped = without bound (dropped.map Prod.fst) := by
  unfold LogContext.unbind without
  congr 1
  funext entry
  rw [Bool.eq_iff_iff, Bool.not_eq_true', ← Bool.not_eq_true, Members.has_iff, decide_eq_true_iff]

/-- A block that is left has unbound its names, whatever they were bound to before it. -/
theorem without_bind (bound added : Members) (names : List String) :
    without (LogContext.bind bound added) (names ++ added.map Prod.fst) =
      without bound (names ++ added.map Prod.fst) := by
  refine LogContext.filter_bind (fun name => decide (name ∉ _)) (fun entry hentry => ?_) _
  exact decide_eq_false (not_not_intro (List.mem_append_right _ (List.mem_map_of_mem hentry)))

/-- A stretch succeeds or fails whatever is bound, and leaves what is bound to other names than those
of its blocks. -/
theorem run_eq (scope : LogScope) (context : LogContext) :
    scope.run context =
      (scope.succeeds, ⟨without context.bound scope.bindings, context.opened⟩) := by
  induction scope generalizing context with
  | success => rw [run, bindings, without_nil]; rfl
  | failure => rw [run, bindings, without_nil]; rfl
  | block added body ih =>
      rw [run, bindings, succeeds, LogContext.enterNamed]
      cases added.has LogContext.reservedName with
      | true =>
          rw [if_pos rfl, if_pos rfl, without_nil]
          rfl
      | false =>
          rw [if_neg Bool.false_ne_true, if_neg Bool.false_ne_true, Bool.not_false, Bool.true_and]
          dsimp only
          rw [ih]
          dsimp only [LogContext.leave, LogContext.enter]
          rw [unbind_eq, without_without, without_bind]
  | andThen first second hfirst hsecond =>
      rw [run, bindings, succeeds, hfirst]
      cases first.succeeds with
      | true =>
          rw [if_pos rfl, ← without_without, Bool.true_and]
          exact hsecond _
      | false => rw [if_neg Bool.false_ne_true, List.append_nil, Bool.false_and]
  | rescue body handler hbody hhandler =>
      rw [run, bindings, succeeds, hbody]
      cases body.succeeds with
      | true => rw [if_pos rfl, List.append_nil, Bool.true_or]
      | false =>
          rw [if_neg Bool.false_ne_true, ← without_without, Bool.false_or]
          exact hhandler _

theorem value?_without (bound : Members) (names : List String) (name : String) :
    (without bound names).value? name = if name ∈ names then none else bound.value? name := by
  rw [without, Members.value?_filter fun name => decide (name ∉ names)]
  simp

/-- Once a stretch of a program is over, a block in particular, the names of all blocks that it has
opened are unbound and all other names are bound as before. So it restores what was bound exactly
when none of those names was. -/
theorem run_restores_iff (scope : LogScope) (context : LogContext) :
    (scope.run context).2.opened = context.opened ∧
      (∀ name, (scope.run context).2.bound.value? name =
        if name ∈ scope.bindings then none else context.bound.value? name) ∧
      ((∀ name, (scope.run context).2.bound.value? name = context.bound.value? name) ↔
        ∀ name ∈ scope.bindings, context.bound.value? name = none) := by
  have hvalue (name : String) : (scope.run context).2.bound.value? name =
      if name ∈ scope.bindings then none else context.bound.value? name := by
    rw [run_eq, value?_without]
  refine ⟨by rw [run_eq], hvalue, ?_⟩
  simp only [hvalue]
  constructor
  · intro h name hname
    rw [← h name, if_pos hname]
  · intro h name
    split
    · next hname => exact (h name hname).symm
    · rfl

/-- A block inside a block of the same name: what the outer one has bound is gone once the inner one
is left, and so is what was bound before. -/
theorem run_shadowing_unbinds :
    let outer : LogContext := LogContext.enter {} [("app", .string "host")]
    let inner : LogScope := .block [("app", .string "Shop")] .success
    outer.bound.value? "app" = some (.string "host") ∧
      (inner.run outer).2.bound.value? "app" = none := by
  intro outer inner
  exact ⟨rfl, rfl⟩

end LogScope

end Wireframe

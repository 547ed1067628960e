import Wireframe.Value.Basic

/-! # Log contexts

A context binds variables to every log line in its scope. Entering sets its variables over those
that are bound; leaving unbinds its names and restores nothing.
-/

namespace Wireframe

inductive LogContextError where
  /-- A variable has the name that stands for the context itself. -/
  | reservedName
  deriving DecidableEq

/-- The bound variables and the contexts that are open, the innermost first. -/
structure LogContext where
  bound : Members := []
  opened : List Members := []

namespace LogContext

def bind (bound added : Members) : Members :=
  added.foldl (fun bound entry => bound.put entry.1 entry.2) bound

def unbind (bound dropped : Members) : Members :=
  bound.filter fun entry => !dropped.has entry.1

def reservedName : String := "self"

def enter (context : LogContext) (added : Members) : LogContext :=
  ⟨bind context.bound added, added :: context.opened⟩

def enterNamed (context : LogContext) (added : Members) : Except LogContextError LogContext :=
  if added.has reservedName then .error .reservedName else .ok (context.enter added)

def leave (context : LogContext) : LogContext :=
  match context.opened with
  | [] => context
  | dropped :: opened => ⟨unbind context.bound dropped, opened⟩

end LogContext

/-! ## Scopes

What a program does to the log context while it runs: it opens blocks, does things inside them that
succeed or fail, and leaves every block that it has opened, the innermost first, also when it fails
on the way. Something that failed is not gone on with, unless it is rescued. -/

/-- A stretch of a program, as far as log contexts and failures go. -/
inductive LogScope where
  | success
  | failure
  | block (added : Members) (body : LogScope)
  | andThen (first second : LogScope)
  | rescue (body handler : LogScope)

namespace LogScope

/-- Runs a stretch in a context: whether it succeeds, and the context that it leaves behind. -/
def run : LogScope → LogContext → Bool × LogContext
  | success, context => (true, context)
  | failure, context => (false, context)
  | block added body, context =>
      match context.enterNamed added with
      | .error _ => (false, context)
      | .ok inner =>
          let (succeeds, after) := body.run inner
          (succeeds, after.leave)
  | andThen first second, context =>
      match first.run context with
      | (true, after) => second.run after
      | (false, after) => (false, after)
  | rescue body handler, context =>
      match body.run context with
      | (true, after) => (true, after)
      | (false, after) => handler.run after

def succeeds : LogScope → Bool
  | success => true
  | failure => false
  | block added body => !added.has LogContext.reservedName && body.succeeds
  | andThen first second => first.succeeds && second.succeeds
  | rescue body handler => body.succeeds || handler.succeeds

/-- The names of the variables of all blocks that are opened while a stretch runs, in the order in
which they are left. -/
def bindings : LogScope → List String
  | success => []
  | failure => []
  | block added body =>
      if added.has LogContext.reservedName then [] else body.bindings ++ added.map Prod.fst
  | andThen first second => first.bindings ++ if first.succeeds then second.bindings else []
  | rescue body handler => body.bindings ++ if body.succeeds then [] else handler.bindings

end LogScope

end Wireframe

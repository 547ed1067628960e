import Wireframe.Scene.Basic

/-! # Acquiring fonts

A host makes fonts usable one request at a time. Any number of calls may ask a session for its
fonts at once; a lock lets one of them through, which requests the weights in order, and the session
is loaded once a call has got them all. A call moves only when it is scheduled, and stops at the
lock and before every request, so that a schedule is any sequence of calls.
-/

namespace Wireframe

inductive FontError where
  | notAvailable (font : FontName)
  | failed (font : FontName) (cause : String)
  deriving DecidableEq

def FontError.message : FontError → String
  | notAvailable font => s!"Font not available: {font.family} {font.style}"
  | failed font cause => s!"Failed to load {font.family} {font.style}: " ++ cause

/-- A host that answers requests for fonts out of a state `σ`. -/
structure FontHost (σ : Type) where
  request : σ → FontName → Except FontError Unit × σ

/-- A provider of fonts in memory: those that are available (all where none are listed), an outage
that begins once a number of fonts is loaded, and the fonts loaded so far. -/
structure FontProvider where
  available : Option (List FontName) := none
  outage : Option (String × Int) := none
  loaded : List FontName := []

namespace FontProvider

/-- The text of the outage, once it has begun. -/
def outage? (provider : FontProvider) : Option String :=
  match provider.outage with
  | some (cause, after) => if after ≤ provider.loaded.length then some cause else none
  | none => none

def offers (provider : FontProvider) (font : FontName) : Bool :=
  match provider.available with
  | some fonts => fonts.contains font
  | none => true

def request (provider : FontProvider) (font : FontName) : Except FontError Unit × FontProvider :=
  match provider.outage? with
  | some cause => (.error (.failed font cause), provider)
  | none =>
      if provider.offers font then
        (.ok (), { provider with loaded := provider.loaded ++ [font] })
      else (.error (.notAvailable font), provider)

/-- Other behaviour, the same loaded fonts. -/
def replacedBy (provider other : FontProvider) : FontProvider :=
  { other with loaded := provider.loaded }

def host : FontHost FontProvider := ⟨request⟩

end FontProvider

inductive FontCall where
  | waiting
  /-- It holds the lock and still has to request these fonts. -/
  | requesting (fonts : List FontName)
  | finished
  | failed (cause : FontError)
  deriving DecidableEq

/-- One request to the host: the call that made it, the font, and whether it was granted. -/
structure FontRequest where
  call : Nat
  font : FontName
  granted : Bool
  deriving DecidableEq

structure FontSession (σ : Type) where
  host : σ
  isLoaded : Bool
  holder : Option Nat
  calls : List FontCall
  /-- The requests so far, the first one first. -/
  requests : List FontRequest

namespace FontSession

variable {σ : Type}

def begin (host : σ) (isLoaded : Bool) (calls : Nat) : FontSession σ :=
  ⟨host, isLoaded, none, List.replicate calls .waiting, []⟩

def setCall (session : FontSession σ) (call : Nat) (state : FontCall) : FontSession σ :=
  { session with calls := session.calls.set call state }

/-- A call that holds the lock goes on: it requests its next font, or finishes. -/
def advance (host : FontHost σ) (session : FontSession σ) (call : Nat) :
    List FontName → FontSession σ
  | [] => { session.setCall call .finished with isLoaded := true, holder := none }
  | font :: fonts =>
      let (answer, state) := host.request session.host font
      let session : FontSession σ :=
        { session with
          host := state
          requests := session.requests ++ [⟨call, font, answer.isOk⟩] }
      match answer with
      | .error cause => { session.setCall call (.failed cause) with holder := none }
      | .ok () =>
          if fonts.isEmpty then
            { session.setCall call .finished with isLoaded := true, holder := none }
          else session.setCall call (.requesting fonts)

def step (host : FontHost σ) (fonts : List FontName) (session : FontSession σ) (call : Nat) :
    FontSession σ :=
  match session.calls[call]? with
  | some .waiting =>
      if session.holder.isSome then session
      else if session.isLoaded then session.setCall call .finished
      else { session.setCall call (.requesting fonts) with holder := some call }
  | some (.requesting remaining) => session.advance host call remaining
  | _ => session

def run (host : FontHost σ) (fonts : List FontName) (session : FontSession σ)
    (schedule : List Nat) : FontSession σ :=
  schedule.foldl (step host fonts) session

/-- The schedule that lets the calls through the lock in order. -/
def inOrder (fonts : List FontName) (calls : Nat) : List Nat :=
  (List.range calls).flatMap fun call => List.replicate (fonts.length + 2) call

def outcome? : FontCall → Option FontError
  | .failed cause => some cause
  | _ => none

/-- The session after a number of calls made at once, with what became of each. -/
def load (host : FontHost σ) (fonts : List FontName) (state : σ) (isLoaded : Bool)
    (calls : Nat) : FontSession σ :=
  run host fonts (begin state isLoaded calls) (inOrder fonts calls)

def outcomes (session : FontSession σ) : List (Option FontError) := session.calls.map outcome?

end FontSession

def familyFonts (family : String) : List FontName :=
  Token.fontWeights.map fun weight => ⟨family, weight⟩

end Wireframe

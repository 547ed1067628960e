import Wireframe.Plan.Resolve
import Wireframe.Scene.Draw
import Wireframe.Scene.Font

/-! # Scene documents

A spec becomes a document of device frames, one per screen. The fonts are acquired first; nothing
is returned when that fails.
-/

namespace Wireframe

structure SceneDocument where
  appName : String
  frames : List Scene

def SceneDocument.notice (document : SceneDocument) : String :=
  let name := if document.appName = "" then "your app" else document.appName
  s!"Created {document.frames.length} screens for {name}"

inductive DocumentError where
  | font (cause : FontError)
  | resolve (cause : ResolveError)
  | scene (cause : SceneError)

/-- What the frames of a session depend on. -/
structure Device where
  width : Double
  height : Double
  fontFamily : String

namespace Device

/-- The empty frame of the screen at an index: the device's size, the screen's name and place. -/
def frame (device : Device) (index : Nat) (screen : Screen Number) (children : List Scene) :
    Except SceneError Scene := do
  let place : Point Number := screen.position.getD ⟨.int (index * 450), 0⟩
  return .frame {
      name := .string (if screen.name = "" then s!"Screen {index + 1}" else screen.name)
      fills := [← Scene.solid "background" 1]
      x := place.x
      y := place.y
      width := .double device.width
      height := .double device.height
      sizingHorizontal := .fixed
      sizingVertical := .fixed }
    { direction := some .vertical
      primaryAlign := .min
      counterAlign := .center
      paddingTop := 60
      paddingBottom := 100
      paddingLeft := 20
      paddingRight := 20
      itemSpacing := 12
      cornerRadius := 44
      clipsContent := true }
    children

def pen (device : Device) (fontsLoaded : Bool) : Scene.Pen := ⟨device.fontFamily, fontsLoaded⟩

def drawScreen (device : Device) (rules : Rules) (index : Nat) (screen : Screen Number) :
    Except DocumentError Scene := do
  let plans ← (rules.resolveScreen screen).mapError .resolve
  let nodes ← ((Scene.target (device.pen true)).materializeAll plans).mapError .scene
  (device.frame index screen nodes).mapError .scene

def drawScreens (device : Device) (rules : Rules) (index : Nat) :
    List (Screen Number) → Except DocumentError (List Scene)
  | [] => .ok []
  | screen :: screens => do
      let frame ← device.drawScreen rules index screen
      let frames ← drawScreens device rules (index + 1) screens
      return frame :: frames

def draw (device : Device) (rules : Rules) (spec : Spec Number) :
    Except DocumentError SceneDocument :=
  (device.drawScreens rules 0 spec.screens).map (⟨spec.appName, ·⟩)

def build {σ : Type} (device : Device) (rules : Rules) (host : FontHost σ) (state : σ)
    (spec : Spec Number) : Except DocumentError SceneDocument :=
  let fonts := familyFonts device.fontFamily
  match (FontSession.load host fonts state false 1).outcomes with
  | some cause :: _ => .error (.font cause)
  | _ => device.draw rules spec

end Device

/-- A scene session at rest: its fonts and their host. -/
structure SceneSession where
  provider : FontProvider := {}
  fontsLoaded : Bool := false

namespace SceneSession

/-- Makes a number of calls for the fonts at once. -/
def loadFonts (session : SceneSession) (device : Device) (calls : Nat) :
    List (Option FontError) × SceneSession :=
  let after := FontSession.load FontProvider.host (familyFonts device.fontFamily)
    session.provider session.fontsLoaded calls
  (after.outcomes, ⟨after.host, after.isLoaded⟩)

def materialize (session : SceneSession) (device : Device) (plan : Plan) :
    Except SceneError Scene :=
  (Scene.target (device.pen session.fontsLoaded)).materialize plan

def build (session : SceneSession) (device : Device) (rules : Rules) (spec : Spec Number) :
    Except DocumentError SceneDocument × SceneSession :=
  match session.loadFonts device 1 with
  | (some cause :: _, after) => (.error (.font cause), after)
  | (_, after) => (device.draw rules spec, after)

end SceneSession

end Wireframe

import Wireframe.Text.Case
import Wireframe.Value.Coerce

/-! # Settings

The knobs of the renderer, each with a default and a bound. `Settings.read` takes named values and
lists what is wrong with them in the order of the fields.

Environment variables named `MOCKUP_` and a setting's name, in any capitalisation, give values to
settings; values that are passed directly win over them. The settings of the environment alone are
kept once they have been read, until the cache is cleared.
-/

namespace Wireframe

structure Settings where
  logLevel : String := "INFO"
  jsonLogs : Bool := false
  screenWidth : Double := 280
  screenHeight : Double := 600
  cornerRadius : Double := 12
  labelCharWidth : Double := 7
  deviceWidth : Double := 393
  deviceHeight : Double := 852
  fontFamily : String := "Inter"
  maxSpecSize : Int := 524288
  maxSpecDepth : Int := 20
  enableMetrics : Bool := true
  deriving DecidableEq

namespace Settings

def positive (v : Value) : Checked Double := do
  let x ← v.asDouble
  if Double.lt 0 x then .ok x else Checked.fault .notAboveBound

def nonnegative (v : Value) : Checked Double := do
  let x ← v.asDouble
  if Double.le 0 x then .ok x else Checked.fault .belowBound

def positiveInteger (v : Value) : Checked Int := do
  let n ← v.asInteger
  if n ≤ 0 then Checked.fault .notAboveBound else .ok n

def nonemptyText (v : Value) : Checked String := do
  let s ← v.asString
  if s = "" then Checked.fault .tooShort else .ok s

def names : List String := [
  "log_level", "json_logs", "screen_width", "screen_height", "corner_radius",
  "label_char_width", "device_width", "device_height", "font_family", "max_spec_size",
  "max_spec_depth", "enable_metrics"]

def toMembers (s : Settings) : Members := [
  ("log_level", .string s.logLevel), ("json_logs", .bool s.jsonLogs),
  ("screen_width", .number (.double s.screenWidth)),
  ("screen_height", .number (.double s.screenHeight)),
  ("corner_radius", .number (.double s.cornerRadius)),
  ("label_char_width", .number (.double s.labelCharWidth)),
  ("device_width", .number (.double s.deviceWidth)),
  ("device_height", .number (.double s.deviceHeight)), ("font_family", .string s.fontFamily),
  ("max_spec_size", .int s.maxSpecSize), ("max_spec_depth", .int s.maxSpecDepth),
  ("enable_metrics", .bool s.enableMetrics)]

def field {α : Type} (values : Members) (name : String) (default : α) (read : Value → Checked α) :
    Checked α :=
  match values.value? name with
  | some value => Checked.under (.key name) (read value)
  | none => .ok default

def read (values : Members) : Checked Settings :=
  let defaults : Settings := {}
  let start : Checked (String → Bool → Double → Double → Double → Double → Double → Double →
      String → Int → Int → Bool → Settings) := .ok Settings.mk
  let level := Checked.ap start (field values "log_level" defaults.logLevel Value.asString)
  let logs := Checked.ap level (field values "json_logs" defaults.jsonLogs Value.asBoolean)
  let width := Checked.ap logs (field values "screen_width" defaults.screenWidth positive)
  let height := Checked.ap width (field values "screen_height" defaults.screenHeight positive)
  let radius := Checked.ap height (field values "corner_radius" defaults.cornerRadius nonnegative)
  let label := Checked.ap radius
    (field values "label_char_width" defaults.labelCharWidth positive)
  let deviceWidth := Checked.ap label (field values "device_width" defaults.deviceWidth positive)
  let deviceHeight := Checked.ap deviceWidth
    (field values "device_height" defaults.deviceHeight positive)
  let family := Checked.ap deviceHeight
    (field values "font_family" defaults.fontFamily nonemptyText)
  let size := Checked.ap family
    (field values "max_spec_size" defaults.maxSpecSize positiveInteger)
  let depth := Checked.ap size
    (field values "max_spec_depth" defaults.maxSpecDepth positiveInteger)
  Checked.ap depth (field values "enable_metrics" defaults.enableMetrics Value.asBoolean)

end Settings

/-- The environment variables, and the settings that are kept. -/
structure SettingsStore where
  environment : List (String × String) := []
  cached : Option Settings := none

namespace SettingsStore

def variableStart : String := "mockup_"

def known (entries : List (String × Value)) : List (String × Value) :=
  (entries.map fun (name, value) => (Text.lowerCase name, value)).filter
    fun entry => Settings.names.contains entry.1

/-- The values that the environment gives to settings; the last variable of a name wins. -/
def environmentValues (store : SettingsStore) : Members :=
  Members.ofEntries <| known (store.environment.filterMap fun (name, value) =>
    let name := (Text.lowerCase name).toList
    if variableStart.toList.isPrefixOf name then
      some (String.ofList (name.drop variableStart.length), .string value)
    else none)

def setVariables (store : SettingsStore) (entries : List (String × String)) : SettingsStore :=
  { store with environment := entries.foldl setVariable store.environment }
where
  setVariable (environment : List (String × String)) (entry : String × String) :
      List (String × String) :=
    if environment.any fun other => other.1 == entry.1 then
      environment.map fun other => if other.1 == entry.1 then entry else other
    else environment ++ [entry]

/-- Fresh settings: passed values over the environment over the defaults. Of the values passed under
one name in several capitalisations the first wins. -/
def fresh (store : SettingsStore) (values : Members) : Checked Settings :=
  Settings.read (Members.ofEntries (store.environmentValues ++ (known values).reverse))

/-- The settings of the environment, kept from the first successful reading. -/
def get (store : SettingsStore) : Checked Settings × SettingsStore :=
  match store.cached with
  | some settings => (.ok settings, store)
  | none =>
      match store.fresh [] with
      | .ok settings => (.ok settings, { store with cached := some settings })
      | .error faults => (.error faults, store)

def clear (store : SettingsStore) : SettingsStore := { store with cached := none }

end SettingsStore

end Wireframe

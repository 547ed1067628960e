import Wireframe.Settings.Basic

/-! # Log levels

A level is named in any capitalisation; a name that is none means the usual level. The name of the
default line format is refused, since it names no level though it names something.
-/

namespace Wireframe

inductive LogLevelError where
  /-- The name is that of the default line format. -/
  | namesFormat
  /-- The name is that of the table of formatting styles. -/
  | namesStyles
  deriving DecidableEq

def LogLevelError.message : LogLevelError → String
  | namesFormat => "Unknown level: '%(levelname)s:%(name)s:%(message)s'"
  | namesStyles => "Level not an integer or a valid string"

structure LogSetup where
  level : Nat
  isJson : Bool
  deriving DecidableEq

namespace LogSetup

/-- The capital of a letter, as far as it is in ASCII: of the letters outside ASCII two have one,
and two ligatures have two. -/
def capital (c : Char) : List Char :=
  if c = 'ı' then ['I']
  else if c = 'ſ' then ['S']
  else if c = 'ﬅ' || c = 'ﬆ' then ['S', 'T']
  else [c.toUpper]

/-- The number of a level name; the usual level for a name that is none. -/
def levelNumber (name : String) : Except LogLevelError Nat :=
  match String.ofList (name.toList.flatMap capital) with
  | "DEBUG" => .ok 10
  | "INFO" => .ok 20
  | "WARNING" | "WARN" => .ok 30
  | "ERROR" => .ok 40
  | "CRITICAL" | "FATAL" => .ok 50
  | "NOTSET" => .ok 0
  | "BASIC_FORMAT" => .error .namesFormat
  | "_STYLES" => .error .namesStyles
  | _ => .ok 20

def configure (level : String) (isJson : Bool) : Except LogLevelError LogSetup :=
  (levelNumber level).map (⟨·, isJson⟩)

def ofSettings (settings : Settings) : Except LogLevelError LogSetup :=
  configure settings.logLevel settings.jsonLogs

end LogSetup

end Wireframe

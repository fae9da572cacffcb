import Vicinity.Environment
import Vicinity.Error
import Vicinity.Log.Level
import Vicinity.Text.Blank
import Vicinity.Text.Lowercase

/-! # Log settings

Lines go to the console, to a file, to both or to neither. Which events become lines is said by a
level for everything and by further directives; together they are one text, `directive`. Two
environment variables override settings wherever these come from: one sets the level, the other the
format of the console, which stays as it was if the variable names no format. `validate` checks what
the types leave open; a fault of the level counts before one of the file name.
-/

namespace Vicinity

/-- How lines on the console are written. -/
inductive LineFormat where
  | compact
  | pretty
  | json
deriving DecidableEq, Repr, Inhabited

namespace LineFormat

def all : List LineFormat := [compact, pretty, json]

def name : LineFormat → String
  | compact => "compact"
  | pretty => "pretty"
  | json => "json"

/-- The format of a name in small letters. -/
def ofName? (s : String) : Option LineFormat := all.find? fun format => format.name = s

theorem ofName?_name (format : LineFormat) : ofName? format.name = some format := by
  cases format <;> rfl

end LineFormat

/-- Lines on the console, and what they show. -/
structure ConsoleSettings where
  enabled : Bool
  format : LineFormat
  withColour : Bool
  withTarget : Bool
  withThreadNames : Bool
  withLineNumbers : Bool
deriving DecidableEq, Repr, Inhabited

/-- Lines in a file. -/
structure LogFileSettings where
  enabled : Bool
  filename : String
deriving DecidableEq, Repr, Inhabited

structure LogSettings where
  level : String
  directives : List String
  directory : String
  console : ConsoleSettings
  file : LogFileSettings
deriving DecidableEq, Repr, Inhabited

def ConsoleSettings.default : ConsoleSettings := ⟨true, .compact, true, true, true, false⟩

def LogFileSettings.default : LogFileSettings := ⟨false, "regionbus.log"⟩

namespace LogSettings

def default : LogSettings := ⟨Level.info.name, [], "logs", .default, .default⟩

/-- The variable that sets the level. -/
def levelVariable : String := "REGIONBUS_LOG_LEVEL"

/-- The variable that sets the format of the console. -/
def formatVariable : String := "REGIONBUS_LOG_FORMAT"

/-- The settings after the environment had its say. -/
def override (settings : LogSettings) (environment : Environment) : LogSettings :=
  let format := (environment.get? formatVariable).bind fun name =>
    LineFormat.ofName? (Text.lowercase name)
  { settings with
    level := (environment.get? levelVariable).getD settings.level
    console := { settings.console with format := format.getD settings.console.format } }

/-- The names that the level may have, in any letter case. -/
def levelNames : List String := Threshold.all.map Threshold.name

def validate (settings : LogSettings) : Except ConfigError Unit := do
  if !levelNames.contains (Text.lowercase settings.level) then
    throw (.invalidParameter "logging.level" settings.level
      ("expected one of " ++ String.intercalate ", " levelNames))
  if settings.file.enabled && (Text.trim settings.file.filename).isEmpty then
    throw (.invalidParameter "logging.file.filename" settings.file.filename
      "must not be empty when file logging is enabled")

/-- The level and the further directives as one text. -/
def directive (settings : LogSettings) : String :=
  String.intercalate "," (Text.lowercase settings.level :: settings.directives)

end LogSettings

end Vicinity

import Vicinity.Log.Filter
import Vicinity.Log.Settings

/-! # Logging

A process logs in one way, once and for all: `Logger.init` fails where another logger is installed.
Before that it applies the environment, checks the settings and makes the directory, if there is to
be a file. The filter is the one that is asked for separately, if that can be read; otherwise the
one that the settings describe, and if that cannot be read, one that lets everything up to `info`
through.

The logger takes note of its own start and end by two events, which are filtered like all others.
-/

namespace Vicinity

/-- Why logging cannot start. -/
inductive LogError where
  | invalid (error : ConfigError)
  | noDirectory
  | alreadySet
deriving DecidableEq, Repr, Inhabited

namespace LogEvent

/-- What a logger says when it starts. -/
def start : LogEvent where
  level := .info
  target := "regionbus::logging"
  details := ["version", "commit", "log_level", "console_format", "file_enabled", "log_dir"]
  message := "Logging system initialized"

/-- What a logger says when it ends. -/
def stop : LogEvent where
  level := .info
  target := "regionbus::logging::handle"
  details := ["file_sink"]
  message := "Logging shutdown"

end LogEvent

/-- What a line in Json says about an event. -/
structure LogLine where
  mark : String
  target : Option String
  message : String
  thread : Option String
  hasLineNumber : Bool
deriving DecidableEq, Repr, Inhabited

structure Logger where
  settings : LogSettings
  filter : LogFilter
  /-- Whether the filter that the settings describe could not be read. -/
  fellBack : Bool
deriving DecidableEq, Repr, Inhabited

namespace Logger

/-- Everything up to `info`. -/
def fallback : LogFilter := .upTo .info

/-- The filter of settings, and whether it is the one to fall back to. -/
def filterOf (settings : LogSettings) (asked : Option String) : LogFilter × Bool :=
  match asked.bind LogFilter.ofText? with
  | some filter => (filter, false)
  | none =>
    match LogFilter.ofText? settings.directive with
    | some filter => (filter, false)
    | none => (fallback, true)

/-- Start logging. `installed` is the logger in use, `asked` the filter asked for apart from the
settings, and `canCreate` says whether the directory for a file can be made. -/
def init (installed : Option Logger) (settings : LogSettings) (environment : Environment)
    (asked : Option String) (canCreate : Bool) : Except LogError Logger := do
  let settings := settings.override environment
  settings.validate.mapError LogError.invalid
  if settings.file.enabled && !canCreate then throw .noDirectory
  if installed.isSome then throw .alreadySet
  let (filter, fellBack) := filterOf settings asked
  return ⟨settings, filter, fellBack⟩

/-- Whether there is a file to be written. -/
def hasFile (logger : Logger) : Bool := logger.settings.file.enabled

def admits (logger : Logger) (event : LogEvent) : Bool :=
  logger.filter.admits event

/-- Whether an event is shown on the console. -/
def onConsole (logger : Logger) (event : LogEvent) : Bool :=
  logger.settings.console.enabled && logger.admits event

/-- Whether an event is written to the file. -/
def inFile (logger : Logger) (event : LogEvent) : Bool := logger.hasFile && logger.admits event

/-- Whether the console writes lines in Json. -/
def writesJson (logger : Logger) : Bool := logger.settings.console.format == .json

/-- Whether the lines on the console have colours; those in Json have none. -/
def isColoured (logger : Logger) : Bool := !logger.writesJson && logger.settings.console.withColour

/-- The line in Json for an event of a thread. -/
def line (logger : Logger) (thread : String) (event : LogEvent) : LogLine :=
  let console := logger.settings.console
  { mark := event.level.mark
    target := if console.withTarget then some event.target else none
    message := event.message
    thread := if console.withThreadNames then some thread else none
    hasLineNumber := console.withLineNumbers }

end Logger

/-- What is written while a logger is in use: the labels of the events on the console and in the
file, the lines on the console if they are in Json, and whether there are colours on the console. -/
structure LogReport (L : Type) where
  console : List L
  file : List L
  lines : Option (List LogLine)
  isColoured : Bool
deriving Repr, Inhabited

variable {L : Type}

/-- What is written without a logger. -/
def LogReport.nothing : LogReport L := ⟨[], [], none, false⟩

/-- What is written of labelled events, all of one thread. -/
def Logger.report (logger : Logger) (thread : String) (events : List (L × LogEvent)) :
    LogReport L :=
  let shown := events.filter fun event => logger.onConsole event.2
  { console := shown.map Prod.fst
    file := (events.filter fun event => logger.inFile event.2).map Prod.fst
    lines :=
      if logger.writesJson && !shown.isEmpty then
        some (shown.map fun event => logger.line thread event.2)
      else none
    isColoured := logger.isColoured && !shown.isEmpty }

end Vicinity

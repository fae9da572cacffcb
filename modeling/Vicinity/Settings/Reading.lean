import Vicinity.Settings.Basic

/-! # Reading settings

Settings are read from values of different forms, more or less strictly. What the forms share is
written here once: the names of the fields, their types, and that an absent field has its default. A
`Reading` says how one form holds records and scalars. Whatever form settings have, nothing is read
from a value of the wrong type.
-/

namespace Vicinity

/-- How values of one form are read. -/
structure Reading (V : Type) where
  /-- The fields of a record with the given names, in this order. -/
  fields : List String → V → Option (String → Option V)
  isNull : V → Bool
  text : V → Option String
  flag : V → Option Bool
  natural : V → Option Nat
  texts : V → Option (List String)
  /-- The name of one of several alternatives. -/
  alternative : V → Option String

namespace Reading

variable {V A : Type}

/-- A field that may be absent. -/
def orDefault (read : V → Option A) (absent : A) : Option V → Option A
  | none => some absent
  | some value => read value

/-- A value that may be null. -/
def optional (r : Reading V) (read : V → Option A) (value : V) : Option (Option A) :=
  if r.isNull value then some none else (read value).map some

/-- A natural number below a bound. -/
def below (r : Reading V) (bound : Nat) (value : V) : Option Nat :=
  (r.natural value).bind fun n => if n < bound then some n else none

def word32 (r : Reading V) (value : V) : Option UInt32 :=
  (r.below UInt32.size value).map UInt32.ofNat

/-- A number of things, in 64 bits. -/
def count (r : Reading V) : V → Option Nat := r.below UInt64.size

def broker (r : Reading V) (value : V) : Option BrokerSettings := do
  let field ← r.fields ["kind", "channel", "shards", "uri"] value
  let d := BrokerSettings.default
  let kind ← orDefault r.text d.kind (field "kind")
  let channel ← orDefault r.text d.channel (field "channel")
  let shards ← orDefault r.count d.shards (field "shards")
  let uri ← orDefault (r.optional r.text) d.uri (field "uri")
  return { kind, channel, shards, uri }

def policy (r : Reading V) (value : V) : Option PolicySettings := do
  let field ← r.fields ["world", "view_distance", "dyconit"] value
  let d := PolicySettings.default
  let world ← orDefault (fun v => (r.word32 v).map WorldId.mk) d.world (field "world")
  let viewDistance ← orDefault r.word32 d.viewDistance (field "view_distance")
  let dyconit ← orDefault (r.optional r.text) d.dyconit (field "dyconit")
  return { world, viewDistance, dyconit }

def executor (r : Reading V) (value : V) : Option ExecutorSettings := do
  let field ← r.fields ["pool_size"] value
  let poolSize ←
    orDefault (r.optional r.count) ExecutorSettings.default.poolSize (field "pool_size")
  return { poolSize }

def format (r : Reading V) (value : V) : Option LineFormat :=
  (r.alternative value).bind LineFormat.ofName?

def console (r : Reading V) (value : V) : Option ConsoleSettings := do
  let field ← r.fields ["enabled", "format", "with_ansi", "with_target", "with_thread_names",
    "with_line_numbers"] value
  let d := ConsoleSettings.default
  let enabled ← orDefault r.flag d.enabled (field "enabled")
  let format ← orDefault r.format d.format (field "format")
  let withColour ← orDefault r.flag d.withColour (field "with_ansi")
  let withTarget ← orDefault r.flag d.withTarget (field "with_target")
  let withThreadNames ← orDefault r.flag d.withThreadNames (field "with_thread_names")
  let withLineNumbers ← orDefault r.flag d.withLineNumbers (field "with_line_numbers")
  return { enabled, format, withColour, withTarget, withThreadNames, withLineNumbers }

def logFile (r : Reading V) (value : V) : Option LogFileSettings := do
  let field ← r.fields ["enabled", "filename"] value
  let d := LogFileSettings.default
  let enabled ← orDefault r.flag d.enabled (field "enabled")
  let filename ← orDefault r.text d.filename (field "filename")
  return { enabled, filename }

def logging (r : Reading V) (value : V) : Option LogSettings := do
  let field ← r.fields ["level", "directives", "log_dir", "console", "file"] value
  let d := LogSettings.default
  let level ← orDefault r.text d.level (field "level")
  let directives ← orDefault r.texts d.directives (field "directives")
  let directory ← orDefault r.text d.directory (field "log_dir")
  let console ← orDefault r.console d.console (field "console")
  let file ← orDefault r.logFile d.file (field "file")
  return { level, directives, directory, console, file }

def settings (r : Reading V) (value : V) : Option Settings := do
  let field ← r.fields ["broker", "policy", "executor", "logging"] value
  let d := Settings.default
  let broker ← orDefault r.broker d.broker (field "broker")
  let policy ← orDefault r.policy d.policy (field "policy")
  let executor ← orDefault r.executor d.executor (field "executor")
  let logging ← orDefault r.logging d.logging (field "logging")
  return { broker, policy, executor, logging }

end Reading

end Vicinity

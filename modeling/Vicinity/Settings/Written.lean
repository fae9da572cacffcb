import Vicinity.Json.Field
import Vicinity.Settings.Reading

/-! # Settings in Json

Settings are written as an object with all fields, an absent option as null. They are read strictly:
a record is an object, whose other members do not matter, or an array that begins with its fields in
order and holds nothing else; a number is an integer; and no value of one type counts as one of
another. Null is read only where a field is optional.
-/

namespace Vicinity

namespace Reading

/-- The fields of a record in Json. -/
def strictFields (names : List String) : Json → Option (String → Option Json)
  | .object members => some fun name => Json.field? (.object members) name
  | .array items =>
    if items.length ≤ names.length then some fun name => (names.zip items).lookup name else none
  | _ => none

/-- The name of an alternative: a text, or the only member of an object, which then holds null. -/
def strictAlternative : Json → Option String
  | .string name => some name
  | .object [(name, .null)] => some name
  | _ => none

/-- Values in Json, none of which counts as one of another type. -/
def strict : Reading Json where
  fields := strictFields
  isNull
    | .null => true
    | _ => false
  text := Json.decode
  flag := Json.decode
  natural := Json.decode
  texts := Json.decode
  alternative := strictAlternative

end Reading

namespace Json

instance : Decode BrokerSettings := ⟨Reading.strict.broker⟩
instance : Decode LogSettings := ⟨Reading.strict.logging⟩
instance : Decode Settings := ⟨Reading.strict.settings⟩

instance : Encode BrokerSettings :=
  ⟨fun s => .object [("kind", encode s.kind), ("channel", encode s.channel),
    ("shards", encode s.shards), ("uri", encode s.uri)]⟩

instance : Encode PolicySettings :=
  ⟨fun s => .object [("world", encode s.world.index), ("view_distance", encode s.viewDistance),
    ("dyconit", encode s.dyconit)]⟩

instance : Encode ExecutorSettings := ⟨fun s => .object [("pool_size", encode s.poolSize)]⟩

instance : Encode ConsoleSettings :=
  ⟨fun s => .object [("enabled", encode s.enabled), ("format", encode s.format.name),
    ("with_ansi", encode s.withColour), ("with_target", encode s.withTarget),
    ("with_thread_names", encode s.withThreadNames),
    ("with_line_numbers", encode s.withLineNumbers)]⟩

instance : Encode LogFileSettings :=
  ⟨fun s => .object [("enabled", encode s.enabled), ("filename", encode s.filename)]⟩

instance : Encode LogSettings :=
  ⟨fun s => .object [("level", encode s.level), ("directives", encode s.directives),
    ("log_dir", encode s.directory), ("console", encode s.console), ("file", encode s.file)]⟩

instance : Encode Settings :=
  ⟨fun s => .object [("broker", encode s.broker), ("policy", encode s.policy),
    ("executor", encode s.executor), ("logging", encode s.logging)]⟩

end Json

end Vicinity

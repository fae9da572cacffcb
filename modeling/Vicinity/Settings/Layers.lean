import Vicinity.Environment
import Vicinity.Json.Read
import Vicinity.Json.Shape
import Vicinity.Number.Loose
import Vicinity.Number.Range
import Vicinity.Settings.Loose
import Vicinity.Toml.Document
import Vicinity.Tree.Path

/-! # Layers of settings

Settings come from a file, which may be left out, and from environment variables; a variable counts
before the file, and what neither of them says has its default. Each is a layer: values with the
paths at which they are laid over the layers below. Three defaults of the broker are laid below all
others; the other defaults stand in for fields that are missing when the tree is read.

The names at the root of a file are paths. A variable counts if its name begins with a certain text;
the rest of the name is a path in which two underscores stand for a point. Letter case in the names
of variables does not matter. The value of a variable is read as a truth value, an integer of 64
bits or a floating-point number if it can be, and else as a text.
-/

namespace Vicinity

/-- Values and where they are to be laid, the first one first. -/
abbrev Layer := List (Path × Tree)

/-- Lay a layer over a tree. -/
def Layer.lay (layer : Layer) (t : Tree) : Tree :=
  layer.foldl (fun t (path, value) => t.overlayAt path value) t

namespace Tree

/-- A number, as an integer if it is one that fits 64 bits, with or without a sign. -/
def ofLiteral (literal : Number.Literal) : Tree :=
  match literal.integer?.filter Number.fitsWord with
  | some i => integer i
  | none => float (literal.scaled?.getD 0.0)

mutual

/-- A value in Json; of two members with one name the later one counts. -/
def ofJson : Json → Tree
  | .null => null
  | .bool b => bool b
  | .number literal => ofLiteral literal
  | .string s => text s
  | .array items => list (ofItems items)
  | .object members => table (ofMembers [] members)

def ofItems : List Json → List Tree
  | [] => []
  | item :: rest => ofJson item :: ofItems rest

def ofMembers (entries : Entries Tree) : List (String × Json) → Entries Tree
  | [] => entries
  | (name, value) :: rest => ofMembers (entries.put name (ofJson value)) rest

end

/-- The value of a variable. -/
def ofVariable (s : String) : Tree :=
  if Text.lowercase s = "true" then bool true
  else if Text.lowercase s = "false" then bool false
  else
    match (Numeral.signed? s.toList).filter Number.isInt64, Number.loose? s.toList with
    | some i, _ => integer i
    | none, some value => float value
    | none, none => text s

end Tree

/-! ## Files -/

/-- What a settings file is written in. -/
inductive FileFormat where
  | toml
  | json
deriving DecidableEq, Repr, Inhabited

namespace FileFormat

/-- The end of the names of files of a format. -/
def extension : FileFormat → String
  | toml => "toml"
  | json => "json"

def ofExtension? (s : String) : Option FileFormat :=
  [toml, json].find? fun format => format.extension = s

/-- The entries at the root of a document. -/
def entries? (format : FileFormat) (document : String) : Option (Entries Tree) :=
  match format with
  | toml => Toml.Document.read? document
  | json =>
    match (RawJson.ofBytes? document.toUTF8.toList).bind RawJson.strict? with
    | some (.object members) => some (Tree.ofMembers [] members)
    | _ => none

end FileFormat

/-- A settings file; there may be none at the place where it should be. -/
structure SettingsFile where
  format : FileFormat
  content : Option String
deriving DecidableEq, Repr, Inhabited

/-- The text of a document without the mark of the byte order in front of it. -/
def withoutMark (document : String) : String :=
  match document.toList with
  | '\uFEFF' :: rest => String.ofList rest
  | _ => document

/-- What a file says, if it can be read. -/
def SettingsFile.layer? (file : SettingsFile) : Option Layer := do
  let document ← file.content
  let entries ← file.format.entries? (withoutMark document)
  return entries.map fun (name, value) => (Path.ofKey name, value)

/-! ## Environment variables -/

/-- The text that names of variables begin with. -/
def variableStart : String := "regionbus_"

/-- A path in which two underscores stand for a point. -/
def pointed : List Char → List Char
  | '_' :: '_' :: rest => '.' :: pointed rest
  | c :: rest => c :: pointed rest
  | [] => []

/-- The path that the name of a variable writes, if the variable counts. -/
def variablePath? (name : String) : Option Path :=
  (variableStart.toList.isPrefixOf? (Text.lowercase name).toList).map fun rest =>
    Path.ofKey (String.ofList (pointed rest))

/-- What variables say. -/
def Environment.layer (environment : Environment) : Layer :=
  environment.entries.filterMap fun (name, value) =>
    (variablePath? name).map fun path => (path, Tree.ofVariable value)

/-! ## Loading -/

/-- Why settings cannot be loaded. -/
inductive LoadError where
  | unreadable
  | invalid (error : ConfigError)
deriving DecidableEq, Repr, Inhabited

namespace Settings

/-- The defaults that are laid below what is said. -/
def defaultLayer : Layer :=
  let d := BrokerSettings.default
  [([.name "broker", .name "kind"], .text d.kind),
    ([.name "broker", .name "channel"], .text d.channel),
    ([.name "broker", .name "shards"], .integer d.shards)]

/-- What the file says, which is nothing if it is left out. -/
def fileLayer? : Option SettingsFile → Option Layer
  | none => some []
  | some file => file.layer?

/-- All layers as one tree. -/
def layered? (file : Option SettingsFile) (environment : Environment) : Option Tree :=
  (fileLayer? file).map fun layer =>
    environment.layer.lay (layer.lay (defaultLayer.lay (.table [])))

/-- Load settings and check them. -/
def load (file : Option SettingsFile) (environment : Environment) : Except LoadError Settings :=
  match (layered? file environment).bind Reading.loose.settings with
  | none => .error .unreadable
  | some settings =>
    match settings.validate with
    | .error error => .error (.invalid error)
    | .ok () => .ok settings

end Settings

end Vicinity

import Vicinity.Json.Read

/-! # Values of a known shape

A reader takes a value that was read and gives what it stands for, if it has the right shape. A
structure is an object with every field exactly once, in any order, or an array of its fields in
order; members of other names are passed over, and whatever they hold does not matter. A tagged
structure also says by the text in one of its fields which structure it is; as an array it begins
with that text. Whatever a tagged structure holds does matter, since it has to be kept until the tag
is known.
-/

namespace Vicinity.RawJson

/-- What a value of a shape stands for. -/
abbrev Reader (A : Type) := RawJson → Option A

def readText : Reader String
  | .string s => s
  | _ => none

/-- An integer between two bounds. -/
def readInteger (low high : Int) : Reader Int
  | .number literal =>
    literal.integer?.bind fun i => if low ≤ i ∧ i ≤ high then some i else none
  | _ => none

def readUInt8 : Reader UInt8 := fun value =>
  (readInteger 0 (UInt8.size - 1) value).map fun i => .ofNat i.toNat

def readUInt32 : Reader UInt32 := fun value =>
  (readInteger 0 (UInt32.size - 1) value).map fun i => .ofNat i.toNat

def readUInt64 : Reader UInt64 := fun value =>
  (readInteger 0 (UInt64.size - 1) value).map fun i => .ofNat i.toNat

def readInt32 : Reader Int32 := fun value =>
  (readInteger Int32.minValue.toInt Int32.maxValue.toInt value).map .ofInt

/-- A finite floating-point number, which may be written as an integer. -/
def readFloat : Reader Float
  | .number literal => literal.scaled?
  | _ => none

/-- The only member of a name. -/
def onlyMember? (members : List (String × RawJson)) (name : String) : Option RawJson :=
  match members.filter fun member => member.1 = name with
  | [member] => some member.2
  | _ => none

/-- The members of an object if all their names stand for texts. -/
def namedMembers? (members : List (Option String × RawJson)) : Option (List (String × RawJson)) :=
  members.mapM fun member => member.1.map fun name => (name, member.2)

/-- The fields of a structure in order. -/
def fields (names : List String) : Reader (List RawJson)
  | .array items => if items.length = names.length then some items else none
  | .object members => (namedMembers? members).bind fun named => names.mapM (onlyMember? named)
  | _ => none

/-- The tag of a tagged structure, and the structure without it. -/
def tagged (tag : String) : Reader (String × RawJson) := fun value =>
  (strict? value).bind fun _ =>
    match value with
    | .array (first :: rest) => (readText first).map fun name => (name, .array rest)
    | .object members => do
      let named ← namedMembers? members
      let first ← onlyMember? named tag
      let name ← readText first
      return (name, .object (members.filter fun member => member.1 ≠ some tag))
    | _ => none

end Vicinity.RawJson

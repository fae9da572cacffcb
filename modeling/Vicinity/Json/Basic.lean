import Vicinity.Number.Scaled

/-! # Json values

`JsonOf T` is a value whose texts are of type `T`. A value as it is written has ordinary texts. One
that was only read may hold string literals that stand for no text, because they name half of a
character or are not properly encoded; its texts are optional. `strict?` turns the second into the
first where nothing is wrong with it. Numbers are kept as literals and members in the order in which
they are written.
-/

namespace Vicinity

inductive JsonOf (T : Type) where
  | null
  | bool (b : Bool)
  | number (literal : Number.Literal)
  | string (s : T)
  | array (items : List (JsonOf T))
  | object (members : List (T × JsonOf T))
deriving Inhabited

/-- A value that can be written. -/
abbrev Json := JsonOf String

/-- A value as it was read, in which some string literals may stand for no text. -/
abbrev RawJson := JsonOf (Option String)

namespace RawJson

/-- Arrays and objects may be nested no deeper than this where everything in a value counts. -/
def mostNested : Nat := 127

mutual

/-- The value if every string literal in it stands for a text, every number is finite, and nothing
is nested deeper than allowed. -/
def strictWithin? (depth : Nat) : RawJson → Option Json
  | .null => some .null
  | .bool b => some (.bool b)
  | .number literal => if literal.isFinite then some (.number literal) else none
  | .string s => s.map .string
  | .array items =>
    match depth with
    | 0 => none
    | depth + 1 => (strictItems? depth items).map .array
  | .object members =>
    match depth with
    | 0 => none
    | depth + 1 => (strictMembers? depth members).map .object

def strictItems? (depth : Nat) : List RawJson → Option (List Json)
  | [] => some []
  | item :: rest => do return (← strictWithin? depth item) :: (← strictItems? depth rest)

def strictMembers? (depth : Nat) : List (Option String × RawJson) → Option (List (String × Json))
  | [] => some []
  | (name, value) :: rest => do
    return (← name, ← strictWithin? depth value) :: (← strictMembers? depth rest)

end

def strict? (value : RawJson) : Option Json := strictWithin? mostNested value

mutual

/-- A value in which all string literals stand for texts, seen as one that was read. -/
def ofJson : Json → RawJson
  | .null => .null
  | .bool b => .bool b
  | .number literal => .number literal
  | .string s => .string (some s)
  | .array items => .array (ofItems items)
  | .object members => .object (ofMembers members)

def ofItems : List Json → List RawJson
  | [] => []
  | item :: rest => ofJson item :: ofItems rest

def ofMembers : List (String × Json) → List (Option String × RawJson)
  | [] => []
  | (name, value) :: rest => (some name, ofJson value) :: ofMembers rest

end

end RawJson

end Vicinity

import Vicinity.Toml.Quoted
import Vicinity.Toml.Scalar

/-! # Lines of a document

A document is a sequence of lines. A line begins a table, begins another item of a list of tables,
or gives a value to a name; there may be a comment behind it, and lines may be blank. Values are
scalars, strings, arrays, and tables in braces. Arrays and tables in braces go over several lines if
they like, and a comma may follow their last part; they lie in one another up to a certain depth.
-/

namespace Vicinity.Toml

/-- A value as it is written. -/
inductive Term where
  | scalar (value : Scalar)
  | text (s : String)
  | array (items : List Term)
  | braces (entries : List (List String × Term))
deriving Inhabited

inductive Line where
  | table (name : List String)
  | item (name : List String)
  | entry (name : List String) (value : Term)
deriving Inhabited

namespace Term

mutual

/-- A value at the front of the input; so many levels of brackets and braces are allowed in it. -/
def read : Nat → Nat → List Char → Option (Term × List Char)
  | 0, _, _ => none
  | fuel + 1, levels, input =>
    match input, levels with
    | '"' :: _, _ | '\'' :: _, _ => (anyString input).map fun (s, rest) => (.text s, rest)
    | '[' :: rest, inner + 1 =>
      (readItems fuel inner rest).map fun (items, rest) => (.array items, rest)
    | '\x7b' :: rest, inner + 1 =>
      (readEntries fuel inner rest).map fun (entries, rest) => (.braces entries, rest)
    | _, _ => (Scalar.read input).map fun (value, rest) => (.scalar value, rest)

/-- The items of an array up to its closing bracket. -/
def readItems : Nat → Nat → List Char → Option (List Term × List Char)
  | 0, _, _ => none
  | fuel + 1, levels, input =>
    match skipGap fuel input with
    | ']' :: rest => some ([], rest)
    | input => do
      let (item, rest) ← read fuel levels input
      match skipGap fuel rest with
      | ',' :: rest => (readItems fuel levels rest).map fun (items, rest) => (item :: items, rest)
      | ']' :: rest => return ([item], rest)
      | _ => none

/-- The entries of a table in braces up to its closing brace. -/
def readEntries : Nat → Nat → List Char → Option (List (List String × Term) × List Char)
  | 0, _, _ => none
  | fuel + 1, levels, input =>
    match skipGap fuel input with
    | '\x7d' :: rest => some ([], rest)
    | input => do
      let (name, rest) ← spacedName input
      match skipGap fuel rest with
      | '=' :: rest =>
        let (value, rest) ← read fuel levels (skipGap fuel rest)
        match skipGap fuel rest with
        | ',' :: rest =>
          (readEntries fuel levels rest).map fun (entries, rest) => ((name, value) :: entries, rest)
        | '\x7d' :: rest => return ([(name, value)], rest)
        | _ => none
      | _ => none

end

end Term

namespace Line

/-- A line up to what may stand behind it; nothing if it is blank. -/
def content (input : List Char) : Option (Option Line × List Char) :=
  match input with
  | [] | '\n' :: _ | '\r' :: _ | '#' :: _ => some (none, input)
  | '[' :: '[' :: rest => do
    match ← spacedName rest with
    | (name, ']' :: ']' :: rest) => return (some (.item name), rest)
    | _ => none
  | '[' :: rest => do
    match ← spacedName rest with
    | (name, ']' :: rest) => return (some (.table name), rest)
    | _ => none
  | _ => do
    match ← spacedName input with
    | (name, '=' :: rest) =>
      let (value, rest) ← Term.read (2 * rest.length + 2) mostLevels (skipSpace rest)
      return (some (.entry name value), rest)
    | _ => none

/-- All lines of the input. -/
def readAll : Nat → List Char → Option (List Line)
  | 0, _ => none
  | fuel + 1, input => do
    let (line, rest) ← content (skipSpace input)
    match skipComment (skipSpace rest) with
    | [] => return line.toList
    | rest =>
      let (_, rest) ← lineEnd rest
      return line.toList ++ (← readAll fuel rest)

/-- The lines of a document; a mark of the byte order in front of it is passed over. -/
def ofDocument? (document : String) : Option (List Line) :=
  let input := match document.toList with
    | '\uFEFF' :: rest => rest
    | input => input
  readAll (input.length + 1) input

end Line

end Vicinity.Toml

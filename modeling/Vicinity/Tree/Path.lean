import Vicinity.Number.Range
import Vicinity.Text.Numeral
import Vicinity.Tree.Basic

/-! # Paths into trees

A path leads from the root of a tree to one of its values: by names through tables and by positions
through lists. Positions are counted from zero, and from the end if they are negative. To lay a
value over the one at a path, whatever stands in the way is replaced: a tree in which a name is
looked for becomes a table, one in which a position is looked for becomes a list, and a list that is
too short is filled up with null.

A path is written as names with points between them and positions in brackets. Names are made of
letters and digits of the Latin alphabet, hyphens and underscores.
-/

namespace Vicinity

/-- One step down in a tree. -/
inductive Step where
  | name (name : String)
  | position (i : Int)
deriving DecidableEq, Repr, Inhabited

abbrev Path := List Step

namespace Tree

def items : Tree → List Tree
  | list items => items
  | _ => []

/-- Change the item at a position, which need not exist. -/
def alterAt (i : Int) (change : Tree → Tree) (items : List Tree) : List Tree :=
  if 0 ≤ i then
    (items ++ List.replicate (i.toNat + 1 - items.length) null).modify i.toNat change
  else if i.natAbs ≤ items.length then items.modify (items.length - i.natAbs) change
  else change null :: (List.replicate (i.natAbs - items.length - 1) null ++ items)

/-- Change the value at a path, which need not exist. -/
def alter (change : Tree → Tree) : Path → Tree → Tree
  | [], t => change t
  | .name name :: rest, t => table (t.entries.put name (alter change rest (t.entry name)))
  | .position i :: rest, t => list (alterAt i (alter change rest) t.items)

/-- Lay a value over what is at a path. -/
def overlayAt (t : Tree) (path : Path) (value : Tree) : Tree :=
  t.alter (fun lower => lower.overlay value) path

theorem entry_alter_name (change : Tree → Tree) (name : String) (rest : Path) (t : Tree)
    (key : String) :
    (alter change (.name name :: rest) t).entry key =
      if key = name then alter change rest (t.entry name) else t.entry key := by
  have written := Entries.get?_put name (alter change rest (t.entry name)) t.entries key
  rw [alter]
  change (Entries.get? (Entries.put name _ t.entries) key).getD null = _
  rw [written]
  by_cases same : key = name
  · simp only [same, ↓reduceIte, Option.getD_some]
  · simp only [same, ↓reduceIte]
    rfl

end Tree

namespace Path

/-- Whether a character may stand in a name. -/
def inName (c : Char) : Bool := c.isAlphanum || c == '_' || c == '-'

/-- Where the reading of a path stands: in a name, between brackets, or after brackets; characters
are kept last one first. -/
inductive Reading where
  | name (cs : List Char)
  | position (cs : List Char)
  | closed
deriving DecidableEq, Repr, Inhabited

/-- A position as it stands between brackets, with blanks around it. -/
def position? (cs : List Char) : Option Int :=
  let isGap (c : Char) : Bool := c == ' ' || c == '\t'
  let inner := ((cs.dropWhile isGap).reverse.dropWhile isGap).reverse
  match inner with
  | '+' :: _ => none
  | _ =>
    (Numeral.signed? inner).bind fun i => if Number.isInt64 i then some i else none

/-- Read one character; the steps before it are given last one first. -/
def read : Path × Reading → Char → Option (Path × Reading)
  | (steps, .name cs), c =>
    if inName c then some (steps, .name (c :: cs))
    else if cs.isEmpty then none
    else
      let steps := .name (String.ofList cs.reverse) :: steps
      if c = '.' then some (steps, .name [])
      else if c = '[' then some (steps, .position [])
      else none
  | (steps, .position cs), c =>
    if c = ']' then (position? cs.reverse).map fun i => (.position i :: steps, .closed)
    else some (steps, .position (c :: cs))
  | (steps, .closed), c =>
    if c = '.' then some (steps, .name [])
    else if c = '[' then some (steps, .position [])
    else none

/-- The path that a text writes. -/
def ofText? (s : String) : Option Path :=
  match s.toList.foldlM read ([], .name []) with
  | some (steps, .name cs) =>
    if cs.isEmpty then none else some (.name (String.ofList cs.reverse) :: steps).reverse
  | some (steps, .closed) => some steps.reverse
  | _ => none

/-- The path that a text writes, or the one step to the entry whose name is the text itself. -/
def ofKey (s : String) : Path := (ofText? s).getD [.name s]

end Path

end Vicinity

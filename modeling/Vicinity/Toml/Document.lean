import Vicinity.Toml.Line
import Vicinity.Tree.Basic

/-! # Tables of a document

The lines of a document build one table. A line that begins a table makes the tables on the way to
it, and one that was only made on the way may still get such a line of its own; no table gets two.
Names with points make tables too. They also lead through tables made on the way, but neither
through tables that a line began nor into lists of tables, and a table through which one has led
gets no line of its own any more. A table in braces and an array are complete, and so is every other
value: nothing is added to them. In a list of tables the latest item is the one that is meant.
-/

namespace Vicinity.Toml

/-- How a table came about. -/
inductive Origin where
  /-- By a line that begins it. -/
  | line
  /-- On the way to another table. -/
  | way
  /-- By a name with points, or used by one. -/
  | points
deriving DecidableEq, Repr, Inhabited

/-- A part of a document that may still grow. -/
inductive Node where
  | complete (value : Tree)
  | table (origin : Origin) (entries : List (String × Node))
  | items (latest : List (String × Node)) (earlier : List (List (String × Node)))
deriving Inhabited

namespace Node

mutual

def tree : Node → Tree
  | complete value => value
  | table _ entries => .table (entryTrees entries)
  | items latest earlier => .list ((tableTrees earlier).reverse ++ [.table (entryTrees latest)])

def entryTrees : List (String × Node) → List (String × Tree)
  | [] => []
  | (name, node) :: rest => (name, tree node) :: entryTrees rest

def tableTrees : List (List (String × Node)) → List Tree
  | [] => []
  | entries :: rest => .table (entryTrees entries) :: tableTrees rest

end

/-- Change the entries of the table to which a name leads for the given purpose: on the way to a
table that a line begins, or by a name with points. Tables that are missing are made. -/
def reach (purpose : Origin) (change : Entries Node → Option (Entries Node)) :
    List String → Entries Node → Option (Entries Node)
  | [], entries => change entries
  | part :: rest, entries =>
    match entries.get? part, purpose with
    | none, _ => (reach purpose change rest []).map (entries.put part <| table purpose ·)
    | some (table .line _), .points => none
    | some (table _ inner), .points =>
      (reach purpose change rest inner).map (entries.put part <| table .points ·)
    | some (table found inner), _ =>
      (reach purpose change rest inner).map (entries.put part <| table found ·)
    | some (items _ _), .points => none
    | some (items latest earlier), _ =>
      (reach purpose change rest latest).map (entries.put part <| items · earlier)
    | some (complete _), _ => none

/-- Give a value to a name. -/
def enter (name : List String) (value : Tree) (entries : Entries Node) : Option (Entries Node) :=
  match name.getLast? with
  | none => none
  | some last =>
    let add (entries : Entries Node) : Option (Entries Node) :=
      if (entries.get? last).isSome then none else some (entries.put last (complete value))
    reach .points add name.dropLast entries

/-- Begin the table of a name. -/
def beginTable (name : List String) (entries : Entries Node) : Option (Entries Node) :=
  match name.getLast? with
  | none => none
  | some last =>
    let begin (entries : Entries Node) : Option (Entries Node) :=
      match entries.get? last with
      | none => some (entries.put last (table .line []))
      | some (table .way inner) => some (entries.put last (table .line inner))
      | _ => none
    reach .way begin name.dropLast entries

/-- Begin another item of the list of tables of a name. -/
def beginItem (name : List String) (entries : Entries Node) : Option (Entries Node) :=
  match name.getLast? with
  | none => none
  | some last =>
    let begin (entries : Entries Node) : Option (Entries Node) :=
      match entries.get? last with
      | none => some (entries.put last (items [] []))
      | some (items latest earlier) => some (entries.put last (items [] (latest :: earlier)))
      | _ => none
    reach .way begin name.dropLast entries

end Node

namespace Term

mutual

/-- The value that is written, unless a table in braces contradicts itself. -/
def tree? : Term → Option Tree
  | scalar (.bool b) => some (.bool b)
  | scalar (.integer i) => some (.integer i)
  | scalar (.float value) => some (.float value)
  | scalar (.moment written) => some (.text written)
  | text s => some (.text s)
  | array items => (trees? items).map .list
  | braces entries => (entered? [] entries).map fun entries => .table (Node.entryTrees entries)

def trees? : List Term → Option (List Tree)
  | [] => some []
  | item :: rest => do return (← tree? item) :: (← trees? rest)

/-- A table after its entries are given their values one by one. -/
def entered? (table : Entries Node) : List (List String × Term) → Option (Entries Node)
  | [] => some table
  | (name, term) :: rest => do
    let value ← tree? term
    let table ← Node.enter name value table
    entered? table rest

end

end Term

/-- A document up to some line: its root, and the name of the table that the next line belongs
to. -/
structure Document where
  root : Entries Node
  current : List String
deriving Inhabited

namespace Document

def empty : Document := ⟨[], []⟩

def add (document : Document) : Line → Option Document
  | .table name => (Node.beginTable name document.root).map fun root => ⟨root, name⟩
  | .item name => (Node.beginItem name document.root).map fun root => ⟨root, name⟩
  | .entry name term => do
    let value ← term.tree?
    let root ← Node.reach .way (Node.enter name value) document.current document.root
    return { document with root }

/-- The entries of a document. -/
def read? (s : String) : Option (Entries Tree) := do
  let lines ← Line.ofDocument? s
  let document ← lines.foldlM add empty
  return Node.entryTrees document.root

end Document

end Vicinity.Toml

import Vicinity.Tree.Entries

/-! # Trees of plain values

What a document or another source of settings says is a tree: scalars, lists, and tables whose
entries have names. Sources are laid over one another. A table laid over a tree changes the entries
it has and leaves the others alone; anything else takes the place of what was there. Under a name
that has no entry stands null.
-/

namespace Vicinity

inductive Tree where
  | null
  | bool (b : Bool)
  | integer (i : Int)
  | float (value : Float)
  | text (s : String)
  | list (items : List Tree)
  | table (entries : List (String × Tree))
deriving Inhabited

namespace Tree

/-- The entries of a tree, which has none unless it is a table. -/
def entries : Tree → Entries Tree
  | table entries => entries
  | _ => []

/-- The value under a name, null if there is none. -/
def entry (t : Tree) (name : String) : Tree := (t.entries.get? name).getD null

mutual

/-- A tree after another one is laid over it. -/
def overlay (lower : Tree) : Tree → Tree
  | table upper => table (overlayEntries lower.entries upper)
  | upper => upper

/-- Entries after other ones are laid over them. -/
def overlayEntries (lower : Entries Tree) : List (String × Tree) → Entries Tree
  | [] => lower
  | (name, value) :: rest =>
    overlayEntries (Entries.put name (overlay ((lower.get? name).getD null) value) lower) rest

end

end Tree

end Vicinity

/-! # Nesting

How deeply the parts of a pattern lie in one another. A row of parts that stand beside each other,
like the members of a set or the alternatives of a group, is a level of its own above the deepest
part, unless it has only one part.
-/

namespace Vicinity.Pattern

/-- A row of parts, by their depths. -/
structure Row where
  count : Nat
  /-- The depth of the deepest part but the last. -/
  deepest : Nat
  /-- The depth of the last part. -/
  last : Nat
deriving DecidableEq, Repr, Inhabited

namespace Row

def empty : Row := ⟨0, 0, 0⟩

def add (row : Row) (depth : Nat) : Row := ⟨row.count + 1, max row.deepest row.last, depth⟩

/-- Put a level around the last part. -/
def wrap (row : Row) : Row := { row with last := row.last + 1 }

def depth (row : Row) : Nat :=
  if row.count ≤ 1 then row.last else max row.deepest row.last + 1

end Row

/-- The greatest depth of a pattern. -/
def mostDepth : Nat := 250

end Vicinity.Pattern

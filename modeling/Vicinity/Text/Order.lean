/-! # Order of texts

Texts are ordered by the code points of their characters. Rows of texts are ordered by the first
text in which they differ; a row that ends before it differs comes first.
-/

namespace Vicinity.Text

/-- Whether a row stands before another one or is equal to it. -/
def rowLe : List String → List String → Bool
  | [], _ => true
  | _, [] => false
  | a :: as, b :: bs => a < b || (a == b && rowLe as bs)

def sort (texts : List String) : List String := texts.mergeSort fun a b => !(b < a)

def sortRows (rows : List (List String)) : List (List String) := rows.mergeSort rowLe

/-- Entries sorted by their names. -/
def sortByName {A : Type} (entries : List (String × A)) : List (String × A) :=
  entries.mergeSort fun a b => !(b.1 < a.1)

end Vicinity.Text

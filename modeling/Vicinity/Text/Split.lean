/-! # Splitting at a separator

Splitting keeps every part, also the empty ones, so there is always one part more than there are
separators and joining the parts gives the text back.
-/

namespace Vicinity.Text

/-- The parts between the separators, the first of them apart from the rest. -/
def splitParts (separator : Char) : List Char → List Char × List (List Char)
  | [] => ([], [])
  | c :: rest =>
    let (first, others) := splitParts separator rest
    if c = separator then ([], first :: others) else (c :: first, others)

def split (separator : Char) (s : String) : List String :=
  let (first, others) := splitParts separator s.toList
  String.ofList first :: others.map String.ofList

/-- The characters up to the first separator and those after it, if there is one. -/
def cut? (separator : Char) : List Char → Option (List Char × List Char)
  | [] => none
  | c :: rest =>
    if c = separator then some ([], rest)
    else (cut? separator rest).map fun (before, after) => (c :: before, after)

theorem splitParts_join (separator : Char) (cs : List Char) :
    (splitParts separator cs).1 ++ (splitParts separator cs).2.flatMap (separator :: ·) = cs := by
  induction cs with
  | nil => rfl
  | cons c rest ih =>
    rw [splitParts]
    by_cases same : c = separator
    · simp only [same, ↓reduceIte, List.nil_append, List.flatMap_cons, List.cons_append]
      rw [ih]
    · simp only [same, ↓reduceIte, List.cons_append]
      rw [ih]

end Vicinity.Text

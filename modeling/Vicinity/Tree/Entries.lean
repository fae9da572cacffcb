/-! # Entries by name

What a table holds is a list of names with what stands under them. `get?` is the view through which
it is read: the first entry of a name counts, and `put` never makes a second one.
-/

namespace Vicinity

abbrev Entries (A : Type) := List (String × A)

namespace Entries

variable {A : Type}

/-- What stands under a name. -/
def get? (entries : Entries A) (name : String) : Option A := entries.lookup name

/-- Put something under a name; an entry of that name keeps its place. -/
def put (name : String) (value : A) : Entries A → Entries A
  | [] => [(name, value)]
  | (other, old) :: rest =>
    if other = name then (name, value) :: rest else (other, old) :: put name value rest

theorem get?_put (name : String) (value : A) (entries : Entries A) (key : String) :
    (put name value entries).get? key = if key = name then some value else entries.get? key := by
  unfold get?
  induction entries with
  | nil =>
    by_cases same : key = name
    · simp [put, same]
    · simp [put, List.lookup_cons, beq_eq_false_iff_ne.mpr same, same]
  | cons entry rest ih =>
    obtain ⟨other, old⟩ := entry
    by_cases here : other = name
    · by_cases same : key = name
      · simp [put, here, same]
      · simp [put, here, List.lookup_cons, beq_eq_false_iff_ne.mpr same, same]
    · by_cases same : key = other
      · subst same; simp [put, here]
      · simp [put, here, List.lookup_cons, beq_eq_false_iff_ne.mpr same, ih]

end Entries

end Vicinity

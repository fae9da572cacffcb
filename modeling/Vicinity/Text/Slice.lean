/-! # Parts of a text by their places

Places in a text are counted in bytes of UTF-8, from zero. A place inside a character divides
nothing, so a part that would begin or end there does not exist.
-/

namespace Vicinity.Text

/-- The characters of a text with their places, the first of which is given. -/
def placed : Nat → List Char → List (Nat × Char)
  | _, [] => []
  | place, c :: rest => (place, c) :: placed (place + c.utf8Size) rest

/-- The characters in front of a place and those from there on. -/
def divide? : Nat → List Char → Option (List Char × List Char)
  | 0, cs => some ([], cs)
  | _ + 1, [] => none
  | place + 1, c :: rest =>
    if c.utf8Size ≤ place + 1 then
      (divide? (place + 1 - c.utf8Size) rest).map fun (before, after) => (c :: before, after)
    else none

/-- The part of a text from one place up to another. -/
def part? (start stop : Nat) (cs : List Char) : Option (List Char) := do
  let (_, rest) ← divide? start cs
  let (part, _) ← divide? (stop - start) rest
  return part

/-- How many bytes characters take. -/
def width : List Char → Nat
  | [] => 0
  | c :: rest => c.utf8Size + width rest

theorem divide?_width (before after : List Char) :
    divide? (width before) (before ++ after) = some (before, after) := by
  induction before with
  | nil => rw [width, divide?, List.nil_append]
  | cons c rest ih =>
    have positive := c.utf8Size_pos
    obtain ⟨n, place⟩ : ∃ n, width (c :: rest) = n + 1 :=
      ⟨width (c :: rest) - 1, by rw [width]; omega⟩
    have left : n + 1 - c.utf8Size = width rest := by rw [← place, width]; omega
    have fits : c.utf8Size ≤ n + 1 := by rw [← place, width]; omega
    rw [place, List.cons_append, divide?, left, ih]
    simp only [fits, ↓reduceIte, Option.map_some]

theorem eq_of_divide? {place : Nat} {cs before after : List Char}
    (divided : divide? place cs = some (before, after)) :
    before ++ after = cs ∧ width before = place := by
  induction cs generalizing place before after with
  | nil =>
    cases place with
    | zero =>
      simp only [divide?, Option.some.injEq, Prod.mk.injEq] at divided
      obtain ⟨rfl, rfl⟩ := divided
      exact ⟨rfl, rfl⟩
    | succ place => simp [divide?] at divided
  | cons c rest ih =>
    cases place with
    | zero =>
      simp only [divide?, Option.some.injEq, Prod.mk.injEq] at divided
      obtain ⟨rfl, rfl⟩ := divided
      exact ⟨rfl, rfl⟩
    | succ place =>
      rw [divide?] at divided
      split at divided
      · next fits =>
        obtain ⟨⟨first, second⟩, inner, same⟩ := Option.map_eq_some_iff.1 divided
        simp only [Prod.mk.injEq] at same
        obtain ⟨rfl, rfl⟩ := same
        obtain ⟨joined, sized⟩ := ih inner
        refine ⟨by rw [List.cons_append, joined], ?_⟩
        rw [width, sized]
        omega
      · simp at divided

/-- A place divides a text in two exactly where so many bytes stand in front. -/
theorem divide?_eq_some_iff {place : Nat} {cs before after : List Char} :
    divide? place cs = some (before, after) ↔ before ++ after = cs ∧ width before = place := by
  constructor
  · exact eq_of_divide?
  · rintro ⟨rfl, rfl⟩
    exact divide?_width before after

end Vicinity.Text

import Mathlib.Data.List.TakeWhile
import Vicinity.Text.Blank
import Vicinity.Text.Lowercase
import Vicinity.Text.Split

/-! # Parts of a text

The first part of a text that is split ends before the first separator, and parts without separators
come out of a split as they were joined. Trimming takes blanks away at both ends, so it leaves nothing
of a text exactly if all of it is blank, and lower case leaves something of every character.
-/

namespace Vicinity.Text

theorem splitParts_fst (separator : Char) (cs : List Char) :
    (splitParts separator cs).1 = cs.takeWhile (· ≠ separator) := by
  induction cs with
  | nil => rfl
  | cons c rest ih =>
    rw [splitParts, List.takeWhile_cons]
    by_cases same : c = separator
    · simp [same]
    · simp [same, ih]

theorem splitParts_append {separator : Char} {first : List Char} (apart : separator ∉ first)
    (rest : List Char) :
    splitParts separator (first ++ rest) =
      (first ++ (splitParts separator rest).1, (splitParts separator rest).2) := by
  induction first with
  | nil => rfl
  | cons c more ih =>
    rw [List.mem_cons, not_or] at apart
    rw [List.cons_append, splitParts, ih apart.2]
    exact if_neg (Ne.symm apart.1)

/-- Parts that were joined with separators are split as they were. -/
theorem splitParts_joined {separator : Char} {first : List Char} {others : List (List Char)}
    (apart : ∀ part ∈ first :: others, separator ∉ part) :
    splitParts separator (first ++ others.flatMap (separator :: ·)) = (first, others) := by
  induction others generalizing first with
  | nil =>
    rw [splitParts_append (apart first (List.mem_cons_self ..)), List.flatMap_nil, splitParts,
      List.append_nil]
  | cons next more ih =>
    have later := ih fun part member => apart part (List.mem_cons_of_mem _ member)
    rw [splitParts_append (apart first (List.mem_cons_self ..)), List.flatMap_cons,
      List.cons_append, splitParts, later]
    dsimp only
    rw [if_pos rfl, List.append_nil]

theorem notMem_splitParts (separator : Char) (cs : List Char) :
    ∀ part ∈ (splitParts separator cs).1 :: (splitParts separator cs).2, separator ∉ part := by
  induction cs with
  | nil => simp [splitParts]
  | cons c rest ih =>
    rw [splitParts]
    by_cases same : c = separator
    · intro part member
      simp only [same, ↓reduceIte, List.mem_cons] at member
      rcases member with rfl | member
      · exact List.not_mem_nil
      · exact ih part (List.mem_cons.mpr member)
    · intro part member
      simp only [same, ↓reduceIte, List.mem_cons] at member
      rcases member with rfl | member
      · rw [List.mem_cons, not_or]
        exact ⟨Ne.symm same, ih _ (List.mem_cons_self ..)⟩
      · exact ih part (List.mem_cons_of_mem _ member)

theorem trimChars_eq_nil_iff (cs : List Char) : trimChars cs = [] ↔ ∀ c ∈ cs, isBlank c = true := by
  rw [trimChars, List.reverse_eq_nil_iff, List.dropWhile_eq_nil_iff]
  simp only [List.mem_reverse]
  constructor
  · intro blank c member
    rw [← List.takeWhile_append_dropWhile (p := isBlank) (l := cs)] at member
    rcases List.mem_append.mp member with dropped | kept
    · exact List.mem_takeWhile_imp dropped
    · exact blank c kept
  · intro blank c kept
    exact blank c ((List.dropWhile_sublist isBlank).subset kept)

/-- What trimming takes away is blank. -/
theorem trimChars_spec (cs : List Char) :
    ∃ before after, cs = before ++ (trimChars cs ++ after) ∧
      ∀ c ∈ before ++ after, isBlank c = true := by
  refine ⟨cs.takeWhile isBlank, ((cs.dropWhile isBlank).reverse.takeWhile isBlank).reverse,
    ?whole, ?blank⟩
  case whole =>
    have kept : trimChars cs ++ ((cs.dropWhile isBlank).reverse.takeWhile isBlank).reverse =
        cs.dropWhile isBlank := by
      rw [trimChars, ← List.reverse_append, List.takeWhile_append_dropWhile, List.reverse_reverse]
    rw [kept, List.takeWhile_append_dropWhile]
  case blank =>
    intro c member
    rcases List.mem_append.mp member with early | late
    · exact List.mem_takeWhile_imp early
    · exact List.mem_takeWhile_imp (List.mem_reverse.mp late)

/-- What has no blanks in it is left as it is when blanks around it are trimmed. -/
theorem trimChars_around {before core after : List Char}
    (blank : ∀ c ∈ before ++ after, isBlank c = true) (solid : ∀ c ∈ core, isBlank c = false) :
    trimChars (before ++ (core ++ after)) = core := by
  have early : ∀ c ∈ before, isBlank c = true := fun c member =>
    blank c (List.mem_append_left _ member)
  have late : ∀ c ∈ after.reverse, isBlank c = true := fun c member =>
    blank c (List.mem_append_right _ (List.mem_reverse.mp member))
  have stays {cs : List Char} (solid : ∀ c ∈ cs, isBlank c = false) : cs.dropWhile isBlank = cs := by
    cases cs with
    | nil => rfl
    | cons c rest =>
      exact List.dropWhile_cons_of_neg (Bool.eq_false_iff.mp (solid c (List.mem_cons_self ..)))
  cases core with
  | nil =>
    rw [List.nil_append, trimChars_eq_nil_iff]
    exact blank
  | cons c rest =>
    have first : isBlank c ≠ true := Bool.eq_false_iff.mp (solid c (List.mem_cons_self ..))
    have backwards : ∀ d ∈ (c :: rest).reverse, isBlank d = false := fun d member =>
      solid d (List.mem_reverse.mp member)
    rw [trimChars, List.dropWhile_append_of_pos early, List.cons_append,
      List.dropWhile_cons_of_neg first, ← List.cons_append, List.reverse_append,
      List.dropWhile_append_of_pos late, stays backwards, List.reverse_reverse]

theorem trim_eq_empty_iff (s : String) : trim s = "" ↔ ∀ c ∈ s.toList, isBlank c = true := by
  rw [trim, ← trimChars_eq_nil_iff, ← String.toList_inj, String.toList_ofList]
  rfl

theorem lowerChar_ne_nil (c : Char) : lowerChar c ≠ [] := by
  unfold lowerChar
  split
  · exact List.cons_ne_nil _ _
  · split
    · exact List.cons_ne_nil _ _
    · exact List.cons_ne_nil _ _

theorem lowerFrom_cons_ne_nil (before : List Char) (c : Char) (after : List Char) :
    lowerFrom before (c :: after) ≠ [] := by
  rw [lowerFrom]
  refine List.append_ne_nil_of_left_ne_nil ?_ _
  split
  · split
    · exact List.cons_ne_nil _ _
    · exact List.cons_ne_nil _ _
  · exact lowerChar_ne_nil c

theorem toList_lowercase_ne_nil {s : String} (written : s ≠ "") : (lowercase s).toList ≠ [] := by
  rw [lowercase, String.toList_ofList, lowerChars]
  cases listed : s.toList with
  | nil => exact absurd (String.toList_inj.mp listed) written
  | cons c rest => exact lowerFrom_cons_ne_nil [] c rest

end Vicinity.Text

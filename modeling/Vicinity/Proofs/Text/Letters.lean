import Mathlib.Data.List.Forall2
import Mathlib.Tactic.ByContra
import Vicinity.Text.Lowercase

/-! # Lower case and the Latin alphabet

Of the characters outside ASCII only two have a letter of the Latin alphabet in their lower case: the
Kelvin sign, whose lower case is a k, and the capital I with a dot, whose lower case has the dot
beside it. So a text in ASCII without a k is the lower case of the texts that differ from it in the
case of Latin letters, and of no other.
-/

namespace Vicinity.Text

/-- Two texts differ in the case of letters of the Latin alphabet at most. -/
def SameLetters (cs ds : List Char) : Prop := cs.map Char.toLower = ds.map Char.toLower

instance (cs ds : List Char) : Decidable (SameLetters cs ds) :=
  inferInstanceAs (Decidable (cs.map Char.toLower = ds.map Char.toLower))

/-- A character of ASCII other than a small k. -/
def IsPlain (c : Char) : Prop := c.toNat < 128 ∧ c ≠ 'k'

instance (c : Char) : Decidable (IsPlain c) := inferInstanceAs (Decidable (_ ∧ _))

/-- A text of such characters. -/
def AllPlain (word : List Char) : Prop := ∀ c ∈ word, IsPlain c

-- Given by name, since an instance that runs through all characters there are may be found first.
instance (word : List Char) : Decidable (AllPlain word) := List.decidableBAll _ _

/-! ## Single characters -/

theorem toLower_of_large {c : Char} (large : 128 ≤ c.toNat) : c.toLower = c := by
  have beyond : ¬ (c.val ≥ 'A'.val ∧ c.val ≤ 'Z'.val) := by
    rintro ⟨-, last⟩
    have bound : c.toNat ≤ 90 := UInt32.le_iff_toNat_le.mp last
    omega
  exact dif_neg beyond

theorem toNat_lt_of_toLower {c : Char} (small : c.toLower.toNat < 128) : c.toNat < 128 := by
  by_contra large
  rw [toLower_of_large (Nat.le_of_not_lt large)] at small
  exact large small

/-- What holds of each character of ASCII by its number holds of all of them. -/
theorem ascii_cases {P : Char → Prop} (listed : ∀ code < 128, P (Char.ofNat code)) {c : Char}
    (small : c.toNat < 128) : P c := by
  have one := listed c.toNat small
  rwa [Char.ofNat_toNat] at one

theorem lowerChar_of_small {c : Char} (small : c.toNat < 128) : lowerChar c = [c.toLower] :=
  ascii_cases (P := fun c => lowerChar c = [c.toLower]) (by decide +kernel) small

/-- The characters of a run have lower cases, and all of these lie beyond ASCII. -/
def CaseRun.IsFar (run : CaseRun) : Prop :=
  128 ≤ run.first + run.shift ∧
    (run.last + run.shift < 0xD800 ∨
      0xDFFF < run.first + run.shift ∧ run.last + run.shift < 0x110000)

instance (run : CaseRun) : Decidable run.IsFar := inferInstanceAs (Decidable (_ ∧ _))

private theorem runs_cases : ∀ run ∈ lowerCaseRuns,
    run.IsFar ∨ run.last < 128 ∨ run = ⟨0x212A, 0x212A, 1, -8383⟩ := by
  decide +kernel

theorem CaseRun.IsFar.large {run : CaseRun} (far : run.IsFar) {code : Nat}
    (holds : run.holds code = true) : 128 ≤ (Char.ofNat ((code : Int) + run.shift).toNat).toNat := by
  simp only [CaseRun.holds, Bool.and_eq_true, decide_eq_true_eq] at holds
  obtain ⟨⟨first, last⟩, -⟩ := holds
  obtain ⟨large, valid⟩ := far
  have isValid : ((code : Int) + run.shift).toNat.isValidChar := by
    unfold Nat.isValidChar
    omega
  have same : (Char.ofNat ((code : Int) + run.shift).toNat).toNat =
      ((code : Int) + run.shift).toNat := by
    rw [Char.ofNat, dif_pos isValid]
    rfl
  omega

/-- One way to write a character in lower case: an ASCII character becomes its small letter, and any
other leaves something that is not plain. -/
inductive Lowers (c : Char) : List Char → Prop
  | ascii (small : c.toNat < 128) : Lowers c [c.toLower]
  | beyond {lowered : List Char} (large : 128 ≤ c.toNat) {rest : Char} (member : rest ∈ lowered)
      (odd : ¬ IsPlain rest) : Lowers c lowered

theorem lowers_lowerChar (c : Char) : Lowers c (lowerChar c) := by
  by_cases small : c.toNat < 128
  · rw [lowerChar_of_small small]
    exact .ascii small
  · have large : 128 ≤ c.toNat := Nat.le_of_not_lt small
    rw [lowerChar]
    split
    case isTrue => exact .beyond large (List.mem_cons_of_mem _ (List.mem_cons_self ..)) (by decide)
    case isFalse =>
      split
      case h_2 => exact .beyond large (List.mem_singleton_self c) fun plain => small plain.1
      case h_1 run found =>
        have holds : run.holds c.toNat = true := by
          have passes := List.find?_some found
          exact passes
        refine .beyond large (List.mem_singleton_self _) fun plain => ?_
        rcases runs_cases run (List.mem_of_find?_eq_some found) with far | near | rfl
        · exact absurd (far.large holds) (Nat.not_le_of_lt plain.1)
        · simp only [CaseRun.holds, Bool.and_eq_true, decide_eq_true_eq] at holds
          omega
        · -- The Kelvin sign is all that this run holds.
          simp only [CaseRun.holds, Bool.and_eq_true, decide_eq_true_eq] at holds
          have kelvin : c.toNat = 0x212A := by omega
          rw [kelvin] at plain
          exact absurd plain (by decide)

/-! ## Texts -/

/-- What is left of characters in lower case, one after another, if all of it is plain. -/
theorem flatten_eq_of_plain {cs : List Char} {lowered : List (List Char)}
    (lowers : List.Forall₂ Lowers cs lowered) (plain : AllPlain lowered.flatten) :
    lowered.flatten = cs.map Char.toLower := by
  induction lowers with
  | nil => rfl
  | @cons c first cs others lower _ ih =>
    rw [List.flatten_cons] at plain ⊢
    have later := ih fun d member => plain d (List.mem_append_right _ member)
    cases lower with
    | ascii small => rw [later, List.map_cons, List.singleton_append]
    | beyond _ member odd => exact absurd (plain _ (List.mem_append_left _ member)) odd

theorem flatten_eq_of_ascii {cs : List Char} {lowered : List (List Char)}
    (lowers : List.Forall₂ Lowers cs lowered) (ascii : ∀ c ∈ cs.map Char.toLower, c.toNat < 128) :
    lowered.flatten = cs.map Char.toLower := by
  induction lowers with
  | nil => rfl
  | @cons c first cs others lower _ ih =>
    rw [List.map_cons] at ascii ⊢
    rw [List.flatten_cons, ih fun d member => ascii d (List.mem_cons_of_mem _ member)]
    cases lower with
    | ascii small => exact List.singleton_append
    | beyond large member odd =>
      have small := toNat_lt_of_toLower (ascii _ (List.mem_cons_self ..))
      exact absurd large (Nat.not_le_of_lt small)

theorem lowers_map (cs : List Char) : List.Forall₂ Lowers cs (cs.map lowerChar) := by
  rw [List.forall₂_map_right_iff]
  exact List.forall₂_same.mpr fun c _ => lowers_lowerChar c

/-- Character by character, a plain text is the lower case of what has the same letters. -/
theorem flatMap_lowerChar_eq_iff {word : List Char} (plain : AllPlain word)
    (cs : List Char) : cs.flatMap lowerChar = word ↔ cs.map Char.toLower = word := by
  rw [List.flatMap_def]
  constructor
  · intro same
    rw [← same] at plain ⊢
    exact (flatten_eq_of_plain (lowers_map cs) plain).symm
  · intro same
    rw [← same] at plain ⊢
    exact flatten_eq_of_ascii (lowers_map cs) fun c member => (plain c member).1

theorem lowers_lowerFrom (before cs : List Char) :
    ∃ lowered, List.Forall₂ Lowers cs lowered ∧ lowerFrom before cs = lowered.flatten := by
  induction cs generalizing before with
  | nil => exact ⟨[], .nil, rfl⟩
  | cons c after ih =>
    obtain ⟨later, lowers, same⟩ := ih (c :: before)
    rw [lowerFrom, same]
    split
    case isFalse => exact ⟨lowerChar c :: later, .cons (lowers_lowerChar c) lowers, rfl⟩
    case isTrue sigma =>
      -- Neither form of the small sigma is plain, so the neighbours do not matter.
      have large : 128 ≤ c.toNat := by
        rw [sigma]
        decide
      split
      case isTrue =>
        exact ⟨['ς'] :: later,
          .cons (.beyond large (List.mem_singleton_self _) (by decide)) lowers, rfl⟩
      case isFalse =>
        exact ⟨['σ'] :: later,
          .cons (.beyond large (List.mem_singleton_self _) (by decide)) lowers, rfl⟩

/-- The lower case of a text begins a plain text if and only if the text does, but for the case of
Latin letters. -/
theorem lowerChars_prefix_iff {word : List Char} (plain : AllPlain word) (cs : List Char) :
    lowerChars cs <+: word ↔ cs.map Char.toLower <+: word := by
  obtain ⟨lowered, lowers, same⟩ := lowers_lowerFrom [] cs
  rw [lowerChars, same]
  constructor
  · intro starts
    rwa [← flatten_eq_of_plain lowers fun c member => plain c (starts.subset member)]
  · intro starts
    rwa [flatten_eq_of_ascii lowers fun c member => (plain c (starts.subset member)).1]

end Vicinity.Text

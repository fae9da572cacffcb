import Vicinity.Dyconit.Descriptor
import Vicinity.Proofs.Text.Parts

/-! # Names of families

A name fits a family if it is a part from the start of the family's name, letter case apart. The names
of the families begin with different letters, so a name that is not blank fits one family at most, and
in which order the families are tried makes no difference.
-/

namespace Vicinity.Dyconit

namespace Family

theorem mem_all (family : Family) : family ∈ all := by
  cases family <;> decide

/-- The letter with which a family's name begins, in lower case. -/
def initial : Family → Char
  | chunk => 'c'
  | zero => 'z'
  | infinite => 'i'
  | single => 's'
  | quadratic => 'q'

theorem eq_of_initial_eq {family other : Family} (same : family.initial = other.initial) :
    family = other := by
  cases family <;> cases other <;> revert same <;> decide

theorem head?_lowercase_name (family : Family) :
    (Text.lowercase family.name).toList.head? = some family.initial := by
  cases family <;> decide +kernel

end Family

namespace Descriptor

/-- The part before the first semicolon is blank. -/
def Unnamed (s : String) : Prop := ∀ c ∈ s.toList.takeWhile (· ≠ ';'), Text.isBlank c = true

-- Given by name, since an instance that runs through all characters there are may be found first.
instance (s : String) : Decidable (Unnamed s) := List.decidableBAll _ _

theorem name_ofString_eq_empty_iff (s : String) : (ofString s).name = "" ↔ Unnamed s := by
  change Text.trim (String.ofList (Text.splitParts ';' s.toList).1) = "" ↔ _
  rw [Text.trim_eq_empty_iff, String.toList_ofList, Text.splitParts_fst]
  rfl

/-- The name of a descriptor is a part from the start of a family's name, letter case apart. -/
def Fits (d : Descriptor) (family : Family) : Prop :=
  (Text.lowercase d.name).toList <+: (Text.lowercase family.name).toList

instance (d : Descriptor) (family : Family) : Decidable (d.Fits family) :=
  inferInstanceAs (Decidable ((Text.lowercase d.name).toList <+: (Text.lowercase family.name).toList))

/-- A name begins as the names of the families that it fits. -/
theorem Fits.initial_eq {d : Descriptor} {family : Family} (fits : d.Fits family)
    (named : d.name ≠ "") : (Text.lowercase d.name).toList.head? = some family.initial := by
  obtain ⟨rest, whole⟩ := fits
  rw [← Family.head?_lowercase_name family, ← whole]
  cases listed : (Text.lowercase d.name).toList with
  | nil => exact absurd listed (Text.toList_lowercase_ne_nil named)
  | cons c others => rfl

theorem Fits.eq {d : Descriptor} {family other : Family} (fits : d.Fits family)
    (named : d.name ≠ "") (also : d.Fits other) : family = other :=
  Family.eq_of_initial_eq
    (Option.some.inj ((fits.initial_eq named).symm.trans (also.initial_eq named)))

/-- The first of some families that a descriptor's name fits. -/
def familyAmong (families : List Family) (d : Descriptor) : Option Family :=
  if d.name = "" then none else families.find? fun family => d.Fits family

theorem family?_eq_familyAmong (d : Descriptor) : d.family? = d.familyAmong Family.all := by
  have test (family : Family) : (Text.lowercase d.name).toList.isPrefixOf
      (Text.lowercase family.name).toList = decide (d.Fits family) := by
    rw [Bool.eq_iff_iff, List.isPrefixOf_iff_prefix, decide_eq_true_eq]
    rfl
  simp only [family?, familyAmong, test]

theorem familyAmong_eq_some_iff {families : List Family} (complete : ∀ family, family ∈ families)
    {d : Descriptor} (named : d.name ≠ "") (family : Family) :
    d.familyAmong families = some family ↔ d.Fits family := by
  rw [familyAmong, if_neg named]
  constructor
  · intro found
    have fits := List.find?_some found
    exact of_decide_eq_true fits
  · intro fits
    cases found : families.find? fun other => d.Fits other with
    | none =>
      have unfit := List.find?_eq_none.mp found family (complete family)
      exact absurd (decide_eq_true fits) unfit
    | some other =>
      have also := List.find?_some found
      rw [fits.eq named (of_decide_eq_true also)]

/-- The families may be tried in any order. -/
theorem familyAmong_eq_family? {families : List Family} (complete : ∀ family, family ∈ families)
    (d : Descriptor) : d.familyAmong families = d.family? := by
  rw [family?_eq_familyAmong]
  by_cases named : d.name = ""
  · rw [familyAmong, familyAmong, if_pos named, if_pos named]
  · refine Option.ext fun family => ?_
    rw [familyAmong_eq_some_iff complete named, familyAmong_eq_some_iff Family.mem_all named]

end Descriptor

end Vicinity.Dyconit

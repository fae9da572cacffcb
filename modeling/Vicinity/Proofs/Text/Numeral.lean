import Mathlib.Data.List.Basic
import Vicinity.Text.Numeral

/-! # Numerals read back

A numeral that was written is read as the number it was written for, so two numbers never share a
numeral. Signs and digits are the only characters in it.
-/

namespace Vicinity.Numeral

theorem digitValue?_digitChar : ∀ d < 10, digitValue? (digitChar d) = some d := by
  decide

/-- Only the character of a digit has its value. -/
theorem digitValue?_eq_some_iff {c : Char} {d : Nat} :
    digitValue? c = some d ↔ d < 10 ∧ c = digitChar d := by
  constructor
  · intro read
    rw [digitValue?] at read
    split at read
    case isFalse => contradiction
    case isTrue within =>
      have first : 48 ≤ c.toNat := UInt32.le_iff_toNat_le.mp within.1
      have last : c.toNat ≤ 57 := UInt32.le_iff_toNat_le.mp within.2
      obtain rfl := Option.some.inj read
      refine ⟨by omega, ?_⟩
      rw [digitChar, show 48 + (c.toNat - 48) = c.toNat by omega, Char.ofNat_toNat]
  · rintro ⟨small, rfl⟩
    exact digitValue?_digitChar d small

theorem digits_ne_nil (n : Nat) : digits n ≠ [] := by
  rw [digits]
  split <;> simp

theorem mapM_digitValue? {ds : List Nat} (small : ∀ d ∈ ds, d < 10) :
    (ds.map digitChar).mapM digitValue? = some ds := by
  induction ds with
  | nil => rfl
  | cons d rest ih =>
    have first := digitValue?_digitChar d (small d (List.mem_cons_self ..))
    have later := ih fun other member => small other (List.mem_cons_of_mem _ member)
    rw [List.map_cons, List.mapM_cons, first, later]
    rfl

theorem natural?_natural (n : Nat) : natural? (natural n).toList = some n := by
  have read := mapM_digitValue? (digit_lt_ten n)
  rw [natural, String.toList_ofList]
  cases written : (digits n).map digitChar with
  | nil => exact absurd (List.map_eq_nil_iff.mp written) (digits_ne_nil n)
  | cons c rest =>
    rw [natural?, ← written, read, Option.map_some, ofDigits_digits]
    exact nofun

/-- Only digits stand in the numeral of a natural number. -/
theorem digit_of_mem_natural {n : Nat} {c : Char} (member : c ∈ (natural n).toList) :
    ∃ d < 10, c = digitChar d := by
  rw [natural, String.toList_ofList] at member
  obtain ⟨d, there, rfl⟩ := List.mem_map.mp member
  exact ⟨d, digit_lt_ten n d there, rfl⟩

/-- An integer is read from the numeral it was written as. -/
theorem signed?_integer (i : Int) : signed? (integer i).toList = some i := by
  rw [integer]
  split
  · next negative =>
    have read := natural?_natural i.natAbs
    have value : -(i.natAbs : Int) = i := by omega
    rw [String.toList_append, show "-".toList = ['-'] from rfl, List.singleton_append, signed?, read]
    exact congrArg some value
  · next positive =>
    have read := natural?_natural i.natAbs
    have digit (c : Char) := digit_of_mem_natural (n := i.natAbs) (c := c)
    generalize (natural i.natAbs).toList = cs at read digit ⊢
    -- A digit comes first, so the readers of signs pass the numeral on.
    have unsigned : signed? cs = (natural? cs).map Int.ofNat := by
      cases cs with
      | nil => rfl
      | cons c rest =>
        obtain ⟨d, small, rfl⟩ := digit c (List.mem_cons_self ..)
        have plain : ∀ d < 10, digitChar d ≠ '-' ∧ digitChar d ≠ '+' := by decide
        obtain ⟨minus, plus⟩ := plain d small
        rw [signed?, unsigned?]
        · simpa using plus
        · simpa using minus
    rw [unsigned, read, Option.map_some, Option.some.injEq]
    simp only [Int.ofNat_eq_natCast]
    omega

theorem integer_inj {i j : Int} (same : integer i = integer j) : i = j := by
  have read := signed?_integer i
  rw [same, signed?_integer] at read
  exact (Option.some.inj read).symm

/-- Apart from digits, a numeral has a minus at most. -/
theorem notMem_integer {c : Char} (minus : c ≠ '-') (digit : ∀ d < 10, c ≠ digitChar d) (i : Int) :
    c ∉ (integer i).toList := by
  have unwritten (n : Nat) : c ∉ (natural n).toList := by
    intro member
    obtain ⟨d, small, same⟩ := digit_of_mem_natural member
    exact digit d small same
  rw [integer]
  split
  · rw [String.toList_append, show "-".toList = ['-'] from rfl, List.singleton_append, List.mem_cons,
      not_or]
    exact ⟨minus, unwritten _⟩
  · exact unwritten _

end Vicinity.Numeral

import Mathlib.Data.List.Basic
import Vicinity.Json.Read
import Vicinity.Proofs.Text.Numeral
import Vicinity.Proofs.Text.Utf8

/-! # Integers read back

An integer is written as a whole literal without superfluous zeros. Such a literal is read as it was
written where nothing follows that could belong to a number, and the integer is found in it again.
-/

namespace Vicinity

namespace Numeral

/-- A numeral begins with a zero only if it is zero. -/
theorem digits_leading (n : Nat) : digits n = [0] ∨ ∃ d rest, digits n = d :: rest ∧ d ≠ 0 := by
  induction n using Nat.strongRecOn with
  | ind n ih =>
    rw [digits]
    split
    · next small =>
      by_cases zero : n = 0
      · exact .inl (by rw [zero])
      · exact .inr ⟨n, [], rfl, zero⟩
    · next large =>
      right
      rcases ih (n / 10) (by omega) with zero | ⟨d, rest, shape, nonzero⟩
      · have value := ofDigits_digits (n / 10)
        rw [zero] at value
        have none : n / 10 = 0 := value.symm
        omega
      · exact ⟨d, rest ++ [n % 10], by rw [shape, List.cons_append], nonzero⟩

end Numeral

namespace Number.Literal

theorem ofNat_eq_ofInt (n : Nat) : ofNat n = ofInt n := by
  simp [ofNat, ofInt]

/-- The integer of a literal is the one that it was made from. -/
theorem integer?_ofInt (i : Int) : (ofInt i).integer? = some i := by
  have size : (ofInt i).significand = i.natAbs := by
    rw [significand, ofInt, List.append_nil, Numeral.ofDigits_digits]
  have whole : (ofInt i).isWhole = true := rfl
  have sign : (ofInt i).negative = decide (i < 0) := rfl
  rw [integer?, whole, size, sign]
  by_cases negative : i < 0
  · have nonzero : i.natAbs ≠ 0 := by omega
    have value : -(i.natAbs : Int) = i := by omega
    rw [decide_eq_true negative, beq_false_of_ne nonzero]
    exact congrArg some value
  · have value : (i.natAbs : Int) = i := by omega
    rw [decide_eq_false negative]
    exact congrArg some value

end Number.Literal

namespace RawJson

open Number Text

/-- Nothing at the front belongs to a number. -/
def Ends (rest : List UInt8) : Prop :=
  ∀ b, rest.head? = some b →
    digit? b = none ∧ b ≠ ascii '.' ∧ b ≠ ascii 'e' ∧ b ≠ ascii 'E'

theorem ends_nil : Ends [] := fun _ head => absurd head.symm (Option.some_ne_none _)

theorem ends_cons {b : UInt8} (rest : List UInt8)
    (apart : digit? b = none ∧ b ≠ ascii '.' ∧ b ≠ ascii 'e' ∧ b ≠ ascii 'E') :
    Ends (b :: rest) := by
  rintro _ ⟨⟩
  exact apart

def digitBytes (ds : List Nat) : List UInt8 := ds.map fun d => ascii (Numeral.digitChar d)

theorem digit?_digitByte : ∀ d < 10, digit? (ascii (Numeral.digitChar d)) = some d := by
  decide

variable {ds : List Nat} {rest : List UInt8}

theorem encode_digitText (small : ∀ d ∈ ds, d < 10) :
    encode (Literal.digitText ds).toList = digitBytes ds := by
  have ascii : ∀ d < 10, (Numeral.digitChar d).toNat < 128 := by decide
  rw [Literal.digitText, String.toList_ofList]
  induction ds with
  | nil => rfl
  | cons d ds ih =>
    have first := utf8EncodeChar_ascii (ascii d (small d (List.mem_cons_self ..)))
    have later := ih fun other member => small other (List.mem_cons_of_mem _ member)
    rw [List.map_cons, encode_cons, first, later]
    rfl

theorem digits_cons {b : UInt8} {d : Nat} (value : digit? b = some d) (input : List UInt8) :
    digits (b :: input) = (d :: (digits input).1, (digits input).2) := by
  simp [digits, value]

/-- Digits are read up to something else. -/
theorem digits_digitBytes (small : ∀ d ∈ ds, d < 10) (ends : Ends rest) :
    digits (digitBytes ds ++ rest) = (ds, rest) := by
  induction ds with
  | nil =>
    cases rest with
    | nil => rfl
    | cons b rest =>
      obtain ⟨apart, -⟩ := ends b rfl
      simp [digits, digitBytes, apart]
  | cons d ds ih =>
    have first := digit?_digitByte d (small d (List.mem_cons_self ..))
    have later := ih fun other member => small other (List.mem_cons_of_mem _ member)
    change digits (_ :: (digitBytes ds ++ rest)) = _
    rw [digits_cons first, later]

theorem fractionPart_of_ends (ends : Ends rest) : fractionPart rest = some ([], rest) := by
  cases rest with
  | nil => rfl
  | cons b rest =>
    obtain ⟨-, point, -, -⟩ := ends b rfl
    simp [fractionPart, point]

theorem exponentPart_of_ends (ends : Ends rest) : exponentPart rest = some (none, rest) := by
  cases rest with
  | nil => rfl
  | cons b rest =>
    obtain ⟨-, -, small, capital⟩ := ends b rfl
    simp [exponentPart, small, capital]

theorem wholePart_digitBytes (n : Nat) (ends : Ends rest) :
    wholePart (digitBytes (Numeral.digits n) ++ rest) = some (Numeral.digits n, rest) := by
  have read := digits_digitBytes (Numeral.digit_lt_ten n) ends
  unfold wholePart
  rcases Numeral.digits_leading n with zero | ⟨d, ds, shape, nonzero⟩
  · rw [read, zero]
    rfl
  · rw [read, shape]
    cases d with
    | zero => exact absurd rfl nonzero
    | succ d => rfl

/-- An integer is written as its digits, with a minus before them if it is negative. -/
theorem encode_ofInt (i : Int) :
    encode (Literal.ofInt i).render.toList =
      (if i < 0 then [ascii '-'] else []) ++ digitBytes (Numeral.digits i.natAbs) := by
  have digits := encode_digitText (Numeral.digit_lt_ten i.natAbs)
  have text : (Literal.ofInt i).render =
      (if i < 0 then "-" else "") ++ Literal.digitText (Numeral.digits i.natAbs) := by
    simp [Literal.render, Literal.ofInt]
  rw [text, String.toList_append, encode_append, digits]
  split <;> rfl

theorem digitBytes_head (n : Nat) :
    ∃ b front, digitBytes (Numeral.digits n) = b :: front ∧ b ≠ ascii '-' := by
  have plain : ∀ d < 10, ascii (Numeral.digitChar d) ≠ ascii '-' := by decide
  obtain ⟨d, ds, shape⟩ := List.exists_cons_of_ne_nil (Numeral.digits_ne_nil n)
  have small := Numeral.digit_lt_ten n d (shape ▸ List.mem_cons_self ..)
  exact ⟨_, digitBytes ds, congrArg digitBytes shape, plain d small⟩

/-- An integer is read as the literal it was written as. -/
theorem literal_ofInt (i : Int) (ends : Ends rest) :
    literal (encode (Literal.ofInt i).render.toList ++ rest) = some (.ofInt i, rest) := by
  have whole := wholePart_digitBytes i.natAbs ends
  rw [encode_ofInt]
  by_cases negative : i < 0
  · simp [literal, negative, whole, fractionPart_of_ends ends, exponentPart_of_ends ends,
      Literal.ofInt]
  · obtain ⟨b, front, shape, plain⟩ := digitBytes_head i.natAbs
    rw [shape] at whole
    simp only [List.cons_append] at whole
    simp [literal, negative, shape, plain, whole, fractionPart_of_ends ends,
      exponentPart_of_ends ends, Literal.ofInt]

end RawJson

end Vicinity

/-! # Decimal numerals

A natural number is written with the fewest decimal digits and an integer with a leading minus when
it is negative; no plus sign and no leading zeros are ever written. `ofDigits_digits` says that the
digits denote the number they were taken from, so two numbers never share a numeral.
-/

namespace Vicinity.Numeral

/-- The decimal digits of a number, the highest first; zero has the one digit zero. -/
def digits (n : Nat) : List Nat :=
  if n < 10 then [n] else digits (n / 10) ++ [n % 10]
termination_by n

/-- The number a list of digits denotes. -/
def ofDigits (ds : List Nat) : Nat :=
  ds.foldl (fun value digit => value * 10 + digit) 0

theorem ofDigits_digits (n : Nat) : ofDigits (digits n) = n := by
  induction n using Nat.strongRecOn with
  | ind n ih =>
    rw [digits]
    split
    · simp [ofDigits]
    · next large =>
      have shorter := ih (n / 10) (by omega)
      rw [ofDigits] at shorter ⊢
      rw [List.foldl_append, shorter]
      simp only [List.foldl_cons, List.foldl_nil]
      omega

theorem digit_lt_ten (n : Nat) : ∀ d ∈ digits n, d < 10 := by
  induction n using Nat.strongRecOn with
  | ind n ih =>
    rw [digits]
    split
    · next small => simpa using small
    · next large =>
      intro d there
      rcases List.mem_append.1 there with inner | last
      · exact ih (n / 10) (by omega) d inner
      · obtain rfl : d = n % 10 := by simpa using last
        omega

/-- The character of a digit. -/
def digitChar (d : Nat) : Char := Char.ofNat (48 + d)

def natural (n : Nat) : String := String.ofList ((digits n).map digitChar)

def integer (i : Int) : String :=
  if i < 0 then "-" ++ natural i.natAbs else natural i.natAbs

/-- The value of a decimal digit character. -/
def digitValue? (c : Char) : Option Nat :=
  if '0' ≤ c ∧ c ≤ '9' then some (c.toNat - 48) else none

/-- A number read from decimal digits alone; at least one digit is required. -/
def natural? (cs : List Char) : Option Nat :=
  match cs with
  | [] => none
  | _ => (cs.mapM digitValue?).map ofDigits

/-- A natural number with perhaps a plus sign before it. -/
def unsigned? : List Char → Option Nat
  | '+' :: ds => natural? ds
  | ds => natural? ds

/-- An integer with perhaps a sign before it. -/
def signed? : List Char → Option Int
  | '-' :: ds => (natural? ds).map fun n => -(n : Int)
  | ds => (unsigned? ds).map Int.ofNat

/-- The value of a hexadecimal digit, in either case. -/
def hexValue? (c : Char) : Option Nat :=
  if '0' ≤ c ∧ c ≤ '9' then some (c.toNat - 48)
  else if 'a' ≤ c ∧ c ≤ 'f' then some (c.toNat - 87)
  else if 'A' ≤ c ∧ c ≤ 'F' then some (c.toNat - 55)
  else none

/-- The hexadecimal digit characters of a number, in lower case and without leading zeros. -/
def hexadecimal (n : Nat) : List Char := Nat.toDigits 16 n

end Vicinity.Numeral

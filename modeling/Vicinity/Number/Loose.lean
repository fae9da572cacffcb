import Vicinity.Number.Literal

/-! # Floating-point numbers written loosely

Digits may be missing on one side of the point, a sign and an exponent may be there, and infinity
and the value that is not a number have names, in any letter case. A number beyond the largest
counts as infinite.
-/

namespace Vicinity.Number

def infinity : Float := 1.0 / 0.0

def notANumber : Float := 0.0 / 0.0

/-- The decimal digits at the front of a text, and what follows them. -/
def leadingDigits (cs : List Char) : List Nat × List Char :=
  (cs.takeWhile Char.isDigit |>.filterMap Numeral.digitValue?, cs.dropWhile Char.isDigit)

/-- An exponent at the end of a number; none counts as zero. -/
def looseExponent? : List Char → Option Int
  | [] => some 0
  | c :: rest => if c == 'e' || c == 'E' then Numeral.signed? rest else none

/-- A number in digits, without a sign. -/
def looseDigits? (cs : List Char) : Option Float :=
  let (whole, rest) := leadingDigits cs
  let (fraction, rest) := match rest with
    | '.' :: rest => leadingDigits rest
    | _ => ([], rest)
  if whole.isEmpty && fraction.isEmpty then none
  else
    (looseExponent? rest).map fun exponent =>
      (Literal.nearest? (Numeral.ofDigits (whole ++ fraction)) (exponent - fraction.length)).getD
        infinity

/-- A number without a sign, in digits or by its name. -/
def looseMagnitude? (cs : List Char) : Option Float :=
  let word := String.ofList (cs.map Char.toLower)
  if word = "inf" ∨ word = "infinity" then some infinity
  else if word = "nan" then some notANumber
  else looseDigits? cs

def loose? : List Char → Option Float
  | '-' :: rest => (looseMagnitude? rest).map fun value => -value
  | '+' :: rest => looseMagnitude? rest
  | cs => looseMagnitude? cs

/-- How a number is written where no exponent is wanted and a point only before digits. -/
def plainLayout : Layout := ⟨-10000, 10000, false⟩

/-- A floating-point number as a text, of which `loose?` gives it back. -/
def plain (value : Float) : String :=
  if value.isNaN then "NaN"
  else if value.isInf then if value < 0.0 then "-inf" else "inf"
  else (plainLayout.ofFloat value).render

end Vicinity.Number

/-! # The shortest decimal for a binary number

A binary number `m · 2^q` stands for all reals that round to it: those from halfway to the number
below up to halfway to the number above, the ends included if `m` is even. Its shortest decimal is
the multiple of the greatest power of ten that has a multiple in this interval; of two multiples the
nearer one, and of two equally near ones the even one. All comparisons are made in natural numbers.
-/

namespace Vicinity.Number

/-- A positive number in binary: `mantissa · 2^exponent`. -/
structure Binary where
  mantissa : Nat
  exponent : Int
deriving DecidableEq, Repr, Inhabited

/-- A number in decimal: `digits · 10^exponent`. -/
structure Decimal where
  digits : Nat
  exponent : Int
deriving DecidableEq, Repr, Inhabited

namespace Binary

/-- The mantissa of the smallest number of each binade. -/
def leastNormal : Nat := 0x10000000000000

/-- The least exponent, that of the subnormal numbers. -/
def leastExponent : Int := -1074

/-- The absolute value of a finite floating-point number, from its bits. -/
def ofBits (bits : UInt64) : Binary :=
  let stored := ((bits >>> 52) &&& 0x7FF).toNat
  let fraction := (bits &&& 0xFFFFFFFFFFFFF).toNat
  if stored = 0 then ⟨fraction, leastExponent⟩ else ⟨fraction + leastNormal, stored - 1075⟩

/-- Four times the mantissa: quarters of the last binary place are the unit of the interval. -/
def middle (b : Binary) : Nat := 4 * b.mantissa

/-- The lower end of the interval, in quarters; just above a power of two the gap is half as
wide. -/
def lower (b : Binary) : Nat :=
  if b.mantissa = leastNormal ∧ b.exponent ≠ leastExponent then b.middle - 1 else b.middle - 2

/-- The upper end of the interval, in quarters. -/
def upper (b : Binary) : Nat := b.middle + 2

/-- A power with an exponent that may be negative, as a numerator and a denominator. -/
def powers (base : Nat) (exponent : Int) : Nat × Nat :=
  (base.pow exponent.toNat, base.pow (-exponent).toNat)

/-- A quarter of the last binary place and the step `10^k`, in one unit that divides both. -/
def scales (b : Binary) (k : Int) : Nat × Nat :=
  let (binary, binaryBelow) := powers 2 (b.exponent - 2)
  let (decimal, decimalBelow) := powers 10 k
  (binary * decimalBelow, decimal * binaryBelow)

/-- Whether the multiple `d · step` lies in the interval. -/
def covers (b : Binary) (quarter step d : Nat) : Bool :=
  if b.mantissa % 2 = 0 then b.lower * quarter ≤ d * step && d * step ≤ b.upper * quarter
  else b.lower * quarter < d * step && d * step < b.upper * quarter

/-- The multiple of `10^k` in the interval that is nearest to the number, if there is one. -/
def multiple? (b : Binary) (k : Int) : Option Nat :=
  let (quarter, step) := b.scales k
  let below := b.middle * quarter / step
  let gapBelow := b.middle * quarter - below * step
  let gapAbove := (below + 1) * step - b.middle * quarter
  match b.covers quarter step below, b.covers quarter step (below + 1) with
  | true, true =>
    if gapBelow < gapAbove then some below
    else if gapAbove < gapBelow then some (below + 1)
    else if below % 2 = 0 then some below else some (below + 1)
  | true, false => some below
  | false, true => some (below + 1)
  | false, false => none

/-- The exponents of ten that are tried, from above the largest number down to below the
smallest. -/
def candidates : List Int := (List.range 650).map fun (i : Nat) => (310 : Int) - i

/-- The shortest decimal for a number that is not zero. -/
def shortest (b : Binary) : Decimal :=
  (candidates.findSome? fun k => (b.multiple? k).map fun d => ⟨d, k⟩).getD ⟨0, 0⟩

end Binary

end Vicinity.Number

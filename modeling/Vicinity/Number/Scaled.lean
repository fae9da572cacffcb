import Vicinity.Number.Literal
import Vicinity.Number.Range

/-! # Literals scaled by powers of ten

A literal can be turned into a floating-point number by arithmetic alone: its digits, as far as they
fit a word of 64 bits, become a number, and that is multiplied or divided by a power of ten. Both
steps round, so the result may be a neighbour of the number nearest to the literal when there are
more digits than a floating-point number holds or the power is not exact. A literal beyond the
largest number denotes none.
-/

namespace Vicinity.Number.Literal

/-- Append digits to a number up to the first one that no longer fits 64 bits; the digits from there
on are left over. -/
def gather (value : Nat) : List Nat → Nat × List Nat
  | [] => (value, [])
  | d :: rest =>
    if value * 10 + d < UInt64.size then gather (value * 10 + d) rest else (value, d :: rest)

/-- The greatest power of ten that is a floating-point number. -/
def mostPlaces : Nat := 308

def powerOfTen (places : Nat) : Float := Float.ofScientific 1 false places

/-- Divide by a power of ten, step by step if it is too great. -/
def divide (value : Float) (places : Nat) : Float :=
  if places ≤ mostPlaces then value / powerOfTen places
  else if value == 0.0 then value
  else divide (value / powerOfTen mostPlaces) (places - mostPlaces)
termination_by places
decreasing_by simp only [mostPlaces] at *; omega

/-- Multiply by a power of ten, if the product is finite. -/
def multiply? (value : Float) (places : Nat) : Option Float :=
  if mostPlaces < places then if value == 0.0 then some value else none
  else
    let product := value * powerOfTen places
    if product.isInf then none else some product

/-- The floating-point number that comes from scaling the digits, if it is finite. -/
def scaled? (l : Literal) : Option Float :=
  let (front, leftWhole) := gather 0 l.whole
  let (word, leftFraction) := gather front l.fraction
  let places : Int :=
    l.exponent.getD 0 + leftWhole.length - (l.fraction.length - leftFraction.length)
  let value := (UInt64.ofNat word).toFloat
  let magnitude :=
    if places < 0 then some (divide value places.natAbs) else multiply? value places.toNat
  magnitude.map fun value => if l.negative then -value else value

/-- Whether a literal stands for a finite number. An integer that fits a word of 64 bits is kept as
the integer that it is; any other literal counts as a floating-point number. -/
def isFinite (l : Literal) : Bool := l.integer?.any fitsWord || l.scaled?.isSome

end Vicinity.Number.Literal

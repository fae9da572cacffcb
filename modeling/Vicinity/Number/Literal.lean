import Vicinity.Number.Shortest
import Vicinity.Text.Numeral

/-! # Number literals

A literal is a number as it is written in decimal: a sign, digits before and after a point, and an
exponent. Without a point and an exponent it is a whole literal; only whole literals denote
integers, and a negative zero is none of them. Every literal denotes a floating-point number, the
nearest one, unless it lies beyond the largest.
-/

namespace Vicinity.Number

structure Literal where
  negative : Bool
  whole : List Nat
  fraction : List Nat
  exponent : Option Int
deriving DecidableEq, Repr, Inhabited

namespace Literal

def isWhole (l : Literal) : Bool := l.fraction.isEmpty && l.exponent.isNone

/-- All digits, read as one number. -/
def significand (l : Literal) : Nat := Numeral.ofDigits (l.whole ++ l.fraction)

/-- The power of ten by which the significand is multiplied. -/
def scale (l : Literal) : Int := l.exponent.getD 0 - l.fraction.length

/-- The integer that a whole literal denotes. -/
def integer? (l : Literal) : Option Int :=
  if !l.isWhole || (l.negative && l.significand == 0) then none
  else some (if l.negative then -(l.significand : Int) else l.significand)

/-- No number with more digits before the point is finite. -/
def mostDigits : Int := 310

/-- No number with more zeros after the point differs from zero. -/
def mostZeros : Int := 400

/-- The floating-point number nearest to a significand times a power of ten, if it is finite. -/
def nearest? (significand : Nat) (scale : Int) : Option Float :=
  let magnitude := (Numeral.digits significand).length + scale
  if significand = 0 || magnitude < -mostZeros then some 0.0
  else if magnitude > mostDigits then none
  else
    let value := Float.ofScientific significand (scale < 0) scale.natAbs
    if value.isInf then none else some value

/-- The floating-point number that a literal denotes, if it is finite. -/
def float? (l : Literal) : Option Float :=
  (nearest? l.significand l.scale).map fun value => if l.negative then -value else value

def ofInt (i : Int) : Literal := ⟨i < 0, Numeral.digits i.natAbs, [], none⟩

def ofNat (n : Nat) : Literal := ⟨false, Numeral.digits n, [], none⟩

def digitText (ds : List Nat) : String := String.ofList (ds.map Numeral.digitChar)

def render (l : Literal) : String :=
  (if l.negative then "-" else "") ++ digitText l.whole ++
    (if l.fraction.isEmpty then "" else "." ++ digitText l.fraction) ++
    (match l.exponent with
      | none => ""
      | some e => "e" ++ Numeral.integer e)

end Literal

/-! ## Writing floating-point numbers -/

/-- How a decimal is laid out: with the point among the digits while its place lies above `lowest`
and is at most `highest`, places being counted from before the first digit, and otherwise with an
exponent; and whether a point is always written. -/
structure Layout where
  lowest : Int
  highest : Int
  alwaysPoint : Bool
deriving DecidableEq, Repr, Inhabited

/-- Lay out digits with the point at a place. -/
def Layout.write (layout : Layout) (negative : Bool) (digits : List Nat) (point : Int) : Literal :=
  let pad := if layout.alwaysPoint then [0] else []
  if layout.lowest < point ∧ point ≤ layout.highest then
    if point ≤ 0 then
      ⟨negative, [0], List.replicate (-point).toNat 0 ++ digits, none⟩
    else
      let before := (digits ++ List.replicate (point.toNat - digits.length) 0).take point.toNat
      let after := digits.drop point.toNat
      ⟨negative, before, if after.isEmpty then pad else after, none⟩
  else ⟨negative, digits.take 1, digits.drop 1, some (point - 1)⟩

/-- The shortest literal for a finite floating-point number. -/
def Layout.ofFloat (layout : Layout) (value : Float) : Literal :=
  let bits := value.toBits
  let negative := bits >>> 63 == 1
  let binary := Binary.ofBits bits
  if binary.mantissa = 0 then layout.write negative [0] 1
  else
    let decimal := binary.shortest
    let digits := Numeral.digits decimal.digits
    layout.write negative digits (digits.length + decimal.exponent)

end Vicinity.Number

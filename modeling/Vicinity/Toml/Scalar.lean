import Vicinity.Number.Literal
import Vicinity.Number.Range
import Vicinity.Text.Split
import Vicinity.Toml.Moment

/-! # Scalars without quotes

Truth values, integers, floating-point numbers and moments are told apart by their form. Digits may
have single underscores between them. An integer is decimal, without a zero in front, or has one of
three other bases, without a sign; it has 64 bits. A floating-point number has a fraction or an
exponent, digits on both sides of the point, and is finite unless it says otherwise.
-/

namespace Vicinity.Toml

inductive Scalar where
  | bool (b : Bool)
  | integer (i : Int)
  | float (value : Float)
  | moment (written : String)
deriving Repr, Inhabited

namespace Scalar

/-- The value of a digit of a base up to sixteen. -/
def digit? (base : Nat) (c : Char) : Option Nat :=
  let value :=
    if '0' ≤ c ∧ c ≤ '9' then c.toNat - 48
    else if 'a' ≤ c ∧ c ≤ 'f' then c.toNat - 87
    else if 'A' ≤ c ∧ c ≤ 'F' then c.toNat - 55
    else base
  if value < base then some value else none

/-- Digits with single underscores between them. -/
def digits? (base : Nat) (cs : List Char) : Option (List Nat) := do
  let (first, others) := Text.splitParts '_' cs
  let runs := first :: others
  if runs.any List.isEmpty then none
  else runs.flatten.mapM (digit? base)

/-- The number that digits of a base denote. -/
def ofDigits (base : Nat) (ds : List Nat) : Nat := ds.foldl (fun value d => value * base + d) 0

/-- Decimal digits without a zero in front of others. -/
def whole? (cs : List Char) : Option (List Nat) :=
  (digits? 10 cs).bind fun ds =>
    match ds with
    | 0 :: _ :: _ => none
    | _ => some ds

/-- Whether there is a minus sign, and what follows a sign. -/
def sign : List Char → Bool × List Char
  | '-' :: rest => (true, rest)
  | '+' :: rest => (false, rest)
  | cs => (false, cs)

def integer? (cs : List Char) : Option Int :=
  let inRange (i : Int) : Option Int := if Number.isInt64 i then some i else none
  let based (base : Nat) (rest : List Char) : Option Int :=
    (digits? base rest).bind fun ds => inRange (ofDigits base ds)
  match cs with
  | '0' :: 'x' :: rest => based 16 rest
  | '0' :: 'o' :: rest => based 8 rest
  | '0' :: 'b' :: rest => based 2 rest
  | _ =>
    let (negative, unsigned) := sign cs
    (whole? unsigned).bind fun ds =>
      let size : Int := ofDigits 10 ds
      inRange (if negative then -size else size)

/-- The exponent that stands after its letter. -/
def exponent? (cs : List Char) : Option Int :=
  let (negative, unsigned) := sign cs
  (digits? 10 unsigned).map fun ds =>
    let size : Int := ofDigits 10 ds
    if negative then -size else size

/-- The digits before and after the point; without a point there are none after it. -/
def pointed? (cs : List Char) : Option (List Nat × List Nat) :=
  match Text.cut? '.' cs with
  | none => (whole? cs).map fun ds => (ds, [])
  | some (before, after) => do return (← whole? before, ← digits? 10 after)

/-- A number without a sign that has a fraction or an exponent. -/
def magnitude? (cs : List Char) : Option Float := do
  let isInside (c : Char) : Bool := c != 'e' && c != 'E'
  let (whole, fraction) ← pointed? (cs.takeWhile isInside)
  let exponent ← match cs.dropWhile isInside with
    | [] => if fraction.isEmpty then none else some 0
    | _ :: after => exponent? after
  Number.Literal.nearest? (ofDigits 10 (whole ++ fraction)) (exponent - fraction.length)

def float? (cs : List Char) : Option Float :=
  let (negative, unsigned) := sign cs
  let magnitude : Option Float :=
    if unsigned = ['i', 'n', 'f'] then some (1.0 / 0.0)
    else if unsigned = ['n', 'a', 'n'] then some (0.0 / 0.0)
    else magnitude? unsigned
  magnitude.map fun value => if negative then -value else value

/-- The scalar that a word writes. -/
def ofChars? (cs : List Char) : Option Scalar :=
  if cs = "true".toList then some (.bool true)
  else if cs = "false".toList then some (.bool false)
  else
    match integer? cs, float? cs with
    | some i, _ => some (.integer i)
    | none, some value => some (.float value)
    | none, none => (Moment.canonical? cs).map .moment

/-- Characters that end a word. -/
def endsWord (c : Char) : Bool :=
  [' ', '\t', '\n', '\r', ',', '#', '=', '[', ']', '\x7b', '\x7d'].contains c

/-- A word at the front of the input. A blank does not end a date that a time of day follows. -/
def word (input : List Char) : List Char × List Char :=
  let isInside (c : Char) : Bool := !endsWord c
  let first := input.takeWhile isInside
  match Moment.date first, input.dropWhile isInside with
  | some (_, []), ' ' :: c :: rest =>
    if c.isDigit then
      (first ++ ' ' :: (c :: rest).takeWhile isInside, (c :: rest).dropWhile isInside)
    else (first, ' ' :: c :: rest)
  | _, rest => (first, rest)

/-- A scalar at the front of the input. -/
def read (input : List Char) : Option (Scalar × List Char) :=
  let (cs, rest) := word input
  (ofChars? cs).map fun scalar => (scalar, rest)

end Scalar

end Vicinity.Toml

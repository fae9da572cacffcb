import Vicinity.Number.Loose
import Vicinity.Settings.Reading
import Vicinity.Tree.Basic

/-! # Settings in trees

Files and variables do not always give a value the type that a field has, so scalars of one type
count as another if they fit: a text as the number or the truth value that it writes, a number as
its text, a truth value as zero or one. Null fits only a field that is optional. A record may also
be a list that begins with its fields in order.
-/

namespace Vicinity

namespace Tree

/-- Texts that mean yes, in any letter case. -/
def yes : List String := ["true", "on", "yes"]

/-- Texts that mean no, in any letter case. -/
def no : List String := ["false", "off", "no"]

/-- A scalar as a text. -/
def text? : Tree → Option String
  | text s => some s
  | bool b => some (if b then "true" else "false")
  | integer i => some (Numeral.integer i)
  | float value => some (Number.plain value)
  | _ => none

/-- A scalar as a truth value: numbers other than zero are true. -/
def flag? : Tree → Option Bool
  | bool b => some b
  | integer i => some (i != 0)
  | float value => some (value != 0.0)
  | text s =>
    let word := Text.lowercase s
    if word = "1" ∨ word ∈ yes then some true
    else if word = "0" ∨ word ∈ no then some false
    else none
  | _ => none

/-- A scalar as a natural number of 64 bits; a floating-point number is rounded, a half away from
zero, and one beyond the range counts as the nearest number in it. -/
def natural? : Tree → Option Nat
  | bool b => some b.toNat
  | integer i => if 0 ≤ i then some i.toNat else none
  | float value => some value.round.toUInt64.toNat
  | text s =>
    let word := Text.lowercase s
    if word ∈ yes then some 1
    else if word ∈ no then some 0
    else (Numeral.unsigned? s.toList).bind fun n => if n < UInt64.size then some n else none
  | _ => none

def texts? : Tree → Option (List String)
  | list items => items.mapM text?
  | _ => none

/-- The name of an alternative: a text or the only name in a table. -/
def alternative? : Tree → Option String
  | text name => some name
  | table [(name, _)] => some name
  | _ => none

def isNull : Tree → Bool
  | null => true
  | _ => false

/-- The fields of a record. -/
def fields? (names : List String) : Tree → Option (String → Option Tree)
  | table entries => some (Entries.get? entries)
  | list items => some fun name => (names.zip items).lookup name
  | _ => none

end Tree

/-- Trees, with scalars of another type taken where they fit. -/
def Reading.loose : Reading Tree where
  fields := Tree.fields?
  isNull := Tree.isNull
  text := Tree.text?
  flag := Tree.flag?
  natural := Tree.natural?
  texts := Tree.texts?
  alternative := Tree.alternative?

end Vicinity

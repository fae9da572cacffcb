import Vicinity.Text.Numeral

/-! # Dates and times

A moment is a date, a time of day, or both with perhaps an offset from universal time. `canonical?`
reads one and writes it in the form in which it is kept: the date and the time joined by `T`, a
fraction of a second cut off after nine digits and without zeros at its end but the first digit, and
universal time as `Z`. Months and days must exist; a sixty-first second is allowed.
-/

namespace Vicinity.Toml.Moment

/-- So many decimal digits, as a number. -/
def digits (count : Nat) (cs : List Char) : Option (Nat × List Char) :=
  if (cs.take count).length = count then
    (Numeral.natural? (cs.take count)).map fun n => (n, cs.drop count)
  else none

/-- A character that must be there. -/
def expect (c : Char) : List Char → Option (List Char)
  | first :: rest => if first = c then some rest else none
  | [] => none

/-- A number with zeros before it up to a width. -/
def padded (width n : Nat) : String :=
  let numeral := Numeral.natural n
  String.ofList (List.replicate (width - numeral.length) '0') ++ numeral

def isLeapYear (year : Nat) : Bool := year % 4 == 0 && (year % 100 != 0 || year % 400 == 0)

def daysIn (year month : Nat) : Nat :=
  if month = 2 then if isLeapYear year then 29 else 28
  else if month ∈ [4, 6, 9, 11] then 30
  else 31

/-- A date at the front of a text. -/
def date (cs : List Char) : Option (String × List Char) := do
  let (year, cs) ← digits 4 cs
  let cs ← expect '-' cs
  let (month, cs) ← digits 2 cs
  let cs ← expect '-' cs
  let (day, cs) ← digits 2 cs
  if 1 ≤ month ∧ month ≤ 12 ∧ 1 ≤ day ∧ day ≤ daysIn year month then
    some (padded 4 year ++ "-" ++ padded 2 month ++ "-" ++ padded 2 day, cs)
  else none

/-- The fraction of a second at the front of a text, if there is a point. -/
def fraction : List Char → Option (String × List Char)
  | '.' :: cs =>
    let ds := cs.takeWhile Char.isDigit
    let kept := ((ds.take 9).reverse.dropWhile (· == '0')).reverse
    if ds.isEmpty then none
    else
      let kept := if kept.isEmpty then ['0'] else kept
      some ("." ++ String.ofList kept, cs.dropWhile Char.isDigit)
  | cs => some ("", cs)

/-- The seconds at the front of a text, if there is a colon. -/
def seconds : List Char → Option (String × List Char)
  | ':' :: cs => do
    let (second, cs) ← digits 2 cs
    let (part, cs) ← fraction cs
    if second ≤ 60 then some (":" ++ padded 2 second ++ part, cs) else none
  | cs => some ("", cs)

/-- A time of day at the front of a text. -/
def time (cs : List Char) : Option (String × List Char) := do
  let (hour, cs) ← digits 2 cs
  let cs ← expect ':' cs
  let (minute, cs) ← digits 2 cs
  let (second, cs) ← seconds cs
  if hour ≤ 23 ∧ minute ≤ 59 then
    some (padded 2 hour ++ ":" ++ padded 2 minute ++ second, cs)
  else none

/-- An offset of hours and minutes. -/
def shift? (sign : String) (cs : List Char) : Option String := do
  let (hours, cs) ← digits 2 cs
  let cs ← expect ':' cs
  let (minutes, cs) ← digits 2 cs
  if cs.isEmpty && hours ≤ 23 && minutes ≤ 59 then
    let sign := if hours = 0 ∧ minutes = 0 then "+" else sign
    some (sign ++ padded 2 hours ++ ":" ++ padded 2 minutes)
  else none

/-- An offset, if the text does not end. -/
def offset? : List Char → Option String
  | [] => some ""
  | ['Z'] | ['z'] => some "Z"
  | '+' :: cs => shift? "+" cs
  | '-' :: cs => shift? "-" cs
  | _ => none

/-- A time of day that is the whole text. -/
def timeOnly? (cs : List Char) : Option String :=
  match time cs with
  | some (written, []) => some written
  | _ => none

/-- The canonical form of the moment that a text writes. -/
def canonical? (cs : List Char) : Option String :=
  match date cs with
  | some (day, []) => some day
  | some (day, separator :: rest) =>
    if separator == 'T' || separator == 't' || separator == ' ' then do
      let (hour, rest) ← time rest
      let offset ← offset? rest
      return day ++ "T" ++ hour ++ offset
    else none
  | none => timeOnly? cs

end Vicinity.Toml.Moment

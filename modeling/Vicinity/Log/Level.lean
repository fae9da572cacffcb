import Vicinity.Text.Numeral

/-! # Levels of detail

An event has one of five levels, from errors to the finest traces. A threshold lets events through
up to a level, or none at all. It is chosen by a name in any case of its Latin letters or by a
number from zero, which is off, to five.
-/

namespace Vicinity

/-- How much detail an event belongs to. -/
inductive Level where
  | error
  | warn
  | info
  | debug
  | trace
deriving DecidableEq, Repr, Inhabited

namespace Level

/-- Levels are numbered from one, the least detailed first. -/
def detail : Level → Nat
  | error => 1
  | warn => 2
  | info => 3
  | debug => 4
  | trace => 5

def name : Level → String
  | error => "error"
  | warn => "warn"
  | info => "info"
  | debug => "debug"
  | trace => "trace"

def all : List Level := [error, warn, info, debug, trace]

/-- The level of a name in small letters. -/
def ofName? (s : String) : Option Level := all.find? fun level => level.name = s

/-- The name in capital letters, as it stands in front of a line. -/
def mark (level : Level) : String := level.name.map Char.toUpper

end Level

/-- Which events come through. -/
inductive Threshold where
  | off
  | upTo (level : Level)
deriving DecidableEq, Repr, Inhabited

namespace Threshold

def detail : Threshold → Nat
  | off => 0
  | upTo level => level.detail

def name : Threshold → String
  | off => "off"
  | upTo level => level.name

/-- The thresholds, the most permissive first. -/
def all : List Threshold :=
  [upTo .trace, upTo .debug, upTo .info, upTo .warn, upTo .error, off]

/-- Whether events of a level come through. -/
def admits (threshold : Threshold) (level : Level) : Bool := level.detail ≤ threshold.detail

/-- The threshold of a name or a number. -/
def ofText? (s : String) : Option Threshold :=
  match Numeral.unsigned? s.toList with
  | some n => all.find? fun threshold => threshold.detail = n
  | none => all.find? fun threshold => threshold.name = s.map Char.toLower

theorem admits_iff (threshold : Threshold) (level : Level) :
    threshold.admits level = true ↔ level.detail ≤ threshold.detail := by simp [admits]

end Threshold

end Vicinity

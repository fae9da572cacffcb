import Vicinity.Text.Blank
import Vicinity.Text.Numeral

/-! # Parts of patterns

The smallest parts of a pattern are characters, escapes and places. What they may be depends on
flags.

Patterns are read without tables of Unicode. So where characters count as such, which is the case
unless the flag for it is taken away, there are no classes named by a letter, no ends of words and
no disregard of case. Where bytes count instead, these exist for ASCII, but nothing may match a byte
that is no character of its own: no point, no negated class, no byte outside of ASCII.
-/

namespace Vicinity.Pattern

structure Flags where
  anyCase : Bool
  byCharacter : Bool
  /-- Whether blanks and comments are passed over. -/
  isSpaced : Bool
deriving DecidableEq, Repr, Inhabited

namespace Flags

/-- The flags at the beginning of a pattern. -/
def initial : Flags := ⟨false, true, false⟩

mutual

/-- What follows blanks and comments. -/
def afterBlanks : List Char → List Char
  | [] => []
  | c :: rest =>
    if Text.isBlank c then afterBlanks rest
    else if c == '#' then afterNote rest
    else c :: rest

/-- What follows the rest of a comment and the blanks behind it. -/
def afterNote : List Char → List Char
  | [] => []
  | c :: rest => if c == '\n' then afterBlanks rest else afterNote rest

end

def skip (flags : Flags) (input : List Char) : List Char :=
  if flags.isSpaced then afterBlanks input else input

/-- The letters of all flags, of which some say nothing about what is valid. -/
def letters : List Char := ['i', 'm', 's', 'U', 'u', 'R', 'x']

/-- Change flags as it is written: those after a hyphen are taken away. -/
def change? (flags : Flags) (written : List Char) : Option Flags :=
  let given := written.takeWhile (· != '-')
  let taken := written.dropWhile (· != '-')
  let apply (letter : Char) (old : Bool) : Bool :=
    given.contains letter || (old && !taken.contains letter)
  if written.all (fun c => c == '-' || letters.contains c) && written.Nodup &&
      written.getLast? != some '-' then
    some ⟨apply 'i' flags.anyCase, apply 'u' flags.byCharacter, apply 'x' flags.isSpaced⟩
  else none

end Flags

/-- The parts of a pattern that match by themselves. -/
inductive Atom where
  /-- A character, perhaps written as a byte. -/
  | character (c : Char) (asByte : Bool)
  /-- A class named by a letter. -/
  | named (negated : Bool)
  /-- A place between characters, perhaps where a word ends. -/
  | place (ofWord : Bool)
  /-- Whatever there is. -/
  | any
deriving DecidableEq, Repr, Inhabited

def isAscii (c : Char) : Bool := c.toNat < 0x80

namespace Atom

/-- Whether an atom may stand outside of sets. -/
def isAllowed (flags : Flags) : Atom → Bool
  | character c asByte => if flags.byCharacter then !flags.anyCase else isAscii c || !asByte
  | named negated => !flags.byCharacter && !negated
  | place ofWord => !(ofWord && flags.byCharacter)
  | any => flags.byCharacter

/-- Whether an atom may stand in a set. -/
def isMember (flags : Flags) : Atom → Bool
  | character c _ => if flags.byCharacter then !flags.anyCase else isAscii c
  | named negated => !flags.byCharacter && !negated
  | _ => false

end Atom

/-! ## Escapes -/

/-- So many hexadecimal digits. -/
def hexDigits (flags : Flags) : Nat → List Char → Option (List Nat × List Char)
  | 0, input => some ([], input)
  | count + 1, input =>
    match flags.skip input with
    | [] => none
    | c :: rest => do
      let d ← Numeral.hexValue? c
      let (ds, rest) ← hexDigits flags count rest
      return (d :: ds, rest)

/-- The character of a code point in so many hexadecimal digits. -/
def codePoint (flags : Flags) (count : Nat) (input : List Char) : Option (Char × List Char) := do
  let (ds, rest) ← hexDigits flags count input
  let code := ds.foldl (fun value d => value * 16 + d) 0
  if code.isValidChar then some (Char.ofNat code, rest) else none

/-- The control character that a letter stands for. -/
def control? (c : Char) : Option Char :=
  [('a', '\x07'), ('f', '\x0c'), ('t', '\t'), ('n', '\n'), ('r', '\r'), ('v', '\x0b')].lookup c

/-- What stands after a backslash. A character of ASCII that is no letter and no digit stands for
itself. -/
def escape (flags : Flags) : List Char → Option (Atom × List Char)
  | [] => none
  | 'x' :: rest => (codePoint flags 2 rest).map fun (c, rest) => (.character c true, rest)
  | 'u' :: rest => (codePoint flags 4 rest).map fun (c, rest) => (.character c false, rest)
  | 'U' :: rest => (codePoint flags 8 rest).map fun (c, rest) => (.character c false, rest)
  | c :: rest =>
    if ['d', 's', 'w'].contains c.toLower then some (.named c.isUpper, rest)
    else if ['A', 'z'].contains c then some (.place false, rest)
    else if ['b', 'B', '<', '>'].contains c then some (.place true, rest)
    else
      match control? c with
      | some plain => some (.character plain false, rest)
      | none => if isAscii c && !c.isAlphanum then some (.character c false, rest) else none

/-- An atom at the front of the input. -/
def atom (flags : Flags) : List Char → Option (Atom × List Char)
  | [] => none
  | '\\' :: rest => escape flags rest
  | '.' :: rest => some (.any, rest)
  | '^' :: rest | '$' :: rest => some (.place false, rest)
  | c :: rest => some (.character c false, rest)

end Vicinity.Pattern

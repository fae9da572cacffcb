import Vicinity.Text.Numeral

/-! # Strings, names and blanks of a document

A document is read as a list of characters. Lines end with a line feed, before which there may be a
carriage return; a carriage return never stands alone. Four kinds of strings are told apart by their
quotes: basic strings with escapes, literal strings without, and both over several lines, which keep
the ends of their lines as they are. No string and no comment holds a control character other than
the tab.

Every reader gives what it read and what is left of the input, or nothing if the input does not
begin with it. `fuel` is a number that is larger than the length of the input.
-/

namespace Vicinity.Toml

/-! ## Blanks and comments -/

/-- The end of a line at the front of the input, and what follows it. -/
def lineEnd : List Char → Option (List Char × List Char)
  | '\n' :: rest => some (['\n'], rest)
  | '\r' :: '\n' :: rest => some (['\r', '\n'], rest)
  | _ => none

def isSpace (c : Char) : Bool := c == ' ' || c == '\t'

def skipSpace (input : List Char) : List Char := input.dropWhile isSpace

/-- Characters that may stand in strings and comments. -/
def isPlain (c : Char) : Bool := c == '\t' || (0x20 ≤ c.toNat && c.toNat != 0x7F)

/-- What follows a comment, if there is one: the end of the line or of the input. -/
def skipComment : List Char → List Char
  | '#' :: rest => rest.dropWhile isPlain
  | input => input

/-- Skip blanks and line ends. -/
def skipLines : List Char → List Char
  | [] => []
  | '\r' :: '\n' :: rest => skipLines rest
  | c :: rest => if isSpace c || c == '\n' then skipLines rest else c :: rest

/-- Skip blanks, line ends and comments. -/
def skipGap : Nat → List Char → List Char
  | 0, input => input
  | fuel + 1, input =>
    match skipLines input with
    | '#' :: rest => skipGap fuel (rest.dropWhile isPlain)
    | rest => rest

/-! ## Escapes -/

/-- The character of a code point in so many hexadecimal digits. -/
def codePoint (count : Nat) (input : List Char) : Option (Char × List Char) := do
  let ds ← (input.take count).mapM Numeral.hexValue?
  let code := ds.foldl (fun value d => value * 16 + d) 0
  if ds.length = count ∧ code.isValidChar then some (Char.ofNat code, input.drop count) else none

/-- The character that a letter stands for after a backslash. -/
def letterEscape? (c : Char) : Option Char :=
  if c = '"' ∨ c = '\\' then some c
  else if c = 'b' then some '\x08'
  else if c = 't' then some '\t'
  else if c = 'n' then some '\n'
  else if c = 'f' then some '\x0c'
  else if c = 'r' then some '\r'
  else if c = 'e' then some '\x1b'
  else none

/-- What stands after a backslash. -/
def escape : List Char → Option (Char × List Char)
  | [] => none
  | 'x' :: rest => codePoint 2 rest
  | 'u' :: rest => codePoint 4 rest
  | 'U' :: rest => codePoint 8 rest
  | c :: rest => (letterEscape? c).map fun plain => (plain, rest)

/-! ## Strings -/

/-- A character before the characters of a string. -/
def before (c : Char) (read : List Char × List Char) : List Char × List Char :=
  (c :: read.1, read.2)

/-- A basic string after its opening quote. -/
def basic : Nat → List Char → Option (List Char × List Char)
  | 0, _ => none
  | _, [] => none
  | fuel + 1, c :: rest =>
    if c == '"' then some ([], rest)
    else if c == '\\' then do
      let (escaped, rest) ← escape rest
      (basic fuel rest).map (before escaped)
    else if isPlain c then (basic fuel rest).map (before c)
    else none

/-- A literal string after its opening quote. -/
def literal : List Char → Option (List Char × List Char)
  | [] => none
  | c :: rest =>
    if c == '\'' then some ([], rest)
    else if isPlain c then (literal rest).map (before c)
    else none

/-- The quotes at the front of a string over several lines: three of them end it, and up to two
before those belong to it. It gives those that belong to it, whether it ends, and what follows. -/
def quotes (quote : Char) (input : List Char) : Option (List Char × Bool × List Char) :=
  let count := (input.takeWhile (· == quote)).length
  let rest := input.dropWhile (· == quote)
  if count < 3 then some (List.replicate count quote, false, rest)
  else if count < 6 then some (List.replicate (count - 3) quote, true, rest)
  else none

/-- What follows a backslash at the end of a line: the next character that is no blank. -/
def continued? (input : List Char) : Option (List Char) :=
  (lineEnd (skipSpace input)).map fun (_, rest) => skipLines rest

/-- A string over several lines after its opening quotes; it has escapes if the quotes are
double. -/
def lines (quote : Char) : Nat → List Char → Option (List Char × List Char)
  | 0, _ => none
  | _, [] => none
  | fuel + 1, c :: rest =>
    if c == quote then do
      let (inside, ended, rest) ← quotes quote (c :: rest)
      if ended then some (inside, rest)
      else (lines quote fuel rest).map fun (cs, rest) => (inside ++ cs, rest)
    else if c == '\\' && quote == '"' then
      match continued? rest with
      | some rest => lines quote fuel rest
      | none => do
        let (escaped, rest) ← escape rest
        (lines quote fuel rest).map (before escaped)
    else if isPlain c then (lines quote fuel rest).map (before c)
    else
      match lineEnd (c :: rest) with
      | some (ended, rest) => (lines quote fuel rest).map fun (cs, rest) => (ended ++ cs, rest)
      | none => none

/-- A string over several lines without the line end that may follow its opening quotes. -/
def block (quote : Char) (input : List Char) : Option (List Char × List Char) :=
  match lineEnd input with
  | some (_, rest) => lines quote (rest.length + 1) rest
  | none => lines quote (input.length + 1) input

/-- A string on one line. -/
def string (input : List Char) : Option (String × List Char) :=
  match input with
  | '"' :: rest =>
    (basic (rest.length + 1) rest).map fun (cs, rest) => (String.ofList cs, rest)
  | '\'' :: rest => (literal rest).map fun (cs, rest) => (String.ofList cs, rest)
  | _ => none

/-- A string of any kind. -/
def anyString (input : List Char) : Option (String × List Char) :=
  match input with
  | '"' :: '"' :: '"' :: rest => (block '"' rest).map fun (cs, rest) => (String.ofList cs, rest)
  | '\'' :: '\'' :: '\'' :: rest =>
    (block '\'' rest).map fun (cs, rest) => (String.ofList cs, rest)
  | _ => string input

/-! ## Names -/

/-- How many parts a name may have, and how deeply values may lie in one another. -/
def mostLevels : Nat := 80

/-- Characters of a name without quotes. -/
def isBare (c : Char) : Bool := c.isAlphanum || c == '-' || c == '_'

/-- One part of a name. -/
def namePart (input : List Char) : Option (String × List Char) :=
  match input with
  | '"' :: _ | '\'' :: _ => string input
  | _ =>
    let word := input.takeWhile isBare
    if word.isEmpty then none else some (String.ofList word, input.dropWhile isBare)

/-- A name of one or more parts, with points between them. -/
def name : Nat → List Char → Option (List String × List Char)
  | 0, _ => none
  | fuel + 1, input => do
    let (part, rest) ← namePart input
    match skipSpace rest with
    | '.' :: rest => (name fuel (skipSpace rest)).map fun (parts, rest) => (part :: parts, rest)
    | rest => return ([part], rest)

/-- A name with the blanks around it; it has no more than eighty parts. -/
def spacedName (input : List Char) : Option (List String × List Char) :=
  (name (input.length + 1) (skipSpace input)).bind fun (parts, rest) =>
    if parts.length ≤ mostLevels then some (parts, skipSpace rest) else none

end Vicinity.Toml

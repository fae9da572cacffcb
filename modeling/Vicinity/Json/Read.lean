import Vicinity.Json.Basic

/-! # Reading Json

A document is one value with blanks around it; blanks are the space, the tab and the two line ends.
It is read from bytes. Only its form is checked here: control characters inside a string, an unknown
escape, a superfluous zero, a missing or superfluous comma and anything after the value are faults,
while a string literal that stands for no text is read as such.

Every step returns what is left of the input. `value` is given a number that is larger than the
length of its input and so never runs out of it.
-/

namespace Vicinity.RawJson

/-- A byte from an ASCII character. -/
def ascii (c : Char) : UInt8 := c.toUInt8

def isBlank (b : UInt8) : Bool :=
  b == ascii ' ' || b == ascii '\t' || b == ascii '\n' || b == ascii '\r'

def skipBlanks (input : List UInt8) : List UInt8 := input.dropWhile isBlank

/-- The value of a digit byte. -/
def digit? (b : UInt8) : Option Nat :=
  if ascii '0' ≤ b ∧ b ≤ ascii '9' then some (b.toNat - 48) else none

/-- The value of a hexadecimal digit byte, in either case. -/
def hexDigit? (b : UInt8) : Option Nat :=
  if ascii '0' ≤ b ∧ b ≤ ascii '9' then some (b.toNat - 48)
  else if ascii 'a' ≤ b ∧ b ≤ ascii 'f' then some (b.toNat - 87)
  else if ascii 'A' ≤ b ∧ b ≤ ascii 'F' then some (b.toNat - 55)
  else none

/-! ## Strings -/

/-- What a string literal is made of: bytes, and 16-bit units named by an escape. -/
inductive Piece where
  | byte (b : UInt8)
  | unit (n : Nat)
deriving DecidableEq, Repr, Inhabited

/-- The byte that a letter stands for after a backslash. -/
def escaped? (b : UInt8) : Option UInt8 :=
  if b == ascii '"' || b == ascii '\\' || b == ascii '/' then some b
  else if b == ascii 'b' then some 8
  else if b == ascii 'f' then some 12
  else if b == ascii 'n' then some 10
  else if b == ascii 'r' then some 13
  else if b == ascii 't' then some 9
  else none

/-- Four hexadecimal digits. -/
def unit? : List UInt8 → Option (Nat × List UInt8)
  | a :: b :: c :: d :: rest => do
    return (((← hexDigit? a) * 16 + (← hexDigit? b)) * 256 +
      ((← hexDigit? c) * 16 + (← hexDigit? d)), rest)
  | _ => none

/-- The pieces up to the closing quote. -/
def pieces : Nat → List UInt8 → Option (List Piece × List UInt8)
  | 0, _ => none
  | _, [] => none
  | fuel + 1, b :: rest =>
    if b == ascii '"' then some ([], rest)
    else if b < 0x20 then none
    else if b == ascii '\\' then
      match rest with
      | [] => none
      | letter :: rest =>
        if letter == ascii 'u' then do
          let (n, rest) ← unit? rest
          let (others, rest) ← pieces fuel rest
          return (.unit n :: others, rest)
        else do
          let plain ← escaped? letter
          let (others, rest) ← pieces fuel rest
          return (.byte plain :: others, rest)
    else do
      let (others, rest) ← pieces fuel rest
      return (.byte b :: others, rest)

def isHighUnit (n : Nat) : Bool := 0xD800 ≤ n && n ≤ 0xDBFF
def isLowUnit (n : Nat) : Bool := 0xDC00 ≤ n && n ≤ 0xDFFF

/-- The bytes of pieces, in which a high unit must be followed by a low one and a low one must
follow a high one. -/
def bytes? : List Piece → Option (List UInt8)
  | [] => some []
  | .byte b :: rest => (bytes? rest).map (b :: ·)
  | .unit high :: .unit low :: rest =>
    if isHighUnit high then
      if isLowUnit low then
        let c := Char.ofNat (0x10000 + (high - 0xD800) * 0x400 + (low - 0xDC00))
        (bytes? rest).map (String.utf8EncodeChar c ++ ·)
      else none
    else if isLowUnit high then none
    else (bytes? (.unit low :: rest)).map (String.utf8EncodeChar (Char.ofNat high) ++ ·)
  | .unit n :: rest =>
    if isHighUnit n || isLowUnit n then none
    else (bytes? rest).map (String.utf8EncodeChar (Char.ofNat n) ++ ·)

/-- The text that pieces stand for, if there is one. -/
def textOf? (literal : List Piece) : Option String :=
  (bytes? literal).bind fun bytes => String.fromUTF8? bytes.toByteArray

/-- A string literal after its opening quote. -/
def text (input : List UInt8) : Option (Option String × List UInt8) :=
  (pieces (input.length + 1) input).map fun (literal, rest) => (textOf? literal, rest)

/-! ## Numbers -/

/-- The digits at the front. -/
def digits (input : List UInt8) : List Nat × List UInt8 :=
  (input.takeWhile (fun b => (digit? b).isSome) |>.filterMap digit?,
    input.dropWhile fun b => (digit? b).isSome)

/-- The digits before the point: a zero alone, or digits that begin with another one. -/
def wholePart (input : List UInt8) : Option (List Nat × List UInt8) :=
  match digits input with
  | ([], _) => none
  | ([0], rest) => some ([0], rest)
  | (0 :: _, _) => none
  | (ds, rest) => some (ds, rest)

/-- The digits after a point, if there is a point. -/
def fractionPart : List UInt8 → Option (List Nat × List UInt8)
  | [] => some ([], [])
  | b :: rest =>
    if b == ascii '.' then
      match digits rest with
      | ([], _) => none
      | (ds, rest) => some (ds, rest)
    else some ([], b :: rest)

/-- An exponent, if there is one. -/
def exponentPart : List UInt8 → Option (Option Int × List UInt8)
  | [] => some (none, [])
  | b :: rest =>
    if b == ascii 'e' || b == ascii 'E' then
      let (negative, rest) := match rest with
        | sign :: after =>
          if sign == ascii '-' then (true, after)
          else if sign == ascii '+' then (false, after)
          else (false, sign :: after)
        | [] => (false, [])
      match digits rest with
      | ([], _) => none
      | (ds, rest) =>
        let size : Int := Numeral.ofDigits ds
        some (some (if negative then -size else size), rest)
    else some (none, b :: rest)

def literal (input : List UInt8) : Option (Number.Literal × List UInt8) := do
  let (negative, input) := match input with
    | b :: rest => if b == ascii '-' then (true, rest) else (false, input)
    | [] => (false, [])
  let (whole, input) ← wholePart input
  let (fraction, input) ← fractionPart input
  let (exponent, rest) ← exponentPart input
  return (⟨negative, whole, fraction, exponent⟩, rest)

/-! ## Values -/

/-- What follows a given word at the front. -/
def after? (word : String) (input : List UInt8) : Option (List UInt8) :=
  (word.toList.map ascii).isPrefixOf? input

/-- A name and the colon after it. -/
def memberName (input : List UInt8) : Option (Option String × List UInt8) :=
  match skipBlanks input with
  | [] => none
  | b :: rest =>
    if b == ascii '"' then do
      let (name, rest) ← text rest
      match skipBlanks rest with
      | [] => none
      | colon :: rest => if colon == ascii ':' then some (name, rest) else none
    else none

mutual

/-- One value, with blanks before it. -/
def value : Nat → List UInt8 → Option (RawJson × List UInt8)
  | 0, _ => none
  | fuel + 1, input =>
    match skipBlanks input with
    | [] => none
    | b :: rest =>
      if b == ascii '"' then (text rest).map fun (s, rest) => (.string s, rest)
      else if b == ascii '[' then
        match skipBlanks rest with
        | [] => none
        | next :: after =>
          if next == ascii ']' then some (.array [], after)
          else (items fuel rest).map fun (items, rest) => (.array items, rest)
      else if b == ascii '\x7b' then
        match skipBlanks rest with
        | [] => none
        | next :: after =>
          if next == ascii '\x7d' then some (.object [], after)
          else (members fuel rest).map fun (members, rest) => (.object members, rest)
      else if b == ascii 'n' then (after? "null" (b :: rest)).map fun rest => (.null, rest)
      else if b == ascii 't' then (after? "true" (b :: rest)).map fun rest => (.bool true, rest)
      else if b == ascii 'f' then (after? "false" (b :: rest)).map fun rest => (.bool false, rest)
      else (literal (b :: rest)).map fun (literal, rest) => (.number literal, rest)

/-- The items of an array up to its closing bracket. -/
def items : Nat → List UInt8 → Option (List RawJson × List UInt8)
  | 0, _ => none
  | fuel + 1, input => do
    let (item, rest) ← value fuel input
    match skipBlanks rest with
    | [] => none
    | b :: rest =>
      if b == ascii ']' then some ([item], rest)
      else if b == ascii ',' then
        let (others, rest) ← items fuel rest
        return (item :: others, rest)
      else none

/-- The members of an object up to its closing brace. -/
def members : Nat → List UInt8 → Option (List (Option String × RawJson) × List UInt8)
  | 0, _ => none
  | fuel + 1, input => do
    let (name, rest) ← memberName input
    let (item, rest) ← value fuel rest
    match skipBlanks rest with
    | [] => none
    | b :: rest =>
      if b == ascii '\x7d' then some ([(name, item)], rest)
      else if b == ascii ',' then
        let (others, rest) ← members fuel rest
        return ((name, item) :: others, rest)
      else none

end

/-- The value of a document. -/
def ofBytes? (document : List UInt8) : Option RawJson :=
  match value (2 * document.length + 2) document with
  | some (read, rest) => if (skipBlanks rest).isEmpty then some read else none
  | none => none

end Vicinity.RawJson

import Vicinity.Json.Basic

/-! # Writing Json

Values are written without blanks. In strings the quote, the backslash and the control characters
are escaped and nothing else is; the five controls that have a letter are escaped by it, the others
by their code in four hexadecimal digits.
-/

namespace Vicinity.Json

/-- A character inside a string literal. -/
def escape (c : Char) : List Char :=
  if c = '"' then ['\\', '"']
  else if c = '\\' then ['\\', '\\']
  else if c = '\x08' then ['\\', 'b']
  else if c = '\t' then ['\\', 't']
  else if c = '\n' then ['\\', 'n']
  else if c = '\x0c' then ['\\', 'f']
  else if c = '\r' then ['\\', 'r']
  else if c.toNat < 0x20 then
    ['\\', 'u', '0', '0', Nat.digitChar (c.toNat / 16), Nat.digitChar (c.toNat % 16)]
  else [c]

/-- A text as a string literal. -/
def quote (s : String) : String := "\"" ++ String.ofList (s.toList.flatMap escape) ++ "\""

/-- How floating-point numbers are written: with a point, and with an exponent beyond sixteen digits
before the point or below a hundred-thousandth. -/
def floatLayout : Number.Layout := ⟨-5, 16, true⟩

/-- A finite floating-point number. -/
def ofFloat (value : Float) : Json := .number (floatLayout.ofFloat value)

def ofInt (i : Int) : Json := .number (.ofInt i)
def ofNat (n : Nat) : Json := .number (.ofNat n)

mutual

def render : Json → String
  | .null => "null"
  | .bool true => "true"
  | .bool false => "false"
  | .number literal => literal.render
  | .string s => quote s
  | .array items => "[" ++ String.intercalate "," (renderItems items) ++ "]"
  | .object members => "\x7b" ++ String.intercalate "," (renderMembers members) ++ "\x7d"

def renderItems : List Json → List String
  | [] => []
  | item :: rest => render item :: renderItems rest

def renderMembers : List (String × Json) → List String
  | [] => []
  | (name, value) :: rest => (quote name ++ ":" ++ render value) :: renderMembers rest

end

end Vicinity.Json

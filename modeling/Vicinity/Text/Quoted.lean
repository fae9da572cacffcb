import Vicinity.Text.PrintTable
import Vicinity.Text.Numeral

/-! # Quoted texts

A quoted text stands between double quotes. A quote and a backslash are preceded by a backslash;
NUL, tab, line feed and carriage return have one-letter escapes; every other character that has no
printed form, or that would join the character before it, is written as its hexadecimal code point
in braces.
-/

namespace Vicinity.Text

/-- A character as a quoted text shows it. -/
def quoteChar (c : Char) : List Char :=
  if c = '\x00' then ['\\', '0']
  else if c = '\t' then ['\\', 't']
  else if c = '\r' then ['\\', 'r']
  else if c = '\n' then ['\\', 'n']
  else if c = '\\' then ['\\', '\\']
  else if c = '"' then ['\\', '"']
  else if extendingRanges.covers c || unprintableRanges.covers c then
    ['\\', 'u', '\x7b'] ++ Numeral.hexadecimal c.toNat ++ ['\x7d']
  else [c]

def quoted (s : String) : String :=
  String.ofList (['"'] ++ s.toList.flatMap quoteChar ++ ['"'])

end Vicinity.Text

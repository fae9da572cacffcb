import Vicinity.Text.CaseTable

/-! # Lower case

`lowerChar` is the lower case of one character taken alone, which for one letter has two characters.
In a text the capital sigma depends on its neighbours: it ends a word, and has the final form, when
the nearest character before it that is not passed over has case and the nearest one after it has
not.
-/

namespace Vicinity.Text

/-- The lower case of a character taken alone. -/
def lowerChar (c : Char) : List Char :=
  if c.toNat = 0x130 then ['i', Char.ofNat 0x307]
  else
    match lowerCaseRuns.find? (·.holds c.toNat) with
    | some run => [Char.ofNat ((c.toNat : Int) + run.shift).toNat]
    | none => [c]

def isCased (c : Char) : Bool := casedRanges.covers c
def isCaseIgnorable (c : Char) : Bool := caseIgnorableRanges.covers c

/-- Whether the first character that is not passed over has case. -/
def meetsCased (cs : List Char) : Bool :=
  match cs.dropWhile isCaseIgnorable with
  | [] => false
  | c :: _ => isCased c

/-- Lower case of the characters `after`, with the characters before them given last one first. -/
def lowerFrom (before : List Char) : List Char → List Char
  | [] => []
  | c :: after =>
    let lowered :=
      if c = 'Σ' then
        if meetsCased before && !meetsCased after then ['ς'] else ['σ']
      else lowerChar c
    lowered ++ lowerFrom (c :: before) after

def lowerChars (cs : List Char) : List Char := lowerFrom [] cs

/-- The lower case of a text. -/
def lowercase (s : String) : String := String.ofList (lowerChars s.toList)


end Vicinity.Text

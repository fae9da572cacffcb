import Vicinity.Dyconit.Policies
import Vicinity.Error
import Vicinity.Text.Blank
import Vicinity.Text.Lowercase
import Vicinity.Text.Split

/-! # Policy descriptors

A descriptor is a name and parameters, separated by semicolons. The name, without the blanks around
it and in any letter case, may be any part from the start of a family's name; a blank name names no
family. Only the family with given bounds reads parameters: it takes its two bounds from the first
two. A bound is an unsigned 32-bit numeral with blanks around it and perhaps a plus sign.

`Descriptor.policy` builds what a descriptor names and `Descriptor.validate` checks one without
building; unlike the first, the second also rejects a name that fits no family.
-/

namespace Vicinity.Dyconit

/-- Why a text is no unsigned 32-bit numeral. -/
inductive NumeralFault where
  | empty
  | invalidDigit
  | tooLarge
deriving DecidableEq, Repr, Inhabited

def NumeralFault.message : NumeralFault → String
  | empty => "cannot parse integer from empty string"
  | invalidDigit => "invalid digit found in string"
  | tooLarge => "number too large to fit in target type"

/-- Read digits onto a value; the first fault from the left counts. -/
def readDigits (value : Nat) : List Char → Except NumeralFault Nat
  | [] => .ok value
  | c :: rest =>
    match Numeral.digitValue? c with
    | none => .error .invalidDigit
    | some d =>
      if value * 10 + d < UInt32.size then readDigits (value * 10 + d) rest else .error .tooLarge

/-- An unsigned 32-bit numeral: digits, with at most one plus sign before them. -/
def readNumeral : List Char → Except NumeralFault UInt32
  | [] => .error .empty
  | ['+'] => .error .invalidDigit
  | '+' :: digits => (readDigits 0 digits).map UInt32.ofNat
  | digits => (readDigits 0 digits).map UInt32.ofNat

/-- A descriptor taken apart: the name it begins with and the parameters after it. -/
structure Descriptor where
  name : String
  parameters : List String
deriving DecidableEq, Repr, Inhabited

namespace Descriptor

def ofString (s : String) : Descriptor :=
  match Text.split ';' s with
  | [] => ⟨"", []⟩
  | name :: parameters => ⟨Text.trim name, parameters⟩

/-- The first family whose name begins with the given one, letter case apart. -/
def family? (d : Descriptor) : Option Family :=
  if d.name = "" then none
  else
    Family.all.find? fun family =>
      (Text.lowercase d.name).toList.isPrefixOf (Text.lowercase family.name).toList

/-- The bound at a position, counted from zero, under the name it has in error texts. -/
def boundAt (d : Descriptor) (index : Nat) (name : String) : Except ConfigError UInt32 :=
  match d.parameters[index]? with
  | none =>
    .error (.invalidParameter name "" (Family.single.name ++ " expects a value at position " ++
      Numeral.natural (index + 1)))
  | some raw =>
    match readNumeral (Text.trim raw).toList with
    | .ok value => .ok value
    | .error fault => .error (.invalidParameter name raw fault.message)

/-- The two bounds in the parameters. -/
def bounds (d : Descriptor) : Except ConfigError Bounds := do
  let staleness ← d.boundAt 0 "staleness"
  let numerical ← d.boundAt 1 "numerical"
  return ⟨staleness, numerical⟩

variable {M : Type}

/-- The policy that a descriptor names; none if it names no family. -/
def policy (s : String) (viewDistance : UInt32) :
    Except ConfigError (Option (Policy Viewer M)) :=
  let d := ofString s
  match d.family? with
  | none => .ok none
  | some .chunk => .ok (some (chunkPolicy viewDistance))
  | some .zero => .ok (some zeroPolicy)
  | some .infinite => .ok (some infinitePolicy)
  | some .single => d.bounds.map fun bounds => some (singlePolicy bounds)
  | some .quadratic => .ok (some (quadraticPolicy viewDistance))

/-- The families' names as an error text lists them. -/
def familyNames : String :=
  "[" ++ String.intercalate ", " (Family.all.map fun family => Text.quoted family.name) ++ "]"

/-- Check a descriptor: a blank name is fine, any other must name a family, and where the family
takes bounds they must be there. -/
def validate (s : String) : Except ConfigError Unit :=
  let d := ofString s
  if d.name = "" then .ok ()
  else
    match d.family? with
    | none =>
      .error (.invalidParameter "policy.dyconit" s
        ("no dyconit policy matches, expected a prefix of one of " ++ familyNames))
    | some .single => d.bounds.map fun _ => ()
    | some _ => .ok ()

end Descriptor

end Vicinity.Dyconit

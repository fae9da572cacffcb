import Vicinity.Log.Pattern.Set
import Vicinity.Number.Loose
import Vicinity.Text.WordTable

/-! # Patterns

The values of fields are described by numbers or by patterns, which are regular expressions. What a
pattern matches is of no interest here, only whether there is such a pattern: `Pattern.isValid`.

A pattern is made of characters, escapes, sets in brackets, groups in parentheses, bars between
alternatives, and marks of repetition, which lie in one another up to a certain depth. A pattern
never holds a closing brace, a comma or an equals sign, because these have another meaning where
patterns stand; therefore all that would need a closing brace, like a number of repetitions, is
invalid. Flags hold up to the end of the group in which they are set.
-/

namespace Vicinity.Pattern

/-- A group that is open, or the whole pattern. -/
structure Group where
  flags : Flags
  /-- The alternatives before the latest bar. -/
  alternatives : Row
  /-- The parts since then. -/
  parts : Row
  /-- Whether the last part may be repeated. -/
  isRepeatable : Bool
deriving DecidableEq, Repr, Inhabited

namespace Group

def initial (flags : Flags) : Group := ⟨flags, .empty, .empty, false⟩

/-- Go on after a part. -/
def add (group : Group) (depth : Nat) : Group :=
  { group with parts := group.parts.add depth, isRepeatable := true }

/-- Go on after a bar. -/
def alternate (group : Group) : Group :=
  ⟨group.flags, group.alternatives.add group.parts.depth, .empty, false⟩

/-- The depth of what stands in the group. -/
def depth (group : Group) : Nat := (group.alternatives.add group.parts.depth).depth

/-- Repeat the last part. -/
def repeated? (group : Group) : Option Group :=
  if group.isRepeatable then some { group with parts := group.parts.wrap } else none

/-- Change the flags from here on, which counts as a part. -/
def withFlags (group : Group) (flags : Flags) : Group :=
  { group with flags, parts := group.parts.add 0, isRepeatable := false }

end Group

/-- Where the reading of a pattern stands. -/
structure Reading where
  group : Group
  /-- The groups in which the open one lies, the innermost first. -/
  outer : List Group
  /-- The names of groups. -/
  names : List String
deriving DecidableEq, Repr, Inhabited

namespace Reading

def initial : Reading := ⟨.initial .initial, [], []⟩

def flags (r : Reading) : Flags := r.group.flags

/-- Open a group with certain flags. -/
def opened (r : Reading) (flags : Flags) : Reading := ⟨.initial flags, r.group :: r.outer, r.names⟩

/-- Open a group with a name, which ends with an angle. -/
def named? (r : Reading) (input : List Char) : Option (Reading × List Char) :=
  let inName (c : Char) : Bool := ['_', '.', '[', ']'].contains c || Text.isAlphanumeric c
  match input.takeWhile (· != '>'), input.dropWhile (· != '>') with
  | first :: others, '>' :: rest =>
    let name := String.ofList (first :: others)
    if (first == '_' || Text.isLetter first) && others.all inName && !r.names.contains name then
      some ({ r.opened r.flags with names := name :: r.names }, rest)
    else none
  | _, _ => none

/-- Change flags, for a group or up to the end of the open one. -/
def flagged? (r : Reading) (input : List Char) : Option (Reading × List Char) :=
  let isInside (c : Char) : Bool := c != ':' && c != ')'
  let letters := input.takeWhile isInside
  (r.flags.change? letters).bind fun flags =>
    match input.dropWhile isInside with
    | ':' :: rest => some (r.opened flags, rest)
    | ')' :: rest =>
      if letters.isEmpty then none else some ({ r with group := r.group.withFlags flags }, rest)
    | _ => none

/-- Go on after an opening parenthesis. -/
def group? (r : Reading) (input : List Char) : Option (Reading × List Char) :=
  match input with
  | '?' :: 'P' :: '<' :: rest | '?' :: '<' :: rest => r.named? rest
  | '?' :: rest => r.flagged? rest
  | _ => some (r.opened r.flags, input)

/-- Close the open group, if there is one. -/
def closed? (r : Reading) : Option Reading :=
  match r.outer with
  | [] => none
  | around :: outer => some ⟨around.add (r.group.depth + 1), outer, r.names⟩

/-- Read one part of a pattern. -/
def step? (r : Reading) : List Char → Option (Reading × List Char)
  | [] => none
  | '(' :: rest => r.group? (r.flags.skip rest)
  | ')' :: rest => r.closed?.map fun r => (r, rest)
  | '|' :: rest => some ({ r with group := r.group.alternate }, rest)
  | '[' :: rest =>
    (set r.flags rest).map fun (depth, rest) => ({ r with group := r.group.add depth }, rest)
  | '\x7b' :: _ => none
  | c :: rest =>
    if ['?', '*', '+'].contains c then
      r.group.repeated?.map fun group =>
        ({ r with group }, if rest.head? = some '?' then rest.drop 1 else rest)
    else
      match atom r.flags (c :: rest) with
      | some (atom, rest) =>
        if atom.isAllowed r.flags then some ({ r with group := r.group.add 0 }, rest) else none
      | none => none

/-- Whether the rest of a pattern is valid; `fuel` is larger than its length. -/
def isValid : Nat → Reading → List Char → Bool
  | 0, _, _ => false
  | fuel + 1, r, input =>
    match r.flags.skip input with
    | [] => r.outer.isEmpty && r.group.depth ≤ mostDepth
    | rest =>
      match r.step? rest with
      | some (r, rest) => isValid fuel r rest
      | none => false

end Reading

def isValid (cs : List Char) : Bool := Reading.initial.isValid (cs.length + 1) cs

/-- Whether a text describes values: as a number or as a pattern. -/
def describesValue (cs : List Char) : Bool := (Number.loose? cs).isSome || isValid cs

end Vicinity.Pattern

import Vicinity.Log.Pattern.Atom
import Vicinity.Log.Pattern.Nesting

/-! # Sets in patterns

A set in brackets has members: characters, ranges of characters, classes and other sets. Two marks
of the same kind join the members before them with those after them.
-/

namespace Vicinity.Pattern

/-- The names of classes that stand in sets between colons. -/
def classNames : List String :=
  ["alnum", "alpha", "ascii", "blank", "cntrl", "digit", "graph", "lower", "print", "punct",
    "space", "upper", "word", "xdigit"]

/-- A class between colons after its opening bracket: whether it is negated, and what follows. -/
def namedClass? (input : List Char) : Option (Bool × List Char) :=
  match input with
  | ':' :: rest =>
    let (negated, rest) := match rest with
      | '^' :: rest => (true, rest)
      | _ => (false, rest)
    match rest.dropWhile (· != ':') with
    | ':' :: ']' :: after =>
      if classNames.contains (String.ofList (rest.takeWhile (· != ':'))) then some (negated, after)
      else none
    | _ => none
  | _ => none

/-- The mark of negation after an opening bracket, if it is there and may be. -/
def afterNegation (flags : Flags) (input : List Char) : Option (List Char) :=
  match flags.skip input with
  | '^' :: rest => if flags.byCharacter then some rest else none
  | rest => some rest

/-- An atom as it is written in a set, where only the backslash has a meaning of its own. -/
def written (flags : Flags) : List Char → Option (Atom × List Char)
  | [] => none
  | '\\' :: rest => escape flags rest
  | c :: rest => some (.character c false, rest)

/-- A member of a set or a range of members, and what follows it. -/
def member (flags : Flags) (input : List Char) : Option (List Char) := do
  let (first, rest) ← written flags input
  if !first.isMember flags then none
  else
    match flags.skip rest with
    | [] => none
    | '-' :: after =>
      let after := flags.skip after
      if after.head? = some ']' || after.head? = some '-' then some ('-' :: after)
      else
        match first, ← written flags after with
        | .character least _, (.character most asByte, rest) =>
          if Atom.isMember flags (.character most asByte) && least ≤ most then some rest else none
        | _, _ => none
    | rest => some rest

/-- Whether a class between colons may stand in a set. -/
def allowsNamed (flags : Flags) (negated : Bool) : Bool :=
  if flags.byCharacter then !flags.anyCase else !negated

/-- Where the reading of a set stands. -/
inductive Front where
  /-- After the opening bracket, where even a closing bracket is a member. -/
  | opening
  /-- After hyphens that are members because they stand in front. -/
  | hyphens
  | inside
deriving DecidableEq, Repr, Inhabited

/-- An open set: the depth of what stands before the latest joining marks, and the members since
then. -/
structure OpenSet where
  joined : Option Nat
  members : Row
deriving DecidableEq, Repr, Inhabited

namespace OpenSet

def empty : OpenSet := ⟨none, .empty⟩

def add (set : OpenSet) (depth : Nat) : OpenSet := { set with members := set.members.add depth }

/-- The depth of what stands in the brackets. -/
def depth (set : OpenSet) : Nat :=
  match set.joined with
  | none => set.members.depth
  | some before => max before set.members.depth + 1

/-- Go on after joining marks. -/
def join (set : OpenSet) : OpenSet := ⟨some set.depth, .empty⟩

end OpenSet

/-- The depth of a set, and what follows it, from among its members; `outer` are the sets that it
lies in. -/
def closeSet (flags : Flags) : Nat → Front → OpenSet → List OpenSet → List Char →
    Option (Nat × List Char)
  | 0, _, _, _, _ => none
  | fuel + 1, front, set, outer, input =>
    match flags.skip input with
    | [] => none
    | c :: rest =>
      if c == '-' && front != .inside || c == ']' && front == .opening then
        if Atom.isMember flags (.character c false) then
          closeSet flags fuel (if c == '-' then .hyphens else .inside) (set.add 0) outer rest
        else none
      else if c == '[' then
        match namedClass? rest with
        | some (negated, rest) =>
          if allowsNamed flags negated then closeSet flags fuel .inside (set.add 0) outer rest
          else none
        | none => (afterNegation flags rest).bind (closeSet flags fuel .opening .empty (set :: outer))
      else if c == ']' then
        match outer with
        | [] => some (set.depth + 1, rest)
        | around :: outer => closeSet flags fuel .inside (around.add (set.depth + 1)) outer rest
      else if ['&', '-', '~'].contains c && rest.head? == some c then
        closeSet flags fuel .inside set.join outer (rest.drop 1)
      else (member flags (c :: rest)).bind (closeSet flags fuel .inside (set.add 0) outer)

/-- The depth of a set after its opening bracket, and what follows it. -/
def set (flags : Flags) (input : List Char) : Option (Nat × List Char) :=
  (afterNegation flags input).bind fun rest =>
    closeSet flags (rest.length + 1) .opening .empty [] rest

end Vicinity.Pattern

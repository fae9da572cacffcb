import Vicinity.Log.Event
import Vicinity.Log.Pattern
import Vicinity.Text.Order
import Vicinity.Text.Slice
import Vicinity.Text.Split

/-! # Log filters

A filter is a list of directives. A directive gives a threshold to the events whose target begins
with a text, or to those of all targets; it may also ask for a field that an event must have. Of the
directives that fit an event the most special one decides: the one with the longest text, of those
one that asks for a field, of those the one whose field comes last in order; and of two that ask for
the same the later one. Where none fits, nothing comes through. A filter without any directive lets
errors through.

Directives are written with commas between them, and empty ones are passed over. A directive is
`target=threshold`, a threshold alone, or a target alone, which lets everything of the target
through, as an empty threshold does. It begins with a letter, a number or one of three marks. After
the target there may be a span in brackets, with a field in braces. A directive that names a span or
describes the value of a field concerns what happens inside spans and says nothing about an event
outside of all spans.

The marks of a directive are looked for without the blanks around it, but its parts are cut out by
their places in the text with the blanks. So blanks at the end belong to the last part, and blanks
in front shift every part.
-/

namespace Vicinity

structure LogDirective where
  target : Option String
  /-- The field that an event must have. -/
  field : Option String
  /-- Whether only what happens inside spans is concerned. -/
  inSpan : Bool
  threshold : Threshold
deriving DecidableEq, Repr, Inhabited

namespace LogDirective

/-- The threshold if a directive gives none. -/
def everything : Threshold := .upTo .trace

/-- A directive that says nothing yet. -/
def blank : LogDirective := ⟨none, none, false, everything⟩

/-- Where the reading of a directive stands; a part of it begins at a place. -/
inductive Reading where
  | start
  /-- In a word, which is a target or a threshold. -/
  | word (first : Nat)
  | span (first : Nat)
  | field (first : Nat)
  | afterField
  | afterSpan
  | threshold (first : Nat)
deriving DecidableEq, Repr, Inhabited

/-- The characters with which a target may begin. -/
def beginsTarget (c : Char) : Bool := c == '-' || c == ':' || c == '_' || Text.isAlphanumeric c

/-- A directive with a field, which may have the description of a value after an equals sign; a
second equals sign ends that. -/
def withField? (d : LogDirective) (written : List Char) : Option LogDirective :=
  match Text.splitParts '=' written with
  | ([], []) => none
  | (name, []) => some { d with field := some (String.ofList name) }
  | (_, value :: _) =>
    if Pattern.describesValue value then some { d with inSpan := true } else none

/-- Read one character, which is at a place; `text` is the whole directive. -/
def readChar (text : List Char) (read : LogDirective × Reading) (here : Nat × Char) :
    Option (LogDirective × Reading) :=
  let (d, reading) := read
  let (place, c) := here
  let next := place + c.utf8Size
  match reading with
  | .start =>
    if c = '[' then some (d, .span next)
    else if beginsTarget c then some (d, .word place)
    else none
  | .word first =>
    if c = '=' ∨ c = '[' then
      (Text.part? first place text).map fun target =>
        ({ d with target := some (String.ofList target) },
          if c = '=' then .threshold next else .span next)
    else some (d, .word first)
  | .span first =>
    if c = ']' then some ({ d with inSpan := true }, .afterSpan)
    else if c = '\x7b' then
      (Text.part? first place text).map fun name =>
        ({ d with inSpan := !name.isEmpty }, .field next)
    else some (d, .span first)
  | .field first =>
    if c = '\x7d' then
      (Text.part? first place text).bind fun written =>
        (d.withField? written).map fun d => (d, .afterField)
    else some (d, .field first)
  | .afterField => if c = ']' then some (d, .afterSpan) else none
  | .afterSpan => if c = '=' then some (d, .threshold next) else none
  | .threshold first => some (d, .threshold first)

/-- A directive with what a word says, which is a threshold if it can be read as one. -/
def withWord (d : LogDirective) (word : String) : LogDirective :=
  match Threshold.ofText? word with
  | some threshold => { d with threshold }
  | none => { d with target := some word }

/-- A directive after its last character. -/
def finish (text : List Char) : LogDirective × Reading → Option LogDirective
  | (d, .word first) => (Text.divide? first text).map fun (_, word) => d.withWord (.ofList word)
  | (d, .threshold first) =>
    (Text.divide? first text).bind fun (_, word) =>
      if word.isEmpty then some d
      else (Threshold.ofText? (.ofList word)).map fun threshold => { d with threshold }
  | (d, .afterSpan) => some d
  | _ => none

def ofText? (s : String) : Option LogDirective :=
  let text := s.toList
  ((Text.placed 0 (Text.trimChars text)).foldlM (readChar text) (blank, .start)).bind (finish text)

/-- Whether a directive concerns an event. -/
def fits (d : LogDirective) (event : LogEvent) : Bool :=
  !d.inSpan && (d.target.all fun start => start.toList.isPrefixOf event.target.toList) &&
    d.field.all event.fields.contains

/-- How much of a target a directive names; one for all targets names less than any other. -/
def length (d : LogDirective) : Nat :=
  match d.target with
  | none => 0
  | some start => start.length + 1

/-- Whether a directive that fits is less special than another one that fits the same event. -/
def isBelow (d other : LogDirective) : Bool :=
  d.length < other.length ||
    (d.length == other.length && !Text.rowLe other.field.toList d.field.toList)

end LogDirective

/-- Directives in the order in which they are given. -/
abbrev LogFilter := List LogDirective

namespace LogFilter

/-- Everything up to a level. -/
def upTo (level : Level) : LogFilter := [⟨none, none, false, .upTo level⟩]

/-- The filter that a text stands for, if every directive in it can be read. -/
def ofText? (s : String) : Option LogFilter :=
  ((Text.split ',' s).filter fun part => !part.isEmpty).mapM LogDirective.ofText? |>.map
    fun directives => if directives.isEmpty then upTo .error else directives

/-- The directive that decides about an event. -/
def deciding? (filter : LogFilter) (event : LogEvent) : Option LogDirective :=
  filter.foldl (fun best d =>
    if d.fits event && best.all fun b => !d.isBelow b then some d else best) none

/-- The threshold for an event. -/
def threshold (filter : LogFilter) (event : LogEvent) : Threshold :=
  match filter.deciding? event with
  | some d => d.threshold
  | none => .off

def admits (filter : LogFilter) (event : LogEvent) : Bool :=
  (filter.threshold event).admits event.level

end LogFilter

end Vicinity

import Vicinity.Log.Level

/-! # Events

What is logged is an event: it has a level, a target, which is a name for where it comes from, and
named fields, one of which is its message.
-/

namespace Vicinity

structure LogEvent where
  level : Level
  target : String
  /-- The names of the fields other than the message. -/
  details : List String
  message : String
deriving DecidableEq, Repr, Inhabited

namespace LogEvent

/-- What the field of the message is called. -/
def messageField : String := "message"

/-- The names of all fields. -/
def fields (event : LogEvent) : List String := messageField :: event.details

/-- An event with nothing but a message. -/
def plain (level : Level) (target message : String) : LogEvent := ⟨level, target, [], message⟩

end LogEvent

end Vicinity

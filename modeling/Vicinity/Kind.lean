import Vicinity.Error
import Vicinity.Text.Lowercase

/-! # Kinds of brokers and channels

Both are chosen by name. Names are compared by their folded forms: hyphens and underscores are left
out and every letter is put into lower case. A name that folds to no known one is rejected with the
text as it was given.
-/

namespace Vicinity

/-- How a broker stores its topics. -/
inductive BrokerKind where
  | concurrent
  | sharded
  | readWrite
  | middleware
deriving DecidableEq, Repr, Inhabited

/-- How a channel stores its subscribers. -/
inductive ChannelKind where
  | concurrent
  | readWrite
  | snapshot
deriving DecidableEq, Repr, Inhabited

namespace Kind

/-- The characters of a name that count in a comparison. -/
def significant (c : Char) : Bool := c != '-' && c != '_'

/-- The form in which names are compared. -/
def fold (name : String) : List Char :=
  (name.toList.filter significant).flatMap Text.lowerChar

/-- The first of the candidates whose name has the same folded form. -/
def find? {Kind : Type} (candidates : List Kind) (nameOf : Kind → String) (name : String) :
    Option Kind :=
  candidates.find? fun kind => fold (nameOf kind) == fold name

end Kind

namespace BrokerKind

def all : List BrokerKind := [concurrent, sharded, readWrite, middleware]

def name : BrokerKind → String
  | concurrent => "Concurrent"
  | sharded => "Sharded"
  | readWrite => "ReadWrite"
  | middleware => "Middleware"

def parse (s : String) : Except ConfigError BrokerKind :=
  match Kind.find? all name s with
  | some kind => .ok kind
  | none => .error (.unknownBrokerKind s)

end BrokerKind

namespace ChannelKind

def all : List ChannelKind := [concurrent, readWrite, snapshot]

def name : ChannelKind → String
  | concurrent => "Concurrent"
  | readWrite => "ReadWrite"
  | snapshot => "Snapshot"

def parse (s : String) : Except ConfigError ChannelKind :=
  match Kind.find? all name s with
  | some kind => .ok kind
  | none => .error (.unknownChannelKind s)

end ChannelKind

end Vicinity

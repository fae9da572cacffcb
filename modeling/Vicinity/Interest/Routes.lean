import Vicinity.Interest.Policy
import Vicinity.Table

/-! # Policies given by tables

The interest of each subscriber and the route of each named publisher are looked up. A subscriber
without an entry wants nothing; a publisher without a route speaks to the one topic of its own name.
Only publishers that are texts have names.
-/

namespace Vicinity

/-- Interests by subscribers and topics by publishers' names. -/
structure RouteTable (S : Type) where
  interests : Table S (TopicSet String)
  routes : Table String (List String)

namespace RouteTable

variable {S : Type}

def empty : RouteTable S := ⟨∅, ∅⟩

/-- The topics of a publisher. -/
def targets (table : RouteTable S) : Publisher → Except UnsupportedPublisher (List String)
  | .text name => .ok ((table.routes.get? name).getD [name])
  | other => .error other.unsupported

/-- Route a named publisher to topics, each as often as it is listed. -/
def route (table : RouteTable S) (name : String) (topics : List String) : RouteTable S :=
  { table with routes := table.routes.insert name topics }

variable [DecidableEq S]

def interest (table : RouteTable S) (s : S) : TopicSet String := (table.interests.get? s).getD ∅

/-- Set what a subscriber wants. -/
def want (table : RouteTable S) (s : S) (topics : List String) : RouteTable S :=
  { table with interests := table.interests.insert s (.ofList topics) }

/-- The policy of the tables as they are now. -/
def toPolicy (table : RouteTable UInt64) : Policy Viewer String where
  interest viewer := table.interest viewer.id
  targets := table.targets

end RouteTable

end Vicinity

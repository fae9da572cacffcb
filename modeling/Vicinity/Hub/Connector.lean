import Vicinity.Hub.Basic

/-! # Connecting to hubs

An address is the loopback scheme followed by the name of a hub, which is one segment and not empty.
Connections to one name share one hub; the first of them starts it.
-/

namespace Vicinity

/-- The hubs that were started by connecting to them, under their names. -/
structure Connector (H : Type) where
  hubs : Table String (Hub H)

/-- A connection to a hub. -/
structure Connection where
  hub : String
  id : Nat
deriving DecidableEq, Repr, Inhabited

namespace Connector

variable {H : Type}

def new : Connector H := ⟨∅⟩

/-- The scheme of loopback addresses. -/
def scheme : String := "loopback://"

/-- The name of the hub that an address leads to. -/
def hubName (uri : String) : Except BrokerError String :=
  match scheme.toList.isPrefixOf? uri.toList with
  | none => .error (.unsupportedScheme uri)
  | some name =>
    if name.isEmpty || name.contains '/' then
      .error (.connection uri "hub name must be a single non-empty segment")
    else .ok (String.ofList name)

/-- The hub of a name, if someone has connected to it. -/
def hub? (connector : Connector H) (name : String) : Option (Hub H) := connector.hubs.get? name

/-- Open a connection to the hub that an address leads to. -/
def connect (connector : Connector H) (uri : String) :
    Except BrokerError (Connection × Connector H) :=
  (hubName uri).map fun name =>
    let hub := (connector.hub? name).getD (.start name)
    let (id, connected) := hub.connect
    (⟨name, id⟩, ⟨connector.hubs.insert name connected⟩)

end Connector

end Vicinity

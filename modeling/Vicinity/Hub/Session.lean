import Vicinity.Hub.Connector

/-! # Sessions with hubs

A session opens connections and numbers them. A connection leads to a hub of the connector, which is
shared under its name, or to a hub that was started for this session alone; the empty name stands
for the hub of the latter sort that was started last. Every publication is followed by a flush, so
that its frame has reached its handlers; what the handlers do is kept in a log.
-/

namespace Vicinity

/-- Where a connection leads. -/
inductive HubPlace where
  | shared (name : String)
  | own (index : Nat)
deriving DecidableEq, Repr, Inhabited

/-- Hubs, numbered connections to them, and the log of their handlers. -/
structure HubSession (H L : Type) where
  connector : Connector H
  own : List (Hub H)
  connections : List (HubPlace × Nat)
  log : L

namespace HubSession

variable {H L : Type}

def new (log : L) : HubSession H L := ⟨.new, [], [], log⟩

def hub? (s : HubSession H L) : HubPlace → Option (Hub H)
  | .shared name => s.connector.hub? name
  | .own index => s.own[index]?

def withHub (s : HubSession H L) (place : HubPlace) (hub : Hub H) : HubSession H L :=
  match place with
  | .shared name => { s with connector := ⟨s.connector.hubs.insert name hub⟩ }
  | .own index => { s with own := s.own.set index hub }

/-- The place and the hub of a name. -/
def find? (s : HubSession H L) (name : String) : Option (HubPlace × Hub H) :=
  let place := if name = "" then HubPlace.own (s.own.length - 1) else .shared name
  (s.hub? place).map fun hub => (place, hub)

/-- Number a new connection. -/
def addConnection (s : HubSession H L) (place : HubPlace) (id : Nat) : Nat × HubSession H L :=
  (s.connections.length, { s with connections := s.connections ++ [(place, id)] })

/-- Connect to the hub of an address; the answer is the number of the connection. -/
def connect (s : HubSession H L) (uri : String) : Except BrokerError (Nat × HubSession H L) :=
  (s.connector.connect uri).map fun (connection, connector) =>
    { s with connector }.addConnection (.shared connection.hub) connection.id

/-- Start a hub and connect to it; the answer is the number of the connection. -/
def start (s : HubSession H L) (name : String) : Nat × HubSession H L :=
  let (id, hub) := (Hub.start name).connect
  { s with own := s.own ++ [hub] }.addConnection (.own s.own.length) id

/-- The place, the hub and the identity there of a numbered connection. -/
def connection? (s : HubSession H L) (number : Nat) : Option (HubPlace × Hub H × Nat) :=
  s.connections[number]?.bind fun (place, id) => (s.hub? place).map fun hub => (place, hub, id)

/-- Flush a hub. -/
def flush (call : H → ByteArray → L → Outcome × L) (s : HubSession H L) (place : HubPlace)
    (hub : Hub H) : Except BrokerError Unit × HubSession H L :=
  let (result, flushed, log) := hub.flush call s.log
  (result, { s.withHub place flushed with log })

/-- Publish a frame and flush. -/
def publish (call : H → ByteArray → L → Outcome × L) (s : HubSession H L) (place : HubPlace)
    (hub : Hub H) (topic : String) (payload : ByteArray) :
    Except BrokerError Unit × HubSession H L :=
  match hub.publish topic payload with
  | .error e => (.error e, (s.flush call place hub).2)
  | .ok sent => (.ok (), (s.flush call place sent).2)

/-- Shut a hub down. -/
def shutdown (call : H → ByteArray → L → Outcome × L) (s : HubSession H L) (place : HubPlace)
    (hub : Hub H) : HubSession H L :=
  let (stopped, log) := hub.shutdown call s.log
  { s.withHub place stopped with log }

end HubSession

end Vicinity

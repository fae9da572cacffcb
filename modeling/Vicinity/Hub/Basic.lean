import Vicinity.Channel.Delivery
import Vicinity.Error
import Vicinity.Table

/-! # Loopback hubs

A hub passes frames between the connections opened on it. Publishing puts a frame at the end of one
queue; the hub's dispatcher takes frames from the front, one at a time, and hands each to the
handlers that are routed for its topic at that moment. A flush puts a marker into the queue and is
answered when the dispatcher reaches it. A hub that is shut down accepts nothing more but still
dispatches what it has accepted. A handler that panics ends the dispatcher: what is queued is lost
and nothing is accepted any more.

`H` is the type of handlers, so that a hub can be read without running any. `dispatch` runs them in
a world of their own; a world that holds the hub itself takes the steps `next?` and `handlersFor`
apart.

Connections are numbered without bound here. Where their numbers are 64-bit words, everything is the
same as long as fewer than 2 ^ 64 of them have been opened.
-/

namespace Vicinity

/-- What stands in a hub's queue. -/
inductive HubEntry where
  | message (topic : String) (payload : ByteArray)
  | marker (ticket : Nat)
deriving Inhabited

structure Hub (H : Type) where
  name : String
  /-- For each topic, the handler of every connection that listens to it. -/
  routes : Table String (Table Nat H)
  /-- Accepted entries that are not yet dispatched, the oldest first. -/
  queue : List HubEntry
  /-- The tickets of the markers that the dispatcher has reached. -/
  passed : List Nat
  connections : Nat
  tickets : Nat
  accepting : Bool
  alive : Bool

namespace Hub

variable {H W : Type}

/-- A new hub with its dispatcher running. -/
def start (name : String) : Hub H where
  name := name
  routes := ∅
  queue := []
  passed := []
  connections := 0
  tickets := 0
  accepting := true
  alive := true

instance : Inhabited (Hub H) := ⟨start ""⟩

/-- Open a connection; connections are numbered in the order of their opening. -/
def connect (hub : Hub H) : Nat × Hub H :=
  (hub.connections, { hub with connections := hub.connections + 1 })

/-- The number of topics that some connection listens to. -/
def topicCount (hub : Hub H) : Nat := hub.routes.size

/-- The handlers routed for a topic. -/
def handlersFor (hub : Hub H) (topic : String) : List H :=
  match hub.routes.get? topic with
  | some listeners => listeners.values
  | none => []

/-- Route a topic to a connection's handler, in place of the one it may have. -/
def subscribe (hub : Hub H) (connection : Nat) (topic : String) (handler : H) : Hub H :=
  let listeners := (hub.routes.get? topic).getD ∅
  { hub with routes := hub.routes.insert topic (listeners.insert connection handler) }

/-- Take away a connection's route for a topic, and the topic with its last route. -/
def unsubscribe (hub : Hub H) (connection : Nat) (topic : String) : Hub H :=
  match hub.routes.get? topic with
  | none => hub
  | some listeners =>
    let left := listeners.erase connection
    { hub with
      routes := if left.isEmpty then hub.routes.erase topic else hub.routes.insert topic left }

/-- Take away all routes of a connection, and the topics that are left without any. -/
def detach (hub : Hub H) (connection : Nat) : Hub H :=
  let left := hub.routes.map fun listeners => listeners.erase connection
  { hub with routes := left.filter fun _ listeners => !listeners.isEmpty }

/-- Put an entry at the end of the queue. -/
def send (hub : Hub H) (entry : HubEntry) : Except BrokerError (Hub H) :=
  if hub.accepting && hub.alive then .ok { hub with queue := hub.queue ++ [entry] }
  else .error .closed

def publish (hub : Hub H) (topic : String) (payload : ByteArray) : Except BrokerError (Hub H) :=
  hub.send (.message topic payload)

/-- Put a new marker at the end of the queue; the answer is its ticket. -/
def requestFlush (hub : Hub H) : Except BrokerError (Nat × Hub H) :=
  (hub.send (.marker hub.tickets)).map fun next =>
    (hub.tickets, { next with tickets := hub.tickets + 1 })

/-- Accept nothing more. -/
def refuse (hub : Hub H) : Hub H := { hub with accepting := false }

/-- The end of the dispatcher by a panic. -/
def die (hub : Hub H) : Hub H := { hub with alive := false, queue := [] }

/-- The entry at the front of the queue, and the hub without it. A marker counts as reached. -/
def next? (hub : Hub H) : Option (HubEntry × Hub H) :=
  match hub.queue with
  | [] => none
  | .marker ticket :: rest =>
    some (.marker ticket, { hub with queue := rest, passed := hub.passed ++ [ticket] })
  | entry :: rest => some (entry, { hub with queue := rest })

/-- Run handlers in order until one panics. -/
def runHandlers (call : H → W → Outcome × W) : List H → W → Outcome × W
  | [], world => (.returned, world)
  | handler :: rest, world =>
    match call handler world with
    | (.returned, next) => runHandlers call rest next
    | (.panicked, next) => (.panicked, next)

/-- One step of the dispatcher. -/
def dispatch (call : H → ByteArray → W → Outcome × W) (hub : Hub H) (world : W) : Hub H × W :=
  match hub.next? with
  | none => (hub, world)
  | some (.marker _, next) => (next, world)
  | some (.message topic payload, next) =>
    match runHandlers (fun handler => call handler payload) (hub.handlersFor topic) world with
    | (.returned, after) => (next, after)
    | (.panicked, after) => (next.die, after)

/-- So many steps of the dispatcher. -/
def dispatchMany (call : H → ByteArray → W → Outcome × W) : Nat → Hub H → W → Hub H × W
  | 0, hub, world => (hub, world)
  | steps + 1, hub, world =>
    let (next, after) := dispatch call hub world
    dispatchMany call steps next after

/-- Dispatch everything that is queued. -/
def drain (call : H → ByteArray → W → Outcome × W) (hub : Hub H) (world : W) : Hub H × W :=
  dispatchMany call hub.queue.length hub world

/-- Flush: wait for the dispatcher to reach a new marker. It never does if it ends before. -/
def flush (call : H → ByteArray → W → Outcome × W) (hub : Hub H) (world : W) :
    Except BrokerError Unit × Hub H × W :=
  match hub.requestFlush with
  | .error e => (.error e, hub, world)
  | .ok (ticket, marked) =>
    let (drained, after) := drain call marked world
    (if ticket ∈ drained.passed then .ok () else .error .closed, drained, after)

/-- Shut the hub down; what it has accepted is dispatched first. -/
def shutdown (call : H → ByteArray → W → Outcome × W) (hub : Hub H) (world : W) : Hub H × W :=
  drain call hub.refuse world

end Hub

end Vicinity

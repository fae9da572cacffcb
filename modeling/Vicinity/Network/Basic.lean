import Vicinity.Broker.InProcess
import Vicinity.Broker.Middleware

/-! # Networks of brokers

A network is a row of nodes, each an in-process or a middleware broker, and the hubs that join the
middleware brokers. Two sorts of steps change it: a request to one node, and a step of one hub's
dispatcher. Callbacks are called inside a step and may change the network themselves, so a call
takes the whole network and returns the one it leaves; `journal` holds whatever the callbacks keep
for themselves. Requests and dispatcher steps may follow one another in any order; `settle` lets the
dispatchers work until no hub has anything queued.
-/

namespace Vicinity

/-- A request to a broker. -/
inductive Request (T S C M : Type) where
  | subscribe (topic : T) (subscriber : S) (callback : C)
  | unsubscribe (topic : T) (subscriber : S)
  | publish (topic : T) (message : M)
  | close
deriving Repr, Inhabited

inductive Node (T S C : Type) where
  | inProcess (broker : InProcessBroker T S C)
  | middleware (broker : MiddlewareBroker T S C)

namespace Node

variable {T S C : Type} [DecidableEq T] [Hashable T]

omit [DecidableEq T] [Hashable T] in
def topicCount : Node T S C → Nat
  | inProcess broker => broker.topicCount
  | middleware broker => broker.topicCount

omit [DecidableEq T] [Hashable T] in
def stats : Node T S C → BrokerMetrics
  | inProcess broker => broker.stats
  | middleware broker => broker.metrics

def hasTopic : Node T S C → T → Bool
  | inProcess broker, t => broker.hasTopic t
  | middleware broker, t => broker.hasTopic t

end Node

structure Network (T S C J : Type) where
  nodes : List (Node T S C)
  connector : Connector (Inbound T)
  journal : J

/-- What the nodes of a network agree on: how topics are named on the transport, and how messages
are coded. -/
structure Wire (T M : Type) where
  nameOf : T → String
  codec : Codec M

namespace Network

variable {T S C J M : Type}

def new (journal : J) : Network T S C J := ⟨[], .new, journal⟩

/-- The call of a callback with a message. -/
abbrev Call (T S C J M : Type) := C → M → Network T S C J → Outcome × Network T S C J

def node? (w : Network T S C J) (n : Nat) : Option (Node T S C) := w.nodes[n]?

def withNode (w : Network T S C J) (n : Nat) (node : Node T S C) : Network T S C J :=
  { w with nodes := w.nodes.set n node }

/-- The hub at the other end of a connection. -/
def hub (w : Network T S C J) (name : String) : Hub (Inbound T) :=
  (w.connector.hub? name).getD (.start name)

def withHub (w : Network T S C J) (name : String) (hub : Hub (Inbound T)) : Network T S C J :=
  { w with connector := ⟨w.connector.hubs.insert name hub⟩ }

/-! ## Building -/

def addInProcess (w : Network T S C J) (layout : Layout) (channel : ChannelKind) :
    Network T S C J :=
  { w with nodes := w.nodes ++ [.inProcess (.new layout channel)] }

/-- Add a node on a new connection, whose transport has some refusals in store. -/
def addMiddleware (w : Network T S C J) (uri : String) (channel : ChannelKind)
    (refusals : Refusals) : Except BrokerError (Network T S C J) :=
  (w.connector.connect uri).map fun (connection, connector) =>
    let broker := .new w.nodes.length uri channel ⟨connection, refusals⟩
    { w with nodes := w.nodes ++ [.middleware broker], connector }

/-- Add the node that a plan describes. -/
def addPlanned (w : Network T S C J) (plan : BrokerPlan) (refusals : Refusals) :
    Except BrokerError (Network T S C J) :=
  match plan with
  | .inProcess layout channel => .ok (w.addInProcess layout channel)
  | .middleware uri channel => w.addMiddleware uri channel refusals

/-- Add the node that settings ask for. -/
def addConfigured (w : Network T S C J) (settings : BrokerSettings) (refusals : Refusals) :
    Except BrokerError (Network T S C J) :=
  settings.build w.addInProcess fun uri channel => w.addMiddleware uri channel refusals

/-- What settings ask for is what they plan, if they plan anything. -/
theorem addConfigured_eq (w : Network T S C J) (settings : BrokerSettings) (refusals : Refusals) :
    w.addConfigured settings refusals =
      (settings.plan.mapError .config).bind fun plan => w.addPlanned plan refusals := by
  rw [addConfigured, BrokerSettings.build]
  cases settings.plan with
  | error e => rfl
  | ok plan => cases plan <;> rfl

/-- A new connection sends a frame as it is. -/
def sendRaw (w : Network T S C J) (uri topic : String) (payload : ByteArray) :
    Except BrokerError Unit × Network T S C J :=
  match w.connector.connect uri with
  | .error e => (.error e, w)
  | .ok (connection, connector) =>
    let connected := { w with connector }
    match (connected.hub connection.hub).publish topic payload with
    | .error e => (.error e, connected)
    | .ok hub => (.ok (), connected.withHub connection.hub hub)

/-! ## Requests -/

/-- Carry the state of a middleware node and its hub back into the network. -/
def withMiddleware (w : Network T S C J) (n : Nat) (name : String)
    (after : MiddlewareBroker T S C × Hub (Inbound T)) : Network T S C J :=
  (w.withNode n (.middleware after.1)).withHub name after.2

/-- Count a publication on an in-process node. -/
def recordPublish (w : Network T S C J) (n : Nat) (report : Option DeliveryReport) :
    Network T S C J :=
  match w.node? n with
  | some (.inProcess broker) => w.withNode n (.inProcess (broker.record report))
  | _ => w

/-- Count a delivery on a middleware node. -/
def recordDelivery (w : Network T S C J) (n : Nat) (report : DeliveryReport) : Network T S C J :=
  match w.node? n with
  | some (.middleware broker) =>
    w.withNode n (.middleware { broker with metrics := broker.metrics.recordDelivery report })
  | _ => w

variable [DecidableEq T] [DecidableEq S] [Hashable T]

/-- A request to an in-process node. A publication calls the callbacks the topic has now, and is
counted when they have all been called. -/
def requestInProcess (call : Call T S C J M) (w : Network T S C J) (n : Nat)
    (broker : InProcessBroker T S C) : Request T S C M → Network T S C J
  | .subscribe t s callback => w.withNode n (.inProcess (broker.subscribe t s callback))
  | .unsubscribe t s => w.withNode n (.inProcess (broker.unsubscribe t s))
  | .publish t message =>
    match broker.channel? t with
    | none => w.recordPublish n none
    | some channel =>
      let (report, after) := channel.publish (fun callback => call callback message) w
      after.recordPublish n (some report)
  | .close => w

omit [Hashable T] in
/-- A request to a middleware node. -/
def requestMiddleware (wire : Wire T M) (w : Network T S C J) (n : Nat)
    (broker : MiddlewareBroker T S C) :
    Request T S C M → Except BrokerError Unit × Network T S C J
  | .subscribe t s callback =>
    (.ok (), w.withMiddleware n broker.link.connection.hub
      (broker.subscribe wire.nameOf (w.hub broker.link.connection.hub) t s callback))
  | .unsubscribe t s =>
    (.ok (), w.withMiddleware n broker.link.connection.hub
      (broker.unsubscribe wire.nameOf (w.hub broker.link.connection.hub) t s))
  | .publish t message =>
    (.ok (), w.withMiddleware n broker.link.connection.hub
      (broker.publish wire.nameOf wire.codec (w.hub broker.link.connection.hub) t message))
  | .close =>
    let (result, after) := broker.close (w.hub broker.link.connection.hub)
    (result, w.withMiddleware n broker.link.connection.hub after)

/-- A request to a node. Only closing a middleware node can fail. -/
def request (wire : Wire T M) (call : Call T S C J M) (w : Network T S C J) (n : Nat)
    (r : Request T S C M) : Except BrokerError Unit × Network T S C J :=
  match w.node? n with
  | none => (.ok (), w)
  | some (.inProcess broker) => (.ok (), w.requestInProcess call n broker r)
  | some (.middleware broker) => w.requestMiddleware wire n broker r

/-! ## Dispatching -/

omit [DecidableEq S] [Hashable T] in
/-- A frame reaches a node: if the node can decode it and still has the topic, the message goes to
the topic's channel. -/
def receive (wire : Wire T M) (call : Call T S C J M) (payload : ByteArray)
    (w : Network T S C J) (inbound : Inbound T) : Network T S C J :=
  match wire.codec.decode payload, w.node? inbound.node with
  | .ok message, some (.middleware broker) =>
    match broker.routes.get? inbound.topic with
    | none => w
    | some route =>
      let (report, after) := route.channel.publish (fun callback => call callback message) w
      after.recordDelivery inbound.node report
  | _, _ => w

omit [DecidableEq S] [Hashable T] in
/-- One step of a hub's dispatcher. -/
def dispatch (wire : Wire T M) (call : Call T S C J M) (w : Network T S C J) (name : String) :
    Network T S C J :=
  match (w.hub name).next? with
  | none => w
  | some (.marker _, next) => w.withHub name next
  | some (.message topic payload, next) =>
    (next.handlersFor topic).foldl (receive wire call payload) (w.withHub name next)

/-- The names of the hubs that have something queued. -/
def busy (w : Network T S C J) : List String :=
  (w.connector.hubs.entries.filter fun entry => !entry.2.queue.isEmpty).map Prod.fst

/-- The number of frames that are queued. -/
def queued (w : Network T S C J) : Nat :=
  (w.connector.hubs.values.map fun hub => hub.queue.length).foldr (· + ·) 0

omit [DecidableEq S] [Hashable T] in
/-- Let the dispatchers work until nothing is queued, for at most so many steps. -/
def settle (wire : Wire T M) (call : Call T S C J M) : Nat → Network T S C J → Network T S C J
  | 0, w => w
  | steps + 1, w =>
    match w.busy with
    | [] => w
    | name :: _ => settle wire call steps (w.dispatch wire call name)

omit [DecidableEq S] [Hashable T] in
/-- Flush the hub of a node: all that was queued there before is dispatched, in so many steps. -/
def flush (wire : Wire T M) (call : Call T S C J M) (steps : Nat) (w : Network T S C J)
    (name : String) : Except BrokerError Unit × Network T S C J :=
  match (w.hub name).requestFlush with
  | .error e => (.error e, w)
  | .ok (ticket, marked) =>
    let after := settle wire call (steps + 1) (w.withHub name marked)
    (if ticket ∈ (after.hub name).passed then .ok () else .error .closed, after)

omit [DecidableEq S] [Hashable T] in
/-- Shut a hub down, if there is one of that name. -/
def shutdown (wire : Wire T M) (call : Call T S C J M) (steps : Nat) (w : Network T S C J)
    (name : String) : Option (Network T S C J) :=
  (w.connector.hub? name).map fun hub => settle wire call steps (w.withHub name hub.refuse)

end Network

end Vicinity

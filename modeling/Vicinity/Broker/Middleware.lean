import Vicinity.Broker.Metrics
import Vicinity.Channel.Basic
import Vicinity.Hub.Connector

/-! # Brokers over a transport

A middleware broker keeps the channels of its own subscribers and leaves the spreading of messages
to a transport. For each of its topics it holds one subscription of the transport; the transport may
refuse it, and then the topic stays unattached and every later subscription or publication on it
tries again. A message is published by sending its frame; a frame that comes back is decoded and
delivered to the channel the topic has then. A closed broker has no topics and sends nothing.

The transport is a connection to a hub together with the answers it will give instead of passing a
request on: as long as a list of answers lasts, its next entry decides, and after that everything is
passed on.
-/

namespace Vicinity

/-- How messages become frames and frames become messages. -/
structure Codec (M : Type) where
  encode : M → Except CodecError ByteArray
  decode : ByteArray → Except CodecError M

/-- The refusals a transport has in store, for each sort of request; `none` passes a request on. -/
structure Refusals where
  subscribe : List (Option BrokerError) := []
  unsubscribe : List (Option BrokerError) := []
  publish : List (Option BrokerError) := []
  close : List (Option BrokerError) := []
deriving Repr, Inhabited

/-- A connection that may refuse requests. -/
structure Link where
  connection : Connection
  refusals : Refusals
deriving Repr, Inhabited

/-- The next answer of a list, and the list after it. -/
def Refusals.take : List (Option BrokerError) → Option BrokerError × List (Option BrokerError)
  | [] => (none, [])
  | answer :: rest => (answer, rest)

namespace Link

variable {H : Type}

def subscribe (link : Link) (hub : Hub H) (topic : String) (handler : H) :
    Except BrokerError Unit × Link × Hub H :=
  let (refusal, rest) := Refusals.take link.refusals.subscribe
  let next := { link with refusals := { link.refusals with subscribe := rest } }
  match refusal with
  | some e => (.error e, next, hub)
  | none => (.ok (), next, hub.subscribe link.connection.id topic handler)

def unsubscribe (link : Link) (hub : Hub H) (topic : String) :
    Except BrokerError Unit × Link × Hub H :=
  let (refusal, rest) := Refusals.take link.refusals.unsubscribe
  let next := { link with refusals := { link.refusals with unsubscribe := rest } }
  match refusal with
  | some e => (.error e, next, hub)
  | none => (.ok (), next, hub.unsubscribe link.connection.id topic)

def publish (link : Link) (hub : Hub H) (topic : String) (payload : ByteArray) :
    Except BrokerError Unit × Link × Hub H :=
  let (refusal, rest) := Refusals.take link.refusals.publish
  let next := { link with refusals := { link.refusals with publish := rest } }
  match refusal with
  | some e => (.error e, next, hub)
  | none =>
    match hub.publish topic payload with
    | .error e => (.error e, next, hub)
    | .ok sent => (.ok (), next, sent)

def close (link : Link) (hub : Hub H) : Except BrokerError Unit × Link × Hub H :=
  let (refusal, rest) := Refusals.take link.refusals.close
  let next := { link with refusals := { link.refusals with close := rest } }
  match refusal with
  | some e => (.error e, next, hub)
  | none => (.ok (), next, hub.detach link.connection.id)

end Link

/-- The handler that a broker routes for one of its topics: frames go to that topic of that node. -/
structure Inbound (T : Type) where
  node : Nat
  topic : T
deriving DecidableEq, Repr, Inhabited

/-- A topic with local subscribers, and whether the transport is subscribed to it. -/
structure Route (S C : Type) where
  channel : Channel S C
  attached : Bool

structure MiddlewareBroker (T S C : Type) where
  /-- The number of the node in its network. -/
  node : Nat
  uri : String
  channelKind : ChannelKind
  link : Link
  routes : Table T (Route S C)
  metrics : BrokerMetrics
  closed : Bool

namespace MiddlewareBroker

variable {T S C M : Type}

/-- A broker on a fresh connection. -/
def new (node : Nat) (uri : String) (kind : ChannelKind) (link : Link) :
    MiddlewareBroker T S C where
  node := node
  uri := uri
  channelKind := kind
  link := link
  routes := ∅
  metrics := .zero
  closed := false

/-- The number of topics with local subscribers. -/
def topicCount (broker : MiddlewareBroker T S C) : Nat := broker.routes.size

/-- Subscribe the transport to a topic unless that has been done already. -/
def attach (nameOf : T → String) (broker : MiddlewareBroker T S C) (hub : Hub (Inbound T)) (t : T)
    (route : Route S C) : Route S C × Link × Hub (Inbound T) :=
  if route.attached then (route, broker.link, hub)
  else
    match broker.link.subscribe hub (nameOf t) ⟨broker.node, t⟩ with
    | (.ok (), link, next) => ({ route with attached := true }, link, next)
    | (.error _, link, next) => (route, link, next)

variable [DecidableEq T]

def hasTopic (broker : MiddlewareBroker T S C) (t : T) : Bool := broker.routes.contains t

/-- Store a topic's route after an attempt to attach it. -/
def attachRoute (nameOf : T → String) (broker : MiddlewareBroker T S C) (hub : Hub (Inbound T))
    (t : T) (route : Route S C) : MiddlewareBroker T S C × Hub (Inbound T) :=
  let (tried, link, next) := broker.attach nameOf hub t route
  ({ broker with link, routes := broker.routes.insert t tried }, next)

/-- Publish a message by sending its frame. -/
def publish (nameOf : T → String) (codec : Codec M) (broker : MiddlewareBroker T S C)
    (hub : Hub (Inbound T)) (t : T) (message : M) : MiddlewareBroker T S C × Hub (Inbound T) :=
  if broker.closed then ({ broker with metrics := broker.metrics.recordPublish none }, hub)
  else
    let (ready, hub) := match broker.routes.get? t with
      | some route => broker.attachRoute nameOf hub t route
      | none => (broker, hub)
    match codec.encode message with
    | .error _ => ({ ready with metrics := ready.metrics.recordPublish none }, hub)
    | .ok payload =>
      match ready.link.publish hub (nameOf t) payload with
      | (.ok (), link, next) => ({ ready with link, metrics := ready.metrics.recordSent }, next)
      | (.error _, link, next) =>
        ({ ready with link, metrics := ready.metrics.recordPublish none }, next)

omit [DecidableEq T] in
/-- Close the broker and its connection. Only the first call does anything, and only it reports the
transport's error. -/
def close (broker : MiddlewareBroker T S C) (hub : Hub (Inbound T)) :
    Except BrokerError Unit × MiddlewareBroker T S C × Hub (Inbound T) :=
  if broker.closed then (.ok (), broker, hub)
  else
    let (result, link, next) := broker.link.close hub
    (result, { broker with closed := true, routes := ∅, link }, next)

variable [DecidableEq S]

/-- Register a local subscriber; a closed broker registers no one. -/
def subscribe (nameOf : T → String) (broker : MiddlewareBroker T S C) (hub : Hub (Inbound T))
    (t : T) (s : S) (callback : C) : MiddlewareBroker T S C × Hub (Inbound T) :=
  if broker.closed then (broker, hub)
  else
    let route := (broker.routes.get? t).getD ⟨.new broker.channelKind, false⟩
    broker.attachRoute nameOf hub t
      { route with channel := (route.channel.subscribe s callback).2 }

/-- Remove a local subscriber. The last one takes the topic away, and with it the transport's
subscription if there is one. -/
def unsubscribe (nameOf : T → String) (broker : MiddlewareBroker T S C) (hub : Hub (Inbound T))
    (t : T) (s : S) : MiddlewareBroker T S C × Hub (Inbound T) :=
  match broker.routes.get? t with
  | none => (broker, hub)
  | some route =>
    let left := (route.channel.unsubscribe s).2
    if !left.isEmpty then
      ({ broker with routes := broker.routes.insert t { route with channel := left } }, hub)
    else if route.attached then
      let (_, link, next) := broker.link.unsubscribe hub (nameOf t)
      ({ broker with link, routes := broker.routes.erase t }, next)
    else ({ broker with routes := broker.routes.erase t }, hub)

end MiddlewareBroker

end Vicinity

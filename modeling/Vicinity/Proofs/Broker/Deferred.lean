import Vicinity.Proofs.Broker.Attachment
import Vicinity.Proofs.Broker.Fate

/-! # Deferred deliveries

A middleware broker counts a message when it is sent and delivers it when its frame comes back. In
between the message stands in the queue of the hub, so the broker is behind a plain broker that
delivers at once. `Owes` says by how much: the two have the same registrations, and their counters
differ by the messages that are still in the queue. A message without subscribers is dropped by a
plain broker; over a hub no one drops it.
-/

namespace Vicinity

variable {S C M J : Type}

/-- What stands in a queue: a message that no one has got yet, or a marker. -/
inductive Pending (M : Type) where
  | message (topic : String) (content : M)
  | marker (ticket : Nat)

namespace Pending

def isMessage : Pending M → Bool
  | message _ _ => true
  | marker _ => false

/-- An entry of a queue codes for what is pending. -/
inductive Codes (codec : Codec M) : HubEntry → Pending M → Prop
  | message (topic : String) {payload : ByteArray} {content : M}
      (decoded : codec.decode payload = .ok content) :
      Codes codec (.message topic payload) (.message topic content)
  | marker (ticket : Nat) : Codes codec (.marker ticket) (.marker ticket)

/-- What a request leaves pending. -/
def ofRequest : Request String S C M → List (Pending M)
  | .publish t content => [.message t content]
  | _ => []

variable [DecidableEq S]

/-- What a plain broker does when it gets round to what was pending. -/
def deliver (run : C → M → J → Outcome × J) (state : PlainBroker String S C × J) :
    Pending M → PlainBroker String S C × J
  | message t content => PlainBroker.serve run state (.publish t content)
  | marker _ => state

end Pending

namespace BrokerMetrics

/-- The counters of a broker that has sent so many messages more than it has delivered, and drops
none. -/
def ahead (m : BrokerMetrics) (sent : Nat) : BrokerMetrics :=
  { m with published := m.published + .ofNat sent, dropped := 0 }

theorem ahead_zero (m : BrokerMetrics) : m.ahead 0 = { m with dropped := 0 } := by
  rw [ahead]
  congr 1
  exact UInt64.add_zero _

theorem recordSent_ahead (m : BrokerMetrics) (sent : Nat) :
    (m.ahead sent).recordSent = m.ahead (sent + 1) := by
  rw [ahead, recordSent, ahead, UInt64.ofNat_add, ← UInt64.add_assoc]
  rfl

/-- One of the messages that are ahead may as well be counted first. -/
theorem published_ahead (m : BrokerMetrics) (sent : Nat) :
    m.published + .ofNat (sent + 1) = m.published + 1 + .ofNat sent := by
  rw [Nat.add_comm sent 1, UInt64.ofNat_add, ← UInt64.add_assoc]
  rfl

/-- A delivery that was ahead is caught up with when it is counted at once. -/
theorem recordDelivery_ahead (m : BrokerMetrics) (sent : Nat) (report : DeliveryReport) :
    (m.ahead (sent + 1)).recordDelivery report = (m.recordPublish (some report)).ahead sent := by
  simp only [ahead, recordDelivery, recordPublish, recordSent, published_ahead]

/-- What is dropped counts as published and leaves no other trace ahead. -/
theorem drop_ahead (m : BrokerMetrics) (sent : Nat) :
    m.ahead (sent + 1) = (m.recordPublish none).ahead sent := by
  simp only [ahead, recordPublish, recordSent, published_ahead]

end BrokerMetrics

namespace MiddlewareBroker

variable [DecidableEq S] {codec : Codec M} {broker : MiddlewareBroker String S C}
  {hub : Hub (Inbound String)} {plain : PlainBroker String S C} {pending : List (Pending M)}

/-- A broker that is node 0 has the registrations of a plain broker and owes it the deliveries of
what is pending. Other connections of the hub may listen, but they lead to other nodes. -/
structure Owes (codec : Codec M) (broker : MiddlewareBroker String S C) (hub : Hub (Inbound String))
    (plain : PlainBroker String S C) (pending : List (Pending M)) : Prop where
  linked : broker.Linked hub 0
  attached : Attached id broker hub
  registry : broker.subscribers = plain.registry
  metrics : broker.metrics = plain.metrics.ahead (pending.countP Pending.isMessage)
  accepting : hub.accepting = true
  alive : hub.alive = true
  queue : List.Forall₂ (Pending.Codes codec) hub.queue pending
  others : ∀ t connection handler, hub.route? t connection = some handler →
    connection ≠ broker.link.connection.id → handler.node ≠ 0

omit [DecidableEq S] in
/-- What a broker does with its hub by serving a request keeps what it owes in step. -/
theorem Owes.of_serves (owes : Owes codec broker hub plain pending) {sent : List HubEntry}
    {after : MiddlewareBroker String S C × Hub (Inbound String)}
    (serves : Serves broker hub 0 sent after) (attached : Attached id after.1 after.2)
    {new : List (Pending M)} (coded : List.Forall₂ (Pending.Codes codec) sent new)
    {next : PlainBroker String S C} (registry : after.1.subscribers = next.registry)
    (metrics : after.1.metrics = next.metrics.ahead ((pending ++ new).countP Pending.isMessage)) :
    Owes codec after.1 after.2 next (pending ++ new) where
  linked := serves.linked
  attached := attached
  registry := registry
  metrics := metrics
  accepting := serves.beside.accepting.trans owes.accepting
  alive := serves.beside.alive.trans owes.alive
  queue := by
    rw [serves.queue]
    exact List.rel_append owes.queue coded
  others t connection handler found different := by
    rw [serves.connection] at different
    rw [serves.beside.route? t connection different] at found
    exact owes.others t connection handler found different

/-- A broker serves every request but closing as a plain broker does, less the delivery. -/
theorem Owes.serve (owes : Owes codec broker hub plain pending)
    (faithful : ∀ message, ∃ payload, codec.encode message = .ok payload ∧
      codec.decode payload = .ok message)
    {r : Request String S C M} (stays : r ≠ .close) :
    Owes codec (broker.serve id codec hub r).1 (broker.serve id codec hub r).2
      { plain with registry := plain.registry.serve r } (pending ++ Pending.ofRequest r) := by
  have isOpen := owes.attached.isOpen
  have attached := owes.attached.serve codec stays
  have registry : (broker.serve id codec hub r).1.subscribers = plain.registry.serve r := by
    rw [subscribers_serve isOpen id codec hub stays, owes.registry]
  cases r with
  | subscribe t s callback =>
    refine owes.of_serves (owes.linked.subscribe t s callback) attached .nil registry ?_
    rw [List.append_nil]
    exact (metrics_subscribe id broker hub t s callback).trans owes.metrics
  | unsubscribe t s =>
    refine owes.of_serves (owes.linked.unsubscribe t s) attached .nil registry ?_
    rw [List.append_nil]
    exact (metrics_unsubscribe id broker hub t s).trans owes.metrics
  | publish t message =>
    obtain ⟨payload, encoded, decoded⟩ := faithful message
    have shut : ¬ broker.closed = true := by rw [isOpen]; exact Bool.false_ne_true
    have frames : broker.frames codec t message = [.message t payload] := by
      rw [MiddlewareBroker.frames, if_neg shut, encoded]
    have serves := owes.linked.publish owes.accepting owes.alive codec t message
    rw [frames] at serves
    refine owes.of_serves serves attached (.cons (.message t decoded) .nil) registry ?_
    obtain ⟨routes, _, published⟩ :=
      owes.linked.publish_eq shut owes.accepting owes.alive codec t message
    rw [published, encoded]
    dsimp only
    rw [owes.metrics, BrokerMetrics.recordSent_ahead, List.countP_append]
    rfl
  | close => contradiction

omit [DecidableEq S] in
/-- A topic that a plain broker has is routed, and one it does not have is not. -/
theorem Owes.route? (owes : Owes codec broker hub plain pending) (t : String) :
    hub.route? t broker.link.connection.id =
      if plain.registry.hasTopic t then some ⟨0, t⟩ else none := by
  rw [← owes.registry, ← owes.attached.hasTopic, hasTopic, Table.contains]
  cases found : broker.routes.get? t with
  | some route => exact (owes.linked.attached t route found).2
  | none =>
    have bare : broker.isAttached t = false := isAttached_of_missing found
    rw [Option.isSome_none, if_neg Bool.false_ne_true]
    refine Option.eq_none_iff_forall_ne_some.mpr fun handler routed => ?_
    obtain ⟨other, had, rfl, _⟩ := owes.attached.routed t handler routed
    rw [id_eq] at bare
    rw [bare] at had
    contradiction

omit [DecidableEq S] in
/-- Of the handlers for a topic none leads to the broker if it has no subscribers of the topic. -/
theorem Owes.handlersFor_missing (owes : Owes codec broker hub plain pending) {t : String}
    (missing : plain.registry.hasTopic t = false) (inbound : Inbound String)
    (member : inbound ∈ hub.handlersFor t) : inbound.node ≠ 0 := by
  rw [Hub.handlersFor_eq, Table.mem_values_iff] at member
  obtain ⟨connection, found⟩ := member
  have unrouted := owes.route? t
  rw [missing, if_neg Bool.false_ne_true] at unrouted
  refine owes.others t connection inbound found ?_
  rintro rfl
  cases unrouted.symm.trans found

omit [DecidableEq S] in
/-- If it has some, exactly one of the handlers does. -/
theorem Owes.handlersFor_present (owes : Owes codec broker hub plain pending) {t : String}
    (present : plain.registry.hasTopic t = true) :
    ∃ before after, hub.handlersFor t = before ++ ⟨0, t⟩ :: after ∧
      ∀ inbound ∈ before ++ after, inbound.node ≠ 0 := by
  have routed := owes.route? t
  rw [present, if_pos rfl] at routed
  obtain ⟨before, after, listed, different⟩ := Table.entries_split routed
  refine ⟨before.map Prod.snd, after.map Prod.snd, ?_, fun inbound member => ?_⟩
  · rw [Hub.handlersFor_eq, Table.values, listed, List.map_append, List.map_cons]
  · rw [← List.map_append] at member
    obtain ⟨⟨connection, handler⟩, other, rfl⟩ := List.mem_map.mp member
    have stands : (connection, handler) ∈ (hub.listeners t).entries := by
      rw [listed, List.mem_append, List.mem_cons]
      rw [List.mem_append] at other
      exact other.imp_right .inr
    have found := (Table.mem_entries_iff _ _ _).mp stands
    exact owes.others t connection handler found (different _ other)

omit [DecidableEq S] in
/-- A hub may pass entries on or take them, if what is counted comes to the same. -/
theorem Owes.pass (owes : Owes codec broker hub plain pending) {next : Hub (Inbound String)}
    (passes : hub.Passes next) {rest : List (Pending M)}
    (queue : List.Forall₂ (Pending.Codes codec) next.queue rest) {metrics caught : BrokerMetrics}
    (counted : metrics = caught.ahead (rest.countP Pending.isMessage)) :
    Owes codec { broker with metrics } next { plain with metrics := caught } rest where
  linked := (owes.linked.of_routes passes.routes passes.connections.ge).recount metrics
  attached := owes.attached.elsewhere metrics fun name => Hub.route?_of_routes passes.routes name _
  registry := owes.registry
  metrics := counted
  accepting := passes.accepting.trans owes.accepting
  alive := passes.alive.trans owes.alive
  queue := queue
  others t connection handler found := by
    rw [Hub.route?_of_routes passes.routes] at found
    exact owes.others t connection handler found

omit [DecidableEq S] in
/-- A new broker on a connection that nothing is routed to owes nothing. -/
theorem owes_new (codec : Codec M) (uri : String) (kind : ChannelKind) (connection : Connection)
    {hub : Hub (Inbound String)} (known : connection.id < hub.connections)
    (accepting : hub.accepting = true) (alive : hub.alive = true) (idle : hub.queue = [])
    (fresh : ∀ t, hub.route? t connection.id = none)
    (others : ∀ t connection handler, hub.route? t connection = some handler → handler.node ≠ 0) :
    Owes codec (.new 0 uri kind ⟨connection, {}⟩ : MiddlewareBroker String S C) hub .new [] where
  linked := linked_new 0 uri kind known fresh
  attached := attached_new id 0 uri kind (fun _ none => by contradiction) fresh
  registry := rfl
  metrics := rfl
  accepting := accepting
  alive := alive
  queue := by
    rw [idle]
    exact .nil
  others t other handler found _ := others t other handler found

end MiddlewareBroker

end Vicinity

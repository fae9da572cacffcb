import Vicinity.Broker.Middleware
import Vicinity.Proofs.Broker.Registry
import Vicinity.Proofs.Channel
import Vicinity.Proofs.Hub.Routes

/-! # Middleware brokers and their hub

What a broker does to its subscribers does not depend on the transport: whatever the transport
refuses, a subscription enters the table of its topic and an unsubscription erases from it. What it
does to the hub is bounded by its connection. For a transport that refuses nothing `Linked` says how
the two belong together: every topic of the broker has its route, every route of the connection leads
back to the broker, and a closed broker has no topics. Each request keeps a broker linked and leaves
the routes of all other connections alone.
-/

namespace Vicinity

variable {T S C M H : Type}

/-! ## Links that refuse nothing -/

namespace Link

theorem subscribe_willing {link : Link} (willing : link.refusals = {}) (hub : Hub H) (topic : String)
    (handler : H) :
    link.subscribe hub topic handler =
      (.ok (), link, hub.subscribe link.connection.id topic handler) := by
  obtain ⟨connection, refusals⟩ := link
  subst willing
  rfl

theorem unsubscribe_willing {link : Link} (willing : link.refusals = {}) (hub : Hub H)
    (topic : String) :
    link.unsubscribe hub topic = (.ok (), link, hub.unsubscribe link.connection.id topic) := by
  obtain ⟨connection, refusals⟩ := link
  subst willing
  rfl

theorem publish_willing {link : Link} (willing : link.refusals = {}) {hub sent : Hub H}
    {topic : String} {payload : ByteArray} (accepted : hub.publish topic payload = .ok sent) :
    link.publish hub topic payload = (.ok (), link, sent) := by
  obtain ⟨connection, refusals⟩ := link
  subst willing
  simp only [publish, Refusals.take, accepted]

theorem close_willing {link : Link} (willing : link.refusals = {}) (hub : Hub H) :
    link.close hub = (.ok (), link, hub.detach link.connection.id) := by
  obtain ⟨connection, refusals⟩ := link
  subst willing
  rfl

end Link

namespace MiddlewareBroker

/-! ## Subscribers -/

variable [DecidableEq T]

/-- The registry of the local subscribers. -/
def subscribers (broker : MiddlewareBroker T S C) : Registry T S C := fun t =>
  ((broker.routes.get? t).map (·.channel.subscribers)).getD ∅

theorem subscribers_of_none {broker : MiddlewareBroker T S C} {t : T}
    (missing : broker.routes.get? t = none) : broker.subscribers t = ∅ := by
  rw [subscribers, missing]
  rfl

theorem subscribers_of_some {broker : MiddlewareBroker T S C} {t : T} {route : Route S C}
    (found : broker.routes.get? t = some route) :
    broker.subscribers t = route.channel.subscribers := by
  rw [subscribers, found]
  rfl

theorem subscribers_of_routes_insert (broker : MiddlewareBroker T S C) (t : T) (route : Route S C)
    (other : T) :
    { broker with routes := broker.routes.insert t route }.subscribers other =
      if other = t then route.channel.subscribers else broker.subscribers other := by
  simp only [subscribers, Table.get?_insert]
  split <;> rfl

omit [DecidableEq T] in
theorem attach_channel (nameOf : T → String) (broker : MiddlewareBroker T S C) (hub : Hub (Inbound T))
    (t : T) (route : Route S C) : (broker.attach nameOf hub t route).1.channel = route.channel := by
  rw [attach]
  split
  · rfl
  · split <;> rfl

theorem subscribers_attachRoute (nameOf : T → String) (broker : MiddlewareBroker T S C)
    (hub : Hub (Inbound T)) (t : T) (route : Route S C) (other : T) :
    (broker.attachRoute nameOf hub t route).1.subscribers other =
      if other = t then route.channel.subscribers else broker.subscribers other := by
  rw [← attach_channel nameOf broker hub t route]
  exact broker.subscribers_of_routes_insert t _ other

theorem subscribers_publish (nameOf : T → String) (codec : Codec M) (broker : MiddlewareBroker T S C)
    (hub : Hub (Inbound T)) (t : T) (message : M) :
    (broker.publish nameOf codec hub t message).1.subscribers = broker.subscribers := by
  have ready : ∀ route, broker.routes.get? t = some route →
      (broker.attachRoute nameOf hub t route).1.subscribers = broker.subscribers := by
    intro route found
    funext other
    rw [subscribers_attachRoute]
    split
    · next same => rw [same, subscribers_of_some found]
    · rfl
  rw [publish]
  split
  · rfl
  · cases found : broker.routes.get? t with
    | none =>
      dsimp only
      split
      · rfl
      · split <;> rfl
    | some route =>
      dsimp only
      split
      · exact ready route found
      · split <;> exact ready route found

theorem subscribers_close (broker : MiddlewareBroker T S C) (hub : Hub (Inbound T))
    (isOpen : broker.closed = false) : (broker.close hub).2.1.subscribers = .empty := by
  rw [close, isOpen]
  rfl

variable [DecidableEq S]

theorem subscribers_subscribe (nameOf : T → String) (broker : MiddlewareBroker T S C)
    (hub : Hub (Inbound T)) (isOpen : broker.closed = false) (t : T) (s : S) (callback : C) :
    (broker.subscribe nameOf hub t s callback).1.subscribers =
      broker.subscribers.subscribe t s callback := by
  funext other
  simp only [Registry.subscribe_apply, subscribe, isOpen, Bool.false_eq_true, ↓reduceIte,
    subscribers_attachRoute, Channel.subscribers_subscribe]
  cases found : broker.routes.get? t with
  | none => rw [subscribers_of_none found, Option.getD_none, Channel.subscribers_new]
  | some route => rw [subscribers_of_some found, Option.getD_some]

theorem subscribers_unsubscribe (nameOf : T → String) (broker : MiddlewareBroker T S C)
    (hub : Hub (Inbound T)) (t : T) (s : S) :
    (broker.unsubscribe nameOf hub t s).1.subscribers = broker.subscribers.unsubscribe t s := by
  funext other
  rw [Registry.unsubscribe_apply, unsubscribe]
  cases found : broker.routes.get? t with
  | none =>
    dsimp only
    split
    · next same =>
      rw [same, subscribers_of_none found]
      rfl
    · rfl
  | some route =>
    have known := subscribers_of_some found
    have erased {link : Link} (blank : (route.channel.unsubscribe s).2.isEmpty = true) :
        { broker with link, routes := broker.routes.erase t }.subscribers other =
          if other = t then (broker.subscribers t).erase s else broker.subscribers other := by
      rw [Channel.isEmpty_eq, Channel.subscribers_unsubscribe, ← known] at blank
      simp only [subscribers, Table.get?_erase] at blank ⊢
      split
      · rw [Table.eq_empty_of_isEmpty blank]
        rfl
      · rfl
    dsimp only
    cases blank : (route.channel.unsubscribe s).2.isEmpty with
    | false =>
      simp only [Bool.not_false, ↓reduceIte, subscribers_of_routes_insert,
        Channel.subscribers_unsubscribe, known]
    | true =>
      simp only [Bool.not_true, Bool.false_eq_true, ↓reduceIte]
      split
      · exact erased blank
      · exact erased blank

/-! ## Closing -/

omit [DecidableEq S] in
theorem closed_publish (nameOf : T → String) (codec : Codec M) (broker : MiddlewareBroker T S C)
    (hub : Hub (Inbound T)) (t : T) (message : M) :
    (broker.publish nameOf codec hub t message).1.closed = broker.closed := by
  rw [publish]
  split
  · rfl
  · cases broker.routes.get? t <;> (dsimp only; split; rfl; split <;> rfl)

omit [DecidableEq T] [DecidableEq S] in
theorem closed_close (broker : MiddlewareBroker T S C) (hub : Hub (Inbound T)) :
    (broker.close hub).2.1.closed = true := by
  rw [close]
  split
  · next already => exact already
  · rfl

theorem closed_subscribe (nameOf : T → String) (broker : MiddlewareBroker T S C)
    (hub : Hub (Inbound T)) (t : T) (s : S) (callback : C) :
    (broker.subscribe nameOf hub t s callback).1.closed = broker.closed := by
  rw [subscribe]
  split <;> rfl

theorem closed_unsubscribe (nameOf : T → String) (broker : MiddlewareBroker T S C)
    (hub : Hub (Inbound T)) (t : T) (s : S) :
    (broker.unsubscribe nameOf hub t s).1.closed = broker.closed := by
  rw [unsubscribe]
  cases broker.routes.get? t with
  | none => rfl
  | some route =>
    dsimp only
    split
    · rfl
    · split <;> rfl

end MiddlewareBroker

/-! ## Brokers linked to a hub -/

namespace MiddlewareBroker

variable {broker : MiddlewareBroker String S C} {hub : Hub (Inbound String)} {n : Nat}

/-- A broker on a willing link and its hub belong together, and the broker is the node of that
number. -/
structure Linked (broker : MiddlewareBroker String S C) (hub : Hub (Inbound String)) (n : Nat) :
    Prop where
  node : broker.node = n
  willing : broker.link.refusals = {}
  known : broker.link.connection.id < hub.connections
  attached : ∀ t route, broker.routes.get? t = some route →
    route.attached = true ∧ hub.route? t broker.link.connection.id = some ⟨n, t⟩
  own : ∀ t handler, hub.route? t broker.link.connection.id = some handler → handler = ⟨n, t⟩
  closed : broker.closed = true → broker.routes = ∅

/-- What becomes of a linked broker and its hub by a request: they stay linked by the same connection,
some entries come to the end of the queue, and nothing else changes in the hub but routes of that
connection. -/
structure Serves (broker : MiddlewareBroker String S C) (hub : Hub (Inbound String)) (n : Nat)
    (sent : List HubEntry) (after : MiddlewareBroker String S C × Hub (Inbound String)) : Prop where
  linked : after.1.Linked after.2 n
  connection : after.1.link.connection = broker.link.connection
  beside : hub.Beside broker.link.connection.id after.2
  queue : after.2.queue = hub.queue ++ sent

/-- The entries with which a broker publishes a message. -/
def frames (codec : Codec M) (broker : MiddlewareBroker String S C) (t : String) (message : M) :
    List HubEntry :=
  if broker.closed then []
  else match codec.encode message with
    | .error _ => []
    | .ok payload => [.message t payload]

/-- A new broker is linked by a connection that nothing is routed to. -/
theorem linked_new (n : Nat) (uri : String) (kind : ChannelKind) {connection : Connection}
    (known : connection.id < hub.connections) (fresh : ∀ t, hub.route? t connection.id = none) :
    (.new n uri kind ⟨connection, {}⟩ : MiddlewareBroker String S C).Linked hub n where
  node := rfl
  willing := rfl
  known := known
  attached t route found := by contradiction
  own t handler found := absurd ((fresh t).symm.trans found) (Option.some_ne_none handler).symm
  closed closed := absurd closed Bool.false_ne_true

/-- What other connections do leaves a broker linked. -/
theorem Linked.of_beside (linked : broker.Linked hub n) {connection : Nat}
    {after : Hub (Inbound String)} (beside : hub.Beside connection after)
    (other : broker.link.connection.id ≠ connection) : broker.Linked after n where
  node := linked.node
  willing := linked.willing
  known := by
    rw [beside.connections]
    exact linked.known
  attached t route found := by
    rw [beside.route? t _ other]
    exact linked.attached t route found
  own t handler found := by
    rw [beside.route? t _ other] at found
    exact linked.own t handler found
  closed := linked.closed

theorem attach_willing (nameOf : T → String) {broker : MiddlewareBroker T S C}
    (willing : broker.link.refusals = {}) (hub : Hub (Inbound T)) (t : T) (route : Route S C) :
    broker.attach nameOf hub t route =
      (⟨route.channel, true⟩, broker.link,
        if route.attached then hub
        else hub.subscribe broker.link.connection.id (nameOf t) ⟨broker.node, t⟩) := by
  obtain ⟨channel, attached⟩ := route
  rw [attach]
  cases attached with
  | true => rfl
  | false =>
    rw [Link.subscribe_willing willing]
    rfl

theorem Linked.serves_refl (linked : broker.Linked hub n) : Serves broker hub n [] (broker, hub) :=
  ⟨linked, rfl, hub.beside_refl _, (List.append_nil _).symm⟩

/-- Counting leaves a broker linked. -/
theorem Linked.recount (linked : broker.Linked hub n) (metrics : BrokerMetrics) :
    { broker with metrics }.Linked hub n :=
  ⟨linked.node, linked.willing, linked.known, linked.attached, linked.own, linked.closed⟩

/-- So does a change of the hub that keeps the routes and takes on connections at most. -/
theorem Linked.of_routes (linked : broker.Linked hub n) {after : Hub (Inbound String)}
    (routes : after.routes = hub.routes) (connections : hub.connections ≤ after.connections) :
    broker.Linked after n where
  node := linked.node
  willing := linked.willing
  known := lt_of_lt_of_le linked.known connections
  attached t route found := by
    rw [Hub.route?_of_routes routes]
    exact linked.attached t route found
  own t handler found := by
    rw [Hub.route?_of_routes routes] at found
    exact linked.own t handler found
  closed := linked.closed

/-- A broker may store any route for a topic that has its route in the hub. -/
theorem Linked.store (linked : broker.Linked hub n) (isOpen : broker.closed = false) (t : String)
    (channel : Channel S C) (routed : hub.route? t broker.link.connection.id = some ⟨n, t⟩) :
    { broker with routes := broker.routes.insert t ⟨channel, true⟩ }.Linked hub n where
  node := linked.node
  willing := linked.willing
  known := linked.known
  attached other route found := by
    rw [Table.get?_insert] at found
    by_cases same : other = t
    · rw [if_pos same] at found
      obtain rfl := Option.some.inj found
      rw [same]
      exact ⟨rfl, routed⟩
    · rw [if_neg same] at found
      exact linked.attached other route found
  own := linked.own
  closed closed := absurd (isOpen.symm.trans closed) Bool.false_ne_true

/-- The broker's own subscription of a topic leaves it linked. -/
theorem Linked.listen (linked : broker.Linked hub n) (t : String) :
    broker.Linked (hub.subscribe broker.link.connection.id t ⟨n, t⟩) n where
  node := linked.node
  willing := linked.willing
  known := linked.known
  attached other route found := by
    refine ⟨(linked.attached other route found).1, ?_⟩
    rw [Hub.route?_subscribe]
    by_cases same : other = t
    · rw [if_pos ⟨same, rfl⟩, same]
    · rw [if_neg fun both => same both.1]
      exact (linked.attached other route found).2
  own other handler found := by
    rw [Hub.route?_subscribe] at found
    by_cases same : other = t
    · rw [if_pos ⟨same, rfl⟩] at found
      rw [same, ← Option.some.inj found]
    · rw [if_neg fun both => same both.1] at found
      exact linked.own other handler found
  closed := linked.closed

/-- So does giving up a topic together with its subscription. -/
theorem Linked.leave (linked : broker.Linked hub n) (t : String) :
    { broker with routes := broker.routes.erase t }.Linked
      (hub.unsubscribe broker.link.connection.id t) n where
  node := linked.node
  willing := linked.willing
  known := (hub.beside_unsubscribe broker.link.connection.id t).connections.symm ▸ linked.known
  attached other route found := by
    rw [Table.get?_erase] at found
    rw [Hub.route?_unsubscribe]
    by_cases same : other = t
    · rw [if_pos same] at found
      contradiction
    · rw [if_neg same] at found
      rw [if_neg fun both => same both.1]
      exact linked.attached other route found
  own other handler found := by
    rw [Hub.route?_unsubscribe] at found
    split at found
    · contradiction
    · exact linked.own other handler found
  closed closed := by
    rw [linked.closed closed]
    rfl

/-- So does closing together with the connection. -/
theorem Linked.shut (linked : broker.Linked hub n) :
    ({ broker with closed := true, routes := ∅ } : MiddlewareBroker String S C).Linked
      (hub.detach broker.link.connection.id) n where
  node := linked.node
  willing := linked.willing
  known := linked.known
  attached t route found := by contradiction
  own t handler found := by
    rw [Hub.route?_detach, if_pos rfl] at found
    contradiction
  closed _ := rfl

/-- Attaching a route keeps a broker linked, also where the route is attached already. -/
theorem Linked.attachRoute (linked : broker.Linked hub n) (isOpen : broker.closed = false) (t : String)
    (route : Route S C) (routed : route.attached = true →
      hub.route? t broker.link.connection.id = some ⟨n, t⟩) :
    Serves broker hub n [] (broker.attachRoute id hub t route) := by
  obtain rfl := linked.node
  rw [MiddlewareBroker.attachRoute, attach_willing id linked.willing, id_eq]
  cases attached : route.attached with
  | true =>
    exact ⟨linked.store isOpen t route.channel (routed attached), rfl, hub.beside_refl _,
      (List.append_nil _).symm⟩
  | false =>
    have routed : (hub.subscribe broker.link.connection.id t ⟨broker.node, t⟩).route? t
        broker.link.connection.id = some ⟨broker.node, t⟩ := by
      rw [Hub.route?_subscribe, if_pos ⟨rfl, rfl⟩]
    exact ⟨(linked.listen t).store isOpen t route.channel routed, rfl, hub.beside_subscribe _ _ _,
      (List.append_nil _).symm⟩

variable [DecidableEq S]

theorem Linked.subscribe (linked : broker.Linked hub n) (t : String) (s : S) (callback : C) :
    Serves broker hub n [] (broker.subscribe id hub t s callback) := by
  rw [MiddlewareBroker.subscribe]
  cases isOpen : broker.closed with
  | true => exact linked.serves_refl
  | false =>
    refine linked.attachRoute isOpen t _ ?_
    cases found : broker.routes.get? t with
    | none =>
      intro attached
      contradiction
    | some route => exact fun _ => (linked.attached t route found).2

omit [DecidableEq S] in
/-- A broker that has a topic is open. -/
theorem Linked.isOpen (linked : broker.Linked hub n) {t : String} {route : Route S C}
    (found : broker.routes.get? t = some route) : broker.closed = false := by
  rw [← Bool.not_eq_true]
  intro closed
  rw [linked.closed closed] at found
  contradiction

theorem Linked.unsubscribe (linked : broker.Linked hub n) (t : String) (s : S) :
    Serves broker hub n [] (broker.unsubscribe id hub t s) := by
  rw [MiddlewareBroker.unsubscribe]
  cases found : broker.routes.get? t with
  | none => exact linked.serves_refl
  | some route =>
    obtain ⟨attached, routed⟩ := linked.attached t route found
    have isOpen := linked.isOpen found
    dsimp only
    rw [if_pos attached, attached, Link.unsubscribe_willing linked.willing, id_eq]
    split
    · exact ⟨linked.store isOpen t _ routed, rfl, hub.beside_refl _, (List.append_nil _).symm⟩
    · exact ⟨linked.leave t, rfl, hub.beside_unsubscribe _ t,
        by rw [Hub.queue_unsubscribe, List.append_nil]⟩

omit [DecidableEq S] in
theorem Linked.close (linked : broker.Linked hub n) : Serves broker hub n [] (broker.close hub).2 := by
  rw [MiddlewareBroker.close]
  cases broker.closed with
  | true => exact linked.serves_refl
  | false =>
    rw [if_neg Bool.false_ne_true, Link.close_willing linked.willing]
    exact ⟨linked.shut, rfl, hub.beside_detach _, (List.append_nil _).symm⟩

omit [DecidableEq S] in
/-- A linked broker has no need to attach a topic before it publishes, and its frames are accepted by
a hub that is in order. -/
theorem Linked.publish_eq (linked : broker.Linked hub n) (isOpen : ¬ broker.closed = true)
    (accepting : hub.accepting = true) (alive : hub.alive = true) (codec : Codec M) (t : String)
    (message : M) :
    ∃ routes, { broker with routes }.Linked hub n ∧
      broker.publish id codec hub t message =
        match codec.encode message with
        | .error _ => ({ broker with routes, metrics := broker.metrics.recordPublish none }, hub)
        | .ok payload => ({ broker with routes, metrics := broker.metrics.recordSent },
            { hub with queue := hub.queue ++ [.message t payload] }) := by
  have sent (payload : ByteArray) : broker.link.publish hub t payload =
      (.ok (), broker.link, { hub with queue := hub.queue ++ [.message t payload] }) := by
    refine Link.publish_willing linked.willing ?_
    rw [Hub.publish, Hub.send, accepting, alive]
    rfl
  rw [MiddlewareBroker.publish, if_neg isOpen]
  cases found : broker.routes.get? t with
  | none =>
    refine ⟨broker.routes, linked, ?_⟩
    dsimp only
    cases codec.encode message with
    | error e => rfl
    | ok payload => simp only [id_eq, sent]
  | some route =>
    obtain ⟨attached, routed⟩ := linked.attached t route found
    refine ⟨_, linked.store (linked.isOpen found) t route.channel routed, ?_⟩
    dsimp only
    rw [MiddlewareBroker.attachRoute, attach_willing id linked.willing, if_pos attached]
    dsimp only
    cases codec.encode message with
    | error e => rfl
    | ok payload => simp only [id_eq, sent]

omit [DecidableEq S] in
/-- What a broker sends comes to the end of the queue, and nothing else does. -/
theorem Linked.publish (linked : broker.Linked hub n) (accepting : hub.accepting = true)
    (alive : hub.alive = true) (codec : Codec M) (t : String) (message : M) :
    Serves broker hub n (broker.frames codec t message) (broker.publish id codec hub t message) := by
  rw [frames]
  by_cases isOpen : broker.closed = true
  · rw [MiddlewareBroker.publish, if_pos isOpen, if_pos isOpen]
    exact ⟨linked.recount _, rfl, hub.beside_refl _, (List.append_nil _).symm⟩
  · obtain ⟨routes, ready, published⟩ := linked.publish_eq isOpen accepting alive codec t message
    rw [if_neg isOpen, published]
    cases codec.encode message with
    | error e => exact ⟨ready.recount _, rfl, hub.beside_refl _, (List.append_nil _).symm⟩
    | ok payload =>
      have longer : { broker with routes }.Linked
          { hub with queue := hub.queue ++ [HubEntry.message t payload] } n := ready.of_routes rfl le_rfl
      exact ⟨longer.recount _, rfl, ⟨rfl, rfl, rfl, fun _ _ _ => rfl⟩, rfl⟩

end MiddlewareBroker

end Vicinity

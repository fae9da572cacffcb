import Vicinity.Proofs.Broker.Confinement
import Vicinity.Proofs.Network.Basic

/-! # Networks whose callbacks act

Middleware brokers on loopback hubs, whose callbacks may do to the network whatever a user may: a
callback that is called with a message changes what callbacks keep for themselves and then makes
acts, which are new nodes, requests to any nodes, and frames of any content. Acts give no answers, so
a callback can make them one after another without looking. Every callback carries the number of the
node that it was registered at, and every call is noted, so that it can be seen whose callbacks are
called.

`Sound` is what all events preserve: each node has a connection of its own, it holds no callbacks but
its own, and once it is closed it has no topics and its connection has no routes.
-/

namespace Vicinity

/-- A callback with the number of the node that it was registered at. -/
structure Owned (C : Type) where
  node : Nat
  callback : C
deriving DecidableEq

/-- What callbacks keep for themselves, and the calls that have been made. -/
structure Logged (C M J : Type) where
  journal : J
  calls : List (Owned C × M)

variable {T S C M J : Type}

/-- A request as a node serves it, with callbacks that are its own. -/
def Request.ownedBy (n : Nat) : Request T S C M → Request T S (Owned C) M
  | subscribe t s callback => subscribe t s ⟨n, callback⟩
  | unsubscribe t s => unsubscribe t s
  | publish t message => publish t message
  | close => close

/-- What may be done to a network from outside and by callbacks alike. -/
inductive Act (T S C M : Type) where
  | join (uri : String) (kind : ChannelKind)
  | request (node : Nat) (r : Request T S C M)
  | frame (uri topic : String) (payload : ByteArray)

/-- What a callback does with a message. -/
structure Reaction (T S C M J : Type) where
  outcome : Outcome
  journal : J
  acts : List (Act T S C M)

/-- What befalls a hub by itself: a flush or a shutdown begins, or the dispatcher takes an entry. -/
inductive HubTurn where
  | flush
  | shutdown
  | take

/-- The hub after its turn, unless that comes to nothing. -/
def HubTurn.apply {H : Type} (hub : Hub H) : HubTurn → Option (Hub H)
  | flush =>
    match hub.requestFlush with
    | .ok (_, marked) => some marked
    | .error _ => none
  | shutdown => some hub.refuse
  | take => hub.next?.map Prod.snd

theorem HubTurn.apply_keeps {H : Type} {hub next : Hub H} {turn : HubTurn}
    (applied : turn.apply hub = some next) :
    next.routes = hub.routes ∧ next.connections = hub.connections := by
  cases turn with
  | flush =>
    rw [apply] at applied
    split at applied
    · next asked =>
      cases applied
      rw [Hub.eq_of_requestFlush asked]
      exact ⟨rfl, rfl⟩
    · contradiction
  | shutdown =>
    cases applied
    exact ⟨rfl, rfl⟩
  | take =>
    obtain ⟨first, taken, rfl⟩ := Option.map_eq_some_iff.mp applied
    have passes := Hub.passes_of_next? taken
    exact ⟨passes.routes, passes.connections⟩

/-- What happens in a network: an act, a turn of a hub, or a step of a hub's dispatcher. A dispatcher
may also take an entry and leave the handlers for later: then each of them is called in an event of its
own, with anything between. -/
inductive NetworkEvent (T S C M : Type) where
  | act (act : Act T S C M)
  | turn (hub : String) (turn : HubTurn)
  | dispatch (hub : String)
  | handle (payload : ByteArray) (handler : Inbound T)

/-- A network whose callbacks act. -/
abbrev ActingNetwork (T S C M J : Type) := Network T S (Owned C) (Logged C M J)

/-- A broker is the node of that number, on a connection of a hub that refuses it nothing. -/
structure Hosted [DecidableEq T] [DecidableEq S] (hub : Hub (Inbound T)) (n : Nat)
    (broker : MiddlewareBroker T S (Owned C)) : Prop where
  node : broker.node = n
  willing : broker.link.refusals = {}
  known : broker.link.connection.id < hub.connections
  owned : ∀ t s, ∀ owned ∈ (broker.subscribers t).get? s, owned.node = n
  shut : broker.closed = true → broker.Shut hub

namespace Hosted

variable [DecidableEq T] [DecidableEq S] {hub after : Hub (Inbound T)} {n : Nat}
  {broker : MiddlewareBroker T S (Owned C)}

/-- A hub may take on connections, and pass entries on. -/
theorem of_routes (hosted : Hosted hub n broker) (routes : after.routes = hub.routes)
    (connections : hub.connections ≤ after.connections) : Hosted after n broker :=
  { hosted with
    known := Nat.lt_of_lt_of_le hosted.known connections
    shut := fun closed => ⟨(hosted.shut closed).routes, fun topic =>
      (Hub.route?_of_routes routes topic _).trans ((hosted.shut closed).unrouted topic)⟩ }

/-- What another connection does is no concern of a broker. -/
theorem of_beside (hosted : Hosted hub n broker) {connection : Nat}
    (beside : hub.Beside connection after) (other : broker.link.connection.id ≠ connection) :
    Hosted after n broker :=
  { hosted with
    known := beside.connections ▸ hosted.known
    shut := fun closed => ⟨(hosted.shut closed).routes, fun topic =>
      (beside.route? topic _ other).trans ((hosted.shut closed).unrouted topic)⟩ }

theorem recount (hosted : Hosted hub n broker) (metrics : BrokerMetrics) :
    Hosted hub n { broker with metrics } :=
  ⟨hosted.node, hosted.willing, hosted.known, hosted.owned, fun closed =>
    ⟨(hosted.shut closed).routes, (hosted.shut closed).unrouted⟩⟩

/-- A broker that serves a request stays where it is, and holds no callbacks but its own. -/
theorem serve (hosted : Hosted hub n broker) (nameOf : T → String) (codec : Codec M)
    (r : Request T S C M) :
    Hosted (broker.serve nameOf codec hub (r.ownedBy n)).2 n
      (broker.serve nameOf codec hub (r.ownedBy n)).1 := by
  have confined := MiddlewareBroker.confined_serve hosted.willing hub nameOf codec (r.ownedBy n)
  constructor
  case node => rw [confined.node, hosted.node]
  case willing => rw [confined.link, hosted.willing]
  case known =>
    rw [confined.link, confined.beside.connections]
    exact hosted.known
  case owned =>
    intro t s owned found
    rcases MiddlewareBroker.get?_subscribers_serve nameOf codec (r.ownedBy n) found with before | brought
    · exact hosted.owned t s owned before
    · cases r with
      | subscribe topic own callback =>
        cases brought
        rfl
      | _ => contradiction
  case shut => exact MiddlewareBroker.shut_serve hosted.willing hosted.shut nameOf codec (r.ownedBy n)

end Hosted

namespace ActingNetwork

/-- A network without nodes, and without calls. -/
def new (journal : J) : ActingNetwork T S C M J := Network.new ⟨journal, []⟩

section Running

variable [DecidableEq T] [DecidableEq S] [Hashable T]

/-- Make an act. A request to a middleware node calls nothing. -/
def perform (wire : Wire T M) (w : ActingNetwork T S C M J) : Act T S C M → ActingNetwork T S C M J
  | .join uri kind =>
    match w.addMiddleware uri kind {} with
    | .ok joined => joined
    | .error _ => w
  | .request n r => (w.request wire (fun _ _ w => (.returned, w)) n (r.ownedBy n)).2
  | .frame uri topic payload => (w.sendRaw uri topic payload).2

/-- Note that a callback is called with a message, and what it keeps. -/
def note (w : ActingNetwork T S C M J) (owned : Owned C) (message : M) (journal : J) :
    ActingNetwork T S C M J :=
  { w with journal := ⟨journal, w.journal.calls ++ [(owned, message)]⟩ }

/-- Call a callback. -/
def call (wire : Wire T M) (react : C → M → J → Reaction T S C M J) :
    Network.Call T S (Owned C) (Logged C M J) M := fun owned message w =>
  let reaction := react owned.callback message w.journal.journal
  (reaction.outcome, reaction.acts.foldl (perform wire) (note w owned message reaction.journal))

def step (wire : Wire T M) (react : C → M → J → Reaction T S C M J) (w : ActingNetwork T S C M J) :
    NetworkEvent T S C M → ActingNetwork T S C M J
  | .act act => perform wire w act
  | .turn name turn =>
    match (w.connector.hub? name).bind turn.apply with
    | some next => w.withHub name next
    | none => w
  | .dispatch name => w.dispatch wire (call wire react) name
  | .handle payload handler => w.receive wire (call wire react) payload handler

def run (wire : Wire T M) (react : C → M → J → Reaction T S C M J) (w : ActingNetwork T S C M J)
    (events : List (NetworkEvent T S C M)) : ActingNetwork T S C M J :=
  events.foldl (step wire react) w

end Running

variable [DecidableEq T] [DecidableEq S]

/-- What all events preserve. -/
structure Sound (w : ActingNetwork T S C M J) : Prop where
  hosted : ∀ n node, w.node? n = some node → ∃ broker hub, node = .middleware broker ∧
    w.connector.hub? broker.link.connection.hub = some hub ∧ Hosted hub n broker
  distinct : ∀ n m (first second : MiddlewareBroker T S (Owned C)),
    w.node? n = some (.middleware first) → w.node? m = some (.middleware second) →
    first.link.connection = second.link.connection → n = m

theorem sound_new (journal : J) : (new journal : ActingNetwork T S C M J).Sound where
  hosted n node there := by contradiction
  distinct n m first second there := by contradiction

variable {w : ActingNetwork T S C M J}

theorem Sound.middleware (sound : w.Sound) {n : Nat} {broker : MiddlewareBroker T S (Owned C)}
    (there : w.node? n = some (.middleware broker)) :
    ∃ hub, w.connector.hub? broker.link.connection.hub = some hub ∧ Hosted hub n broker := by
  obtain ⟨_, hub, same, found, hosted⟩ := sound.hosted n _ there
  cases same
  exact ⟨hub, found, hosted⟩

/-- What callbacks keep and what is noted is no concern of the nodes. -/
theorem Sound.withJournal (sound : w.Sound) (journal : Logged C M J) :
    Sound (Network.withJournal w journal) :=
  ⟨sound.hosted, sound.distinct⟩

/-- A hub that is there may take on connections, and pass entries on; one that is not may start. -/
theorem Sound.withHub (sound : w.Sound) {name : String} {after : Hub (Inbound T)}
    (kept : ∀ hub, w.connector.hub? name = some hub →
      after.routes = hub.routes ∧ hub.connections ≤ after.connections) :
    Sound (w.withHub name after) := by
  constructor
  case hosted =>
    intro n node there
    obtain ⟨broker, hub, rfl, found, hosted⟩ := sound.hosted n node there
    by_cases same : broker.link.connection.hub = name
    · obtain ⟨routes, connections⟩ := kept hub (same ▸ found)
      refine ⟨broker, after, rfl, ?_, hosted.of_routes routes connections⟩
      rw [Network.hub?_withHub, if_pos same]
    · refine ⟨broker, hub, rfl, ?_, hosted⟩
      rw [Network.hub?_withHub, if_neg same, found]
  case distinct => exact sound.distinct

/-- A node and its hub may be replaced, as long as nothing changes for other connections. -/
theorem Sound.replace (sound : w.Sound) {n : Nat} {broker after : MiddlewareBroker T S (Owned C)}
    {hub next : Hub (Inbound T)} (there : w.node? n = some (.middleware broker))
    (found : w.connector.hub? broker.link.connection.hub = some hub)
    (link : after.link = broker.link) (beside : hub.Beside broker.link.connection.id next)
    (hosted : Hosted next n after) :
    Sound (w.withMiddleware n broker.link.connection.hub (after, next)) := by
  have own : (w.withMiddleware n broker.link.connection.hub (after, next)).node? n =
      some (.middleware after) := Network.node?_withNode there _
  have others {m : Nat} (different : m ≠ n) :
      (w.withMiddleware n broker.link.connection.hub (after, next)).node? m = w.node? m :=
    Network.node?_withNode_of_ne w different _
  have hubs (name : String) :
      (w.withMiddleware n broker.link.connection.hub (after, next)).connector.hub? name =
        if name = broker.link.connection.hub then some next else w.connector.hub? name :=
    Table.get?_insert ..
  -- The node keeps its connection, so connections tell nodes apart as they did before.
  have old {m : Nat} {other : MiddlewareBroker T S (Owned C)}
      (at_m : (w.withMiddleware n broker.link.connection.hub (after, next)).node? m =
        some (.middleware other)) :
      ∃ before, w.node? m = some (.middleware before) ∧ other.link = before.link := by
    by_cases same : m = n
    · subst same
      rw [own] at at_m
      cases at_m
      exact ⟨broker, there, link⟩
    · exact ⟨other, others same ▸ at_m, rfl⟩
  constructor
  case hosted =>
    intro m node at_m
    by_cases same : m = n
    · subst same
      rw [own] at at_m
      cases at_m
      refine ⟨after, next, rfl, ?_, hosted⟩
      rw [hubs, link, if_pos rfl]
    · rw [others same] at at_m
      obtain ⟨other, home, rfl, at_home, lives⟩ := sound.hosted m node at_m
      by_cases neighbour : other.link.connection.hub = broker.link.connection.hub
      · have apart : other.link.connection.id ≠ broker.link.connection.id := by
          intro shared
          have joint : other.link.connection = broker.link.connection :=
            congrArg₂ Connection.mk neighbour shared
          exact same (sound.distinct m n other broker at_m there joint)
        rw [neighbour, found] at at_home
        obtain rfl := Option.some.inj at_home
        refine ⟨other, next, rfl, ?_, lives.of_beside beside apart⟩
        rw [hubs, if_pos neighbour]
      · refine ⟨other, home, rfl, ?_, lives⟩
        rw [hubs, if_neg neighbour, at_home]
  case distinct =>
    intro m k first second at_m at_k shared
    obtain ⟨before, at_m, same⟩ := old at_m
    obtain ⟨before', at_k, same'⟩ := old at_k
    rw [same, same'] at shared
    exact sound.distinct m k before before' at_m at_k shared

/-- A node may be asked for anything. -/
theorem Sound.serve (sound : w.Sound) {n : Nat} {broker : MiddlewareBroker T S (Owned C)}
    (there : w.node? n = some (.middleware broker)) (wire : Wire T M) (r : Request T S C M) :
    Sound (w.withMiddleware n broker.link.connection.hub
      (broker.serve wire.nameOf wire.codec (w.hub broker.link.connection.hub) (r.ownedBy n))) := by
  obtain ⟨hub, found, hosted⟩ := sound.middleware there
  rw [Network.hub_of_hub? found]
  have confined :=
    MiddlewareBroker.confined_serve hosted.willing hub wire.nameOf wire.codec (r.ownedBy n)
  exact sound.replace there found confined.link confined.beside
    (hosted.serve wire.nameOf wire.codec r)

/-- A node may be counted at. -/
theorem Sound.recount (sound : w.Sound) {n : Nat} {broker : MiddlewareBroker T S (Owned C)}
    (there : w.node? n = some (.middleware broker)) (metrics : BrokerMetrics) :
    Sound (w.withNode n (.middleware { broker with metrics })) := by
  obtain ⟨hub, found, hosted⟩ := sound.middleware there
  have counted : Sound (w.withMiddleware n broker.link.connection.hub ({ broker with metrics }, hub)) :=
    sound.replace there found rfl (hub.beside_refl _) (hosted.recount metrics)
  have kept : (w.withNode n (.middleware { broker with metrics })).connector.hub?
      broker.link.connection.hub = some hub := found
  rw [Network.withMiddleware, Network.withHub_self kept] at counted
  exact counted

/-- A broker on a connection that no other node has may become the next node. -/
theorem Sound.add (sound : w.Sound) {broker : MiddlewareBroker T S (Owned C)}
    {hub : Hub (Inbound T)} (found : w.connector.hub? broker.link.connection.hub = some hub)
    (hosted : Hosted hub w.nodes.length broker)
    (fresh : ∀ n old, w.node? n = some (.middleware old) →
      old.link.connection ≠ broker.link.connection) :
    Sound { w with nodes := w.nodes ++ [.middleware broker] } := by
  constructor
  case hosted =>
    intro n node there
    rw [Network.node?_concat] at there
    split at there
    · next last =>
      cases there
      exact ⟨broker, hub, rfl, found, last ▸ hosted⟩
    · exact sound.hosted n node there
  case distinct =>
    intro n m first second at_n at_m shared
    rw [Network.node?_concat] at at_n at_m
    split at at_n
    · next last =>
      cases at_n
      split at at_m
      · next last' => rw [last, last']
      · exact absurd shared.symm (fresh m second at_m)
    · split at at_m
      · cases at_m
        exact absurd shared (fresh n first at_n)
      · exact sound.distinct n m first second at_n at_m shared

omit [DecidableEq T] [DecidableEq S] in
/-- Connecting starts the hub of that name if there is none, and counts the connection there. -/
theorem connect_cases (w : ActingNetwork T S C M J) (uri : String) :
    (∃ e, w.connector.connect uri = .error e) ∨
      ∃ name, w.connector.connect uri = .ok (⟨name, (w.hub name).connections⟩,
        (w.withHub name (w.hub name).connect.2).connector) := by
  rw [Connector.connect]
  cases Connector.hubName uri with
  | error e => exact .inl ⟨e, rfl⟩
  | ok name => exact .inr ⟨name, rfl⟩

theorem Sound.connect (sound : w.Sound) (name : String) :
    Sound (w.withHub name (w.hub name).connect.2) := by
  refine sound.withHub fun hub found => ?_
  rw [Network.hub_of_hub? found]
  exact ⟨rfl, Nat.le_succ _⟩

theorem Sound.join (sound : w.Sound) (uri : String) (kind : ChannelKind)
    {joined : ActingNetwork T S C M J} (added : w.addMiddleware uri kind {} = .ok joined) :
    joined.Sound := by
  rw [Network.addMiddleware] at added
  obtain ⟨e, refused⟩ | ⟨name, connected⟩ := connect_cases w uri
  · rw [refused] at added
    contradiction
  · rw [connected] at added
    cases added
    have found : (w.withHub name (w.hub name).connect.2).connector.hub? name =
        some (w.hub name).connect.2 := by
      rw [Network.hub?_withHub, if_pos rfl]
    refine (sound.connect name).add found ?_ ?_
    · constructor
      case node => rfl
      case willing => rfl
      case known => exact Nat.lt_succ_self _
      case owned =>
        intro t s owned member
        contradiction
      case shut =>
        intro closed
        contradiction
    · intro n old there shared
      obtain ⟨hub, at_home, hosted⟩ := sound.middleware there
      have known := hosted.known
      rw [shared] at at_home known
      rw [← Network.hub_of_hub? at_home] at known
      exact Nat.lt_irrefl _ known

theorem Sound.sendRaw (sound : w.Sound) (uri topic : String) (payload : ByteArray) :
    Sound (w.sendRaw uri topic payload).2 := by
  rw [Network.sendRaw]
  obtain ⟨e, refused⟩ | ⟨name, connected⟩ := connect_cases w uri
  · rw [refused]
    exact sound
  · rw [connected]
    have joined := sound.connect name
    dsimp only
    split
    · exact joined
    · next sent =>
      refine joined.withHub fun hub found => ?_
      have own := Network.hub_of_hub? found
      rw [(Hub.eq_of_send sent).2]
      exact own ▸ ⟨rfl, Nat.le_refl _⟩

variable [Hashable T]

/-- What a middleware node is asked for it does with its hub. -/
theorem request_middleware {n : Nat} {broker : MiddlewareBroker T S (Owned C)}
    (there : w.node? n = some (.middleware broker)) (wire : Wire T M)
    (call : Network.Call T S (Owned C) (Logged C M J) M) (r : Request T S (Owned C) M) :
    (w.request wire call n r).2 = w.withMiddleware n broker.link.connection.hub
      (broker.serve wire.nameOf wire.codec (w.hub broker.link.connection.hub) r) := by
  rw [Network.request, there]
  cases r <;> rfl

theorem Sound.perform (sound : w.Sound) (wire : Wire T M) (act : Act T S C M) :
    (perform wire w act).Sound := by
  cases act with
  | join uri kind =>
    rw [ActingNetwork.perform]
    split
    · next added => exact sound.join uri kind added
    · exact sound
  | frame uri topic payload => exact sound.sendRaw uri topic payload
  | request n r =>
    rw [ActingNetwork.perform]
    cases found : w.node? n with
    | none =>
      rw [Network.request, found]
      exact sound
    | some node =>
      obtain ⟨broker, hub, rfl, -⟩ := sound.hosted n node found
      rw [request_middleware found]
      exact sound.serve found wire r

theorem Sound.call (sound : w.Sound) (wire : Wire T M) (react : C → M → J → Reaction T S C M J)
    (owned : Owned C) (message : M) : Sound (call wire react owned message w).2 := by
  exact List.foldlRecOn _ _ (sound.withJournal _) fun _ still act _ => still.perform wire act

/-! ## Dispatching -/

omit [Hashable T] in
theorem Sound.recordDelivery (sound : w.Sound) (n : Nat) (report : DeliveryReport) :
    Sound (w.recordDelivery n report) := by
  rw [Network.recordDelivery]
  split
  · next there => exact sound.recount there _
  · exact sound

theorem Sound.receive (sound : w.Sound) (wire : Wire T M) (react : C → M → J → Reaction T S C M J)
    (payload : ByteArray) (inbound : Inbound T) :
    Sound (w.receive wire (ActingNetwork.call wire react) payload inbound) := by
  rcases Network.receive_cases wire payload inbound (w.node? inbound.node) with
    idle | ⟨message, broker, route, -, -, delivers⟩
  · rw [idle _ w rfl]
    exact sound
  · rw [delivers _ w rfl]
    refine Sound.recordDelivery ?_ _ _
    rw [deliverAll_snd]
    exact List.foldlRecOn _ _ sound fun _ kept owned _ => kept.call wire react owned message

omit [Hashable T] in
theorem Sound.take (sound : w.Sound) {name : String} {entry : HubEntry} {next : Hub (Inbound T)}
    (taken : (w.hub name).next? = some (entry, next)) : Sound (w.withHub name next) := by
  refine sound.withHub fun hub found => ?_
  rw [Network.hub_of_hub? found] at taken
  have passes := Hub.passes_of_next? taken
  exact ⟨passes.routes, passes.connections.ge⟩

theorem Sound.dispatch (sound : w.Sound) (wire : Wire T M) (react : C → M → J → Reaction T S C M J)
    (name : String) : Sound (w.dispatch wire (ActingNetwork.call wire react) name) := by
  rw [Network.dispatch]
  split
  · exact sound
  · next taken => exact sound.take taken
  · next taken =>
    exact List.foldlRecOn _ _ (sound.take taken) fun _ kept inbound _ =>
      kept.receive wire react _ inbound

omit [Hashable T] in
theorem Sound.turn (sound : w.Sound) {name : String} {turn : HubTurn} {next : Hub (Inbound T)}
    (turned : (w.connector.hub? name).bind turn.apply = some next) : Sound (w.withHub name next) := by
  refine sound.withHub fun hub found => ?_
  rw [found] at turned
  obtain ⟨routes, connections⟩ := HubTurn.apply_keeps turned
  exact ⟨routes, connections.ge⟩

theorem Sound.step (sound : w.Sound) (wire : Wire T M) (react : C → M → J → Reaction T S C M J)
    (event : NetworkEvent T S C M) : (step wire react w event).Sound := by
  cases event with
  | act act => exact sound.perform wire act
  | dispatch name => exact sound.dispatch wire react name
  | handle payload handler => exact sound.receive wire react payload handler
  | turn name turn =>
    rw [ActingNetwork.step]
    split
    · next turned => exact sound.turn turned
    · exact sound

/-- What all events preserve holds at every point of a run. -/
theorem sound_run (sound : w.Sound) (wire : Wire T M) (react : C → M → J → Reaction T S C M J)
    (events : List (NetworkEvent T S C M)) : (run wire react w events).Sound :=
  List.foldlRecOn _ _ sound fun _ kept event _ => kept.step wire react event

end ActingNetwork

end Vicinity

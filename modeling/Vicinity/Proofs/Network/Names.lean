import Vicinity.Proofs.Dyconit.Chunks
import Vicinity.Proofs.Network.Acts

/-! # Names on the transport

A transport knows topics by their names alone, so topics that share a name share its routes. Brokers
subscribe their transport to a topic under the topic's own name, whatever the transport answers, and
nothing else routes anything. So under a name there are handlers for the topics of that name only,
and where names are told apart, as those of chunks are, the handlers of a name are all for one topic.
-/

namespace Vicinity

variable {T S C M J : Type}

/-- Every handler is routed under the name of its own topic. -/
def Hub.Labelled (nameOf : T → String) (hub : Hub (Inbound T)) : Prop :=
  ∀ name connection handler, hub.route? name connection = some handler →
    nameOf handler.topic = name

/-- A subscription is asked for under the name of the handler's topic. -/
def LinkRequest.Labelled (nameOf : T → String) (request : LinkRequest (Inbound T)) : Prop :=
  ∀ name handler, request = .subscribe name handler → nameOf handler.topic = name

variable {nameOf : T → String}

namespace Hub

variable {hub after : Hub (Inbound T)}

theorem labelled_start (nameOf : T → String) (name : String) :
    Labelled nameOf (.start name : Hub (Inbound T)) := by
  intro topic connection handler found
  contradiction

theorem Labelled.of_routes (labelled : hub.Labelled nameOf) (same : after.routes = hub.routes) :
    after.Labelled nameOf := by
  intro name connection handler found
  rw [route?_of_routes same] at found
  exact labelled name connection handler found

theorem Labelled.subscribe (labelled : hub.Labelled nameOf) (connection : Nat) {name : String}
    {handler : Inbound T} (own : nameOf handler.topic = name) :
    (hub.subscribe connection name handler).Labelled nameOf := by
  intro other asked routed found
  rw [route?_subscribe] at found
  split at found
  case isTrue same =>
    obtain rfl := Option.some.inj found
    exact own.trans same.1.symm
  case isFalse => exact labelled other asked routed found

theorem Labelled.unsubscribe (labelled : hub.Labelled nameOf) (connection : Nat) (name : String) :
    (hub.unsubscribe connection name).Labelled nameOf := by
  intro other asked routed found
  rw [route?_unsubscribe] at found
  split at found
  case isTrue => contradiction
  case isFalse => exact labelled other asked routed found

theorem Labelled.detach (labelled : hub.Labelled nameOf) (connection : Nat) :
    (hub.detach connection).Labelled nameOf := by
  intro other asked routed found
  rw [route?_detach] at found
  split at found
  case isTrue => contradiction
  case isFalse => exact labelled other asked routed found

/-- Whoever gets a frame of a topic has subscribed to a topic of that name. -/
theorem Labelled.name_eq (labelled : hub.Labelled nameOf) {name : String} {inbound : Inbound T}
    (member : inbound ∈ hub.handlersFor name) : nameOf inbound.topic = name := by
  rw [handlersFor_eq, Table.mem_values_iff] at member
  obtain ⟨connection, found⟩ := member
  exact labelled name connection inbound found

end Hub

/-! ## Links and brokers -/

namespace Link

theorem labelled_ask {state : Link × Hub (Inbound T)} (labelled : state.2.Labelled nameOf)
    {request : LinkRequest (Inbound T)} (own : request.Labelled nameOf) :
    (ask state request).2.Labelled nameOf := by
  cases request with
  | subscribe name handler =>
    obtain ⟨next, -, ⟨e, refused⟩ | accepted⟩ := state.1.subscribe_cases state.2 name handler
    · rw [ask, refused]
      exact labelled
    · rw [ask, accepted]
      exact labelled.subscribe _ (own name handler rfl)
  | unsubscribe name =>
    dsimp only [ask, Link.unsubscribe]
    split
    · exact labelled
    · exact labelled.unsubscribe _ _
  | publish name payload =>
    exact labelled.of_routes (state.1.publish_later state.2 name payload).2

theorem labelled_askAll {state : Link × Hub (Inbound T)} (labelled : state.2.Labelled nameOf)
    {requests : List (LinkRequest (Inbound T))}
    (own : ∀ request ∈ requests, request.Labelled nameOf) :
    (askAll state requests).2.Labelled nameOf :=
  List.foldlRecOn _ _ (motive := fun state : Link × Hub (Inbound T) => state.2.Labelled nameOf)
    labelled fun _ kept request member => labelled_ask kept (own request member)

/-- A connection that is closed loses its routes, or keeps them if the transport refuses. -/
theorem labelled_close (link : Link) {hub : Hub (Inbound T)} (labelled : hub.Labelled nameOf) :
    (link.close hub).2.2.Labelled nameOf := by
  dsimp only [Link.close]
  split
  · exact labelled
  · exact labelled.detach _

end Link

namespace MiddlewareBroker

variable [DecidableEq T] [DecidableEq S]

/-- Whatever state a broker is in and whatever its transport answers, a request leaves every handler
under the name of its topic. -/
theorem labelled_serve (broker : MiddlewareBroker T S C) (codec : Codec M) {hub : Hub (Inbound T)}
    (labelled : hub.Labelled nameOf) (r : Request T S C M) :
    (broker.serve nameOf codec hub r).2.Labelled nameOf := by
  have asking {asked : List (LinkRequest (Inbound T))} (asks : broker.Asks nameOf codec r asked)
      (waiting : ∀ request ∈ asked, broker.Waiting nameOf request) :
      (broker.serve nameOf codec hub r).2.Labelled nameOf := by
    have served := congrArg Prod.snd (asks broker.link.refusals hub)
    refine Eq.mpr (congrArg (Hub.Labelled nameOf) served) (Link.labelled_askAll labelled ?_)
    intro request member name handler same
    exact (waiting request member name handler same).2.symm
  cases closed : broker.closed with
  | false =>
    by_cases closing : r = .close
    · rw [closing, serve, close, closed, if_neg Bool.false_ne_true]
      exact Link.labelled_close broker.link labelled
    · obtain ⟨asked, asks, waiting⟩ := asks_waiting closed nameOf codec closing
      exact asking asks waiting
  | true =>
    cases r with
    | subscribe t s callback =>
      rw [serve, subscribe, if_pos closed]
      exact labelled
    | publish t message =>
      rw [serve, publish, if_pos closed]
      exact labelled
    | close =>
      rw [serve, close, if_pos closed]
      exact labelled
    | unsubscribe t s =>
      refine asking (asks_unsubscribe nameOf codec broker t s) fun request member => ?_
      split at member
      case isTrue =>
        obtain rfl := List.mem_singleton.mp member
        intro name handler same
        contradiction
      case isFalse => contradiction

end MiddlewareBroker

/-! ## Networks -/

namespace Network

/-- All hubs route every handler under the name of its own topic. -/
def Labelled (nameOf : T → String) (w : Network T S C J) : Prop :=
  ∀ name hub, w.connector.hub? name = some hub → hub.Labelled nameOf

variable {w : Network T S C J}

theorem labelled_new (nameOf : T → String) (journal : J) :
    Labelled nameOf (.new journal : Network T S C J) := by
  intro name hub found
  contradiction

theorem Labelled.of_connector (labelled : w.Labelled nameOf) {after : Network T S C J}
    (same : after.connector = w.connector) : after.Labelled nameOf := by
  intro name hub found
  exact labelled name hub (same ▸ found)

/-- A hub that is not there yet has no routes. -/
theorem Labelled.hub (labelled : w.Labelled nameOf) (name : String) : (w.hub name).Labelled nameOf := by
  rw [Network.hub]
  cases found : w.connector.hub? name with
  | none => exact Hub.labelled_start nameOf name
  | some hub => exact labelled name hub found

theorem Labelled.withHub (labelled : w.Labelled nameOf) {name : String} {hub : Hub (Inbound T)}
    (own : hub.Labelled nameOf) : (w.withHub name hub).Labelled nameOf := by
  intro other found there
  rw [hub?_withHub] at there
  split at there
  case isTrue =>
    obtain rfl := Option.some.inj there
    exact own
  case isFalse => exact labelled other found there

theorem Labelled.addMiddleware (labelled : w.Labelled nameOf) {uri : String} {kind : ChannelKind}
    {refusals : Refusals} {joined : Network T S C J}
    (added : w.addMiddleware uri kind refusals = .ok joined) : joined.Labelled nameOf := by
  rw [Network.addMiddleware, Connector.connect] at added
  cases named : Connector.hubName uri with
  | error e =>
    rw [named] at added
    contradiction
  | ok name =>
    rw [named] at added
    cases added
    exact labelled.withHub ((labelled.hub name).of_routes rfl)

theorem Labelled.sendRaw (labelled : w.Labelled nameOf) (uri topic : String) (payload : ByteArray) :
    (w.sendRaw uri topic payload).2.Labelled nameOf := by
  rw [Network.sendRaw, Connector.connect]
  cases Connector.hubName uri with
  | error e => exact labelled
  | ok name =>
    have connected : (w.withHub name (w.hub name).connect.2).Labelled nameOf :=
      labelled.withHub ((labelled.hub name).of_routes rfl)
    dsimp only [Except.map]
    split
    case h_1 => exact connected
    case h_2 sent =>
      exact connected.withHub ((connected.hub name).of_routes (Link.routes_of_publish sent))

theorem Labelled.recordPublish (labelled : w.Labelled nameOf) (n : Nat)
    (report : Option DeliveryReport) : (w.recordPublish n report).Labelled nameOf := by
  rw [Network.recordPublish]
  split
  · exact labelled.of_connector rfl
  · exact labelled

theorem Labelled.recordDelivery (labelled : w.Labelled nameOf) (n : Nat) (report : DeliveryReport) :
    (w.recordDelivery n report).Labelled nameOf := by
  rw [Network.recordDelivery]
  split
  · exact labelled.of_connector rfl
  · exact labelled

/-- A call may do to the network whatever leaves the handlers under the names of their topics. -/
def Call.Labels (nameOf : T → String) (call : Call T S C J M) : Prop :=
  ∀ callback message (w : Network T S C J), w.Labelled nameOf →
    (call callback message w).2.Labelled nameOf

variable {call : Call T S C J M}

theorem Labelled.publish (labelled : w.Labelled nameOf) (calls : Call.Labels nameOf call)
    (channel : Channel S C) (message : M) :
    (channel.publish (fun callback => call callback message) w).2.Labelled nameOf := by
  rw [Channel.publish_eq, deliverAll_snd]
  exact List.foldlRecOn _ _ labelled fun w kept callback _ => calls callback message w kept

variable [DecidableEq T]

theorem Labelled.receive (labelled : w.Labelled nameOf) (calls : Call.Labels nameOf call)
    (codec : Codec M) (payload : ByteArray) (inbound : Inbound T) :
    (w.receive ⟨nameOf, codec⟩ call payload inbound).Labelled nameOf := by
  rw [Network.receive]
  split
  case h_1 =>
    split
    case h_1 => exact labelled
    case h_2 => exact (labelled.publish calls _ _).recordDelivery _ _
  case h_2 => exact labelled

/-- The dispatcher takes entries and calls handlers, and routes none. -/
theorem Labelled.dispatch (labelled : w.Labelled nameOf) (calls : Call.Labels nameOf call)
    (codec : Codec M) (name : String) :
    (w.dispatch ⟨nameOf, codec⟩ call name).Labelled nameOf := by
  have rest {entry : HubEntry} {next : Hub (Inbound T)}
      (taken : (w.hub name).next? = some (entry, next)) : (w.withHub name next).Labelled nameOf :=
    labelled.withHub ((labelled.hub name).of_routes (Hub.passes_of_next? taken).routes)
  rw [Network.dispatch]
  split
  case h_1 => exact labelled
  case h_2 taken => exact rest taken
  case h_3 taken =>
    exact List.foldlRecOn _ _ (rest taken) fun _ kept inbound _ =>
      kept.receive calls codec _ inbound

variable [DecidableEq S] [Hashable T]

theorem Labelled.request (labelled : w.Labelled nameOf) (calls : Call.Labels nameOf call)
    (codec : Codec M) (n : Nat) (r : Request T S C M) :
    (w.request ⟨nameOf, codec⟩ call n r).2.Labelled nameOf := by
  rw [Network.request]
  split
  case h_1 => exact labelled
  case h_2 broker _ =>
    cases r with
    | subscribe t s callback => exact labelled.of_connector rfl
    | unsubscribe t s => exact labelled.of_connector rfl
    | close => exact labelled
    | publish t message =>
      dsimp only [Network.requestInProcess]
      split
      case h_1 => exact labelled.recordPublish _ _
      case h_2 channel _ => exact (labelled.publish calls channel message).recordPublish _ _
  case h_3 broker _ =>
    have served := broker.labelled_serve codec (labelled.hub broker.link.connection.hub) r
    have stored : (w.withMiddleware n broker.link.connection.hub
        (broker.serve nameOf codec (w.hub broker.link.connection.hub) r)).Labelled nameOf :=
      Labelled.withHub (labelled.of_connector rfl) served
    cases r <;> exact stored

end Network

/-- A node that a network is to start with: where it connects, and what its transport refuses. -/
structure NodePlan where
  uri : String
  kind : ChannelKind
  refusals : Refusals

def NodePlan.addTo (w : ActingNetwork T S C M J) (plan : NodePlan) :
    Except BrokerError (ActingNetwork T S C M J) :=
  w.addMiddleware plan.uri plan.kind plan.refusals

namespace ActingNetwork

/-- A network of the planned nodes, unless one of them cannot connect. -/
def building (journal : J) (plans : List NodePlan) : Except BrokerError (ActingNetwork T S C M J) :=
  plans.foldlM NodePlan.addTo (new journal)

variable [DecidableEq T] [DecidableEq S] [Hashable T] {w : ActingNetwork T S C M J}

theorem labelled_perform (labelled : w.Labelled nameOf) (codec : Codec M) (act : Act T S C M) :
    (perform ⟨nameOf, codec⟩ w act).Labelled nameOf := by
  cases act with
  | join uri kind =>
    rw [perform]
    split
    case h_1 added => exact labelled.addMiddleware added
    case h_2 => exact labelled
  | frame uri topic payload => exact labelled.sendRaw uri topic payload
  | request n r => exact labelled.request (fun _ _ _ kept => kept) codec n (r.ownedBy n)

theorem labels_call (nameOf : T → String) (codec : Codec M)
    (react : C → M → J → Reaction T S C M J) :
    Network.Call.Labels nameOf (call ⟨nameOf, codec⟩ react) := fun _ _ _ labelled =>
  List.foldlRecOn _ _ (labelled.of_connector rfl) fun _ kept act _ => labelled_perform kept codec act

theorem labelled_step (labelled : w.Labelled nameOf) (codec : Codec M)
    (react : C → M → J → Reaction T S C M J) (event : NetworkEvent T S C M) :
    (step ⟨nameOf, codec⟩ react w event).Labelled nameOf := by
  have calls := labels_call nameOf codec react
  cases event with
  | act act => exact labelled_perform labelled codec act
  | dispatch name => exact labelled.dispatch calls codec name
  | handle payload handler => exact labelled.receive calls codec payload handler
  | turn name turn =>
    rw [step]
    split
    case h_1 next turned =>
      obtain ⟨hub, found, applied⟩ := Option.bind_eq_some_iff.mp turned
      exact labelled.withHub ((labelled name hub found).of_routes (HubTurn.apply_keeps applied).1)
    case h_2 => exact labelled

/-- Handlers stay under the names of their topics throughout a run. -/
theorem labelled_run (labelled : w.Labelled nameOf) (codec : Codec M)
    (react : C → M → J → Reaction T S C M J) (events : List (NetworkEvent T S C M)) :
    (run ⟨nameOf, codec⟩ react w events).Labelled nameOf :=
  List.foldlRecOn _ _ labelled fun _ kept event _ => labelled_step kept codec react event

omit [DecidableEq T] [DecidableEq S] [Hashable T] in
theorem labelled_addAll {built : ActingNetwork T S C M J} (labelled : w.Labelled nameOf)
    {plans : List NodePlan} (succeeds : plans.foldlM NodePlan.addTo w = .ok built) :
    built.Labelled nameOf := by
  induction plans generalizing w with
  | nil =>
    cases succeeds
    exact labelled
  | cons plan rest ih =>
    rw [List.foldlM_cons] at succeeds
    cases added : NodePlan.addTo w plan with
    | error e =>
      rw [added] at succeeds
      contradiction
    | ok next =>
      rw [added] at succeeds
      exact ih (labelled.addMiddleware added) succeeds

end ActingNetwork

/-! ## Chunks -/

/-- A policy never puts two chunks into one dyconit, neither for those who publish in them nor for
those who see them. -/
structure Dyconit.Policy.Separates (policy : Dyconit.Policy Viewer M) (viewDistance : UInt32) :
    Prop where
  affected : ∀ (one other : Publisher) (chunk next : ChunkKey), one.chunkOf = .ok chunk →
    other.chunkOf = .ok next → policy.affected one = policy.affected other → chunk = next
  held : ∀ viewer, (policy.update viewer).map Command.name =
    (viewer.visibleChunks viewDistance).map ChunkKey.name
  once : ∀ viewer, ((policy.update viewer).map Command.name).Nodup

theorem Dyconit.separates_perChunk (name : String) (viewDistance : UInt32)
    (boundsOf : Viewer → ChunkKey → Bounds) :
    Policy.Separates (perChunk name viewDistance boundsOf : Policy Viewer M) viewDistance := by
  have held (viewer : Viewer) :
      ((perChunk name viewDistance boundsOf : Policy Viewer M).update viewer).map Command.name =
        (viewer.visibleChunks viewDistance).map ChunkKey.name := List.map_map
  refine ⟨?affected, held, ?once⟩
  case affected =>
    intro one other chunk next here there same
    change one.chunkOf.map ChunkKey.name = other.chunkOf.map ChunkKey.name at same
    rw [here, there] at same
    exact ChunkKey.eq_of_name_eq (Except.ok.inj same)
  case once =>
    intro viewer
    rw [held]
    exact (ChunkKey.nodup_square _ _).map fun _ _ => ChunkKey.eq_of_name_eq

/-- A name belongs to one chunk. So where brokers have chunks for topics, the handlers under a name of
a transport are all for the chunk of that name, whatever the transports have refused and whatever has
happened in the network; and the policies with a dyconit for each chunk keep chunks apart. -/
theorem chunk_names_apart [DecidableEq S] (codec : Codec M)
    (react : C → M → J → Reaction ChunkKey S C M J) (journal : J) :
    (∀ a b : ChunkKey, a.name = b.name → a = b) ∧
    (∀ plans start, ActingNetwork.building journal plans = .ok start →
      ∀ events address hub,
        (ActingNetwork.run ⟨ChunkKey.name, codec⟩ react start events).connector.hub? address =
          some hub →
        ∀ name, ∀ inbound ∈ hub.handlersFor name, ∀ chunk : ChunkKey,
          chunk.name = name ↔ chunk = inbound.topic) ∧
    ∀ viewDistance,
      ∀ policy ∈ [Dyconit.chunkPolicy viewDistance,
        (Dyconit.quadraticPolicy viewDistance : Dyconit.Policy Viewer M)],
      policy.Separates viewDistance := by
  refine ⟨fun _ _ => ChunkKey.eq_of_name_eq, ?transport, ?dyconits⟩
  case transport =>
    intro plans start built events address hub found name inbound member chunk
    have labelled := ActingNetwork.labelled_run (ActingNetwork.labelled_addAll
      (Network.labelled_new ChunkKey.name _) built) codec react events
    have own : inbound.topic.name = name := (labelled address hub found).name_eq member
    constructor
    · intro same
      exact ChunkKey.eq_of_name_eq (same.trans own.symm)
    · intro same
      rw [same, own]
  case dyconits =>
    intro viewDistance policy listed
    rw [List.mem_pair] at listed
    rcases listed with rfl | rfl
    · exact Dyconit.separates_perChunk _ viewDistance _
    · exact Dyconit.separates_perChunk _ viewDistance _

end Vicinity

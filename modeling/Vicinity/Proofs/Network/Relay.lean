import Vicinity.Proofs.Network.Basic
import Vicinity.Proofs.Network.Exchange

/-! # Nodes on one hub keep up with an exchange

Middleware nodes on one hub spread the work of an exchange over encoding, a queue of frames, a route
for every connection and topic, and a map of topics in every node. `Relays` says how these belong
together. Joining, requests and foreign frames preserve it, and leave no trace in the journal.
-/

namespace Vicinity

variable {S C J M : Type}

namespace Network

/-- The event as it happens in a network, where the address leads to the hub of that name. -/
def step [DecidableEq S] (codec : Codec M) (run : C → M → J → Outcome × J) (uri name : String)
    (w : Network String S C J) : HubEvent S C M → Network String S C J
  | .join kind =>
    match w.addMiddleware uri kind {} with
    | .ok joined => joined
    | .error _ => w
  | .request n r => (w.request ⟨id, codec⟩ (onJournal run) n r).2
  | .frame t payload => (w.sendRaw uri t payload).2
  | .dispatch => w.dispatch ⟨id, codec⟩ (onJournal run) name

/-- A frame in a queue carries a message that is under way. -/
def Carries (codec : Codec M) (entry : HubEntry) (message : String × Option M) : Prop :=
  ∃ payload, entry = .message message.1 payload ∧ (codec.decode payload).toOption = message.2

/-- A node is a broker that is linked to its hub, and open as the exchange has it. -/
structure Member (name : String) (hub : Hub (Inbound String)) (n : Nat) (isOpen : Bool)
    (broker : MiddlewareBroker String S C) : Prop where
  linked : broker.Linked hub n
  hub : broker.link.connection.hub = name
  closed : broker.closed = !isOpen

theorem hub_withHub (w : Network String S C J) (name : String) (hub : Hub (Inbound String)) :
    (w.withHub name hub).hub name = hub := by
  rw [Network.hub, withHub, Connector.hub?, Table.get?_insert, if_pos rfl]
  rfl

variable [DecidableEq S]

/-- The nodes of a network and the hub of that name do together what an exchange does. -/
structure Relays (codec : Codec M) (name : String) (w : Network String S C J)
    (x : Exchange S C M) : Prop where
  accepting : (w.hub name).accepting = true
  alive : (w.hub name).alive = true
  inFlight : List.Forall₂ (Carries codec) (w.hub name).queue x.inFlight
  size : w.nodes.length = x.nodes.length
  member : ∀ n node, w.node? n = some node →
    ∃ broker, node = .middleware broker ∧ Member name (w.hub name) n (x.isOpen n) broker
  distinct : ∀ n m (first second : MiddlewareBroker String S C),
    w.node? n = some (.middleware first) → w.node? m = some (.middleware second) →
    first.link.connection.id = second.link.connection.id → n = m
  routed : ∀ t connection handler, (w.hub name).route? t connection = some handler →
    ∃ n broker, w.node? n = some (.middleware broker) ∧ broker.link.connection.id = connection
  registered : ∀ n t s, (x.registry t).get? (n, s) = (w.subscribers n t).get? s

theorem relays_new (codec : Codec M) (name : String) (journal : J) :
    Relays codec name (new journal : Network String S C J) .new where
  accepting := rfl
  alive := rfl
  inFlight := .nil
  size := rfl
  member n node there := by contradiction
  distinct n m first second there := by contradiction
  routed t connection handler there := by contradiction
  registered n t s := rfl

namespace Relays

variable {codec : Codec M} {name : String} {w : Network String S C J} {x : Exchange S C M}

theorem middleware (relays : Relays codec name w x) {n : Nat} {broker : MiddlewareBroker String S C}
    (there : w.node? n = some (.middleware broker)) :
    Member name (w.hub name) n (x.isOpen n) broker := by
  obtain ⟨_, same, member⟩ := relays.member n _ there
  cases same
  exact member

/-- A hub may take on connections and frames, or pass frames on. -/
theorem rehub (relays : Relays codec name w x) (hub : Hub (Inbound String))
    (routes : hub.routes = (w.hub name).routes)
    (connections : (w.hub name).connections ≤ hub.connections)
    (accepting : hub.accepting = (w.hub name).accepting) (alive : hub.alive = (w.hub name).alive)
    {inFlight : List (String × Option M)} (carried : List.Forall₂ (Carries codec) hub.queue inFlight) :
    Relays codec name (w.withHub name hub) { x with inFlight } where
  accepting := by rw [hub_withHub, accepting, relays.accepting]
  alive := by rw [hub_withHub, alive, relays.alive]
  inFlight := by rw [hub_withHub]; exact carried
  size := relays.size
  member n node there := by
    obtain ⟨broker, rfl, member⟩ := relays.member n node there
    rw [hub_withHub]
    exact ⟨broker, rfl, member.linked.of_routes routes connections, member.hub, member.closed⟩
  distinct := relays.distinct
  routed t connection handler there := by
    rw [hub_withHub, Hub.route?_of_routes routes] at there
    exact relays.routed t connection handler there
  registered := relays.registered

/-- One node may be served by its hub while the exchange changes at that node. -/
theorem serve (relays : Relays codec name w x) {n : Nat} {broker : MiddlewareBroker String S C}
    (there : w.node? n = some (.middleware broker)) {entries : List HubEntry}
    {after : MiddlewareBroker String S C × Hub (Inbound String)}
    (serves : broker.Serves (w.hub name) n entries after) {y : Exchange S C M}
    {sent : List (String × Option M)} (beside : Exchange.Beside n x y sent)
    (carried : List.Forall₂ (Carries codec) entries sent)
    (closed : after.1.closed = !y.isOpen n)
    (registered : ∀ t s, (y.registry t).get? (n, s) = (after.1.subscribers t).get? s) :
    Relays codec name (w.withMiddleware n name after) y := by
  have hub : (w.withMiddleware n name after).hub name = after.2 := hub_withHub _ name after.2
  have own : (w.withMiddleware n name after).node? n = some (.middleware after.1) :=
    node?_withNode there _
  have others {m : Nat} (different : m ≠ n) :
      (w.withMiddleware n name after).node? m = w.node? m :=
    node?_withNode_of_ne w different _
  -- The node keeps its connection, so connections tell nodes apart as they did before.
  have id_eq {m : Nat} {found : MiddlewareBroker String S C}
      (at_m : (w.withMiddleware n name after).node? m = some (.middleware found)) :
      ∃ old, w.node? m = some (.middleware old) ∧
        found.link.connection.id = old.link.connection.id := by
    by_cases same : m = n
    · subst same
      rw [own] at at_m
      cases at_m
      exact ⟨broker, there, congrArg Connection.id serves.connection⟩
    · rw [others same] at at_m
      exact ⟨found, at_m, rfl⟩
  refine ⟨?accepting, ?alive, ?inFlight, ?size, ?member, ?distinct, ?routed, ?registered⟩
  case accepting => rw [hub, serves.beside.accepting, relays.accepting]
  case alive => rw [hub, serves.beside.alive, relays.alive]
  case inFlight =>
    rw [hub, serves.queue, beside.inFlight]
    exact List.rel_append relays.inFlight carried
  case size =>
    rw [beside.size, ← relays.size]
    exact List.length_set
  case member =>
    intro m node at_m
    rw [hub]
    by_cases same : m = n
    · subst same
      rw [own] at at_m
      cases at_m
      have named := (relays.middleware there).hub
      exact ⟨after.1, rfl, serves.linked, serves.connection ▸ named, closed⟩
    · rw [others same] at at_m
      obtain ⟨old, rfl, member⟩ := relays.member m node at_m
      -- Another node has another connection, and the hub has changed in routes of this one alone.
      have apart : old.link.connection.id ≠ broker.link.connection.id :=
        fun shared => same (relays.distinct m n old broker at_m there shared)
      rw [← beside.isOpen m same] at member
      exact ⟨old, rfl, member.linked.of_beside serves.beside apart, member.hub, member.closed⟩
  case distinct =>
    intro m k first second at_m at_k shared
    obtain ⟨oldM, foundM, idM⟩ := id_eq at_m
    obtain ⟨oldK, foundK, idK⟩ := id_eq at_k
    exact relays.distinct m k oldM oldK foundM foundK (idM ▸ idK ▸ shared)
  case routed =>
    intro t connection handler found
    by_cases mine : connection = broker.link.connection.id
    · exact ⟨n, after.1, own, by rw [serves.connection, mine]⟩
    · rw [hub, serves.beside.route? t connection mine] at found
      obtain ⟨m, old, at_m, rfl⟩ := relays.routed t connection handler found
      have different : m ≠ n := by
        rintro rfl
        rw [there] at at_m
        cases at_m
        exact mine rfl
      exact ⟨m, old, (others different).trans at_m, rfl⟩
  case registered =>
    intro m t s
    by_cases same : m = n
    · subst same
      rw [subscribers_of_node? own]
      exact registered t s
    · rw [beside.registry m same, relays.registered, Network.subscribers, Network.subscribers,
        others same]

/-! ## Requests -/

theorem subscribe (relays : Relays codec name w x) {n : Nat} {broker : MiddlewareBroker String S C}
    (there : w.node? n = some (.middleware broker)) (t : String) (s : S) (callback : C) :
    Relays codec name (w.withMiddleware n name (broker.subscribe id (w.hub name) t s callback))
      (x.request codec n (.subscribe t s callback)) := by
  have member := relays.middleware there
  have beside := x.beside_request codec n (.subscribe t s callback)
  refine relays.serve there (member.linked.subscribe t s callback) beside .nil ?closed ?registered
  case closed =>
    rw [MiddlewareBroker.closed_subscribe, member.closed, Exchange.request]
    split <;> rfl
  case registered =>
    intro other key
    have before := relays.registered n other key
    rw [subscribers_of_node? there, Node.subscribers] at before
    rw [Exchange.request]
    cases isOpen : x.isOpen n with
    | false =>
      have closed : broker.closed = true := by rw [member.closed, isOpen]; rfl
      rw [MiddlewareBroker.subscribe, if_pos closed]
      exact before
    | true =>
      have isOpen : broker.closed = false := by rw [member.closed, isOpen]; rfl
      rw [if_pos rfl, MiddlewareBroker.subscribers_subscribe id broker _ isOpen,
        Registry.get?_subscribe, Registry.get?_subscribe, before]
      simp only [Prod.mk.injEq, true_and]

theorem unsubscribe (relays : Relays codec name w x) {n : Nat} {broker : MiddlewareBroker String S C}
    (there : w.node? n = some (.middleware broker)) (t : String) (s : S) :
    Relays codec name (w.withMiddleware n name (broker.unsubscribe id (w.hub name) t s))
      (x.request codec n (.unsubscribe t s)) := by
  have member := relays.middleware there
  have beside := x.beside_request codec n (.unsubscribe t s)
  refine relays.serve there (member.linked.unsubscribe t s) beside .nil ?closed ?registered
  case closed => rw [MiddlewareBroker.closed_unsubscribe, member.closed]; rfl
  case registered =>
    intro other key
    have before := relays.registered n other key
    rw [subscribers_of_node? there, Node.subscribers] at before
    rw [Exchange.request, MiddlewareBroker.subscribers_unsubscribe, Registry.get?_unsubscribe,
      Registry.get?_unsubscribe, before]
    simp only [Prod.mk.injEq, true_and]

theorem publish (relays : Relays codec name w x)
    (faithful : ∀ message payload, codec.encode message = .ok payload →
      codec.decode payload = .ok message)
    {n : Nat} {broker : MiddlewareBroker String S C} (there : w.node? n = some (.middleware broker))
    (t : String) (message : M) :
    Relays codec name (w.withMiddleware n name (broker.publish id codec (w.hub name) t message))
      (x.request codec n (.publish t message)) := by
  have member := relays.middleware there
  have beside := x.beside_request codec n (.publish t message)
  have serves := member.linked.publish relays.accepting relays.alive codec t message
  refine relays.serve there serves beside ?carried ?closed ?registered
  case carried =>
    rw [MiddlewareBroker.frames, Exchange.sends, Exchange.publications, member.closed]
    cases x.isOpen n with
    | false => exact .nil
    | true =>
      cases encoded : codec.encode message with
      | error e => exact .nil
      | ok payload =>
        have decoded : (codec.decode payload).toOption = some message := by
          rw [faithful message payload encoded]
          rfl
        exact .cons ⟨payload, rfl, decoded⟩ .nil
  case closed => rw [MiddlewareBroker.closed_publish, member.closed]; rfl
  case registered =>
    intro other key
    have before := relays.registered n other key
    rw [subscribers_of_node? there, Node.subscribers] at before
    rw [MiddlewareBroker.subscribers_publish]
    exact before

theorem close (relays : Relays codec name w x) {n : Nat} {broker : MiddlewareBroker String S C}
    (there : w.node? n = some (.middleware broker)) :
    Relays codec name (w.withMiddleware n name (broker.close (w.hub name)).2)
      (x.request codec n .close) := by
  have member := relays.middleware there
  have beside := x.beside_request codec n .close
  have bound : n < x.nodes.length := relays.size ▸ (List.getElem?_eq_some_iff.mp there).1
  refine relays.serve there member.linked.close beside .nil ?closed ?registered
  case closed =>
    rw [MiddlewareBroker.closed_close, Exchange.request, Exchange.isOpen,
      List.getElem?_set_self bound]
    rfl
  case registered =>
    intro t s
    have bare : (broker.close (w.hub name)).2.1.subscribers t = ∅ := by
      by_cases closed : broker.closed = true
      · rw [MiddlewareBroker.close, if_pos closed, MiddlewareBroker.subscribers,
          member.linked.closed closed]
        rfl
      · rw [MiddlewareBroker.subscribers_close broker _ (Bool.not_eq_true _ ▸ closed)]
        rfl
    rw [bare, Exchange.request, Table.get?_filter]
    cases (x.registry t).get? (n, s) with
    | none => rfl
    | some callback =>
      rw [Option.filter_some, if_neg (by simp)]
      rfl

theorem missing (relays : Relays codec name w x) {n : Nat} (absent : w.node? n = none) :
    x.isOpen n = false ∧ ∀ t s, (x.registry t).get? (n, s) = none := by
  constructor
  · have beyond := List.getElem?_eq_none_iff.mp absent
    rw [relays.size] at beyond
    rw [Exchange.isOpen, List.getElem?_eq_none beyond]
    rfl
  · intro t s
    rw [relays.registered, Network.subscribers, absent]
    rfl

/-- Requests to a node that has not joined change nothing. -/
theorem request_missing (relays : Relays codec name w x) {n : Nat} (absent : w.node? n = none)
    (r : Request String S C M) : Relays codec name w (x.request codec n r) := by
  obtain ⟨shut, bare⟩ := relays.missing absent
  have beside := x.beside_request codec n r
  have unsent : x.sends codec n r = [] := by
    cases r with
    | publish t message => simp [Exchange.sends, Exchange.publications, shut]
    | subscribe t s callback => rfl
    | unsubscribe t s => rfl
    | close => rfl
  have still : (x.request codec n r).isOpen n = false := by
    rw [Exchange.isOpen]
    have beyond := List.getElem?_eq_none_iff.mp absent
    rw [relays.size, ← beside.size] at beyond
    rw [List.getElem?_eq_none beyond]
    rfl
  have none (t : String) (s : S) : ((x.request codec n r).registry t).get? (n, s) = none := by
    cases r with
    | publish u message => exact bare t s
    | subscribe u key callback =>
      rw [Exchange.request, shut]
      exact bare t s
    | unsubscribe u key =>
      rw [Exchange.request, Registry.get?_unsubscribe, bare]
      exact ite_self _
    | close =>
      rw [Exchange.request, Table.get?_filter, bare]
      rfl
  refine { relays with inFlight := ?_, size := ?_, member := ?_, registered := ?_ }
  · rw [beside.inFlight, unsent, List.append_nil]
    exact relays.inFlight
  · rw [beside.size, relays.size]
  · intro m node there
    have different : m ≠ n := by
      rintro rfl
      rw [absent] at there
      contradiction
    rw [beside.isOpen m different]
    exact relays.member m node there
  · intro m t s
    by_cases same : m = n
    · subst same
      rw [none, Network.subscribers, absent]
      rfl
    · rw [beside.registry m same]
      exact relays.registered m t s

/-- A request changes nodes and exchange alike, and the journal not at all. -/
theorem request (relays : Relays codec name w x)
    (faithful : ∀ message payload, codec.encode message = .ok payload →
      codec.decode payload = .ok message)
    (run : C → M → J → Outcome × J) (n : Nat) (r : Request String S C M) :
    Relays codec name (w.request ⟨id, codec⟩ (onJournal run) n r).2 (x.request codec n r) ∧
      (w.request ⟨id, codec⟩ (onJournal run) n r).2.journal = w.journal := by
  rw [Network.request]
  cases found : w.node? n with
  | none => exact ⟨relays.request_missing found r, rfl⟩
  | some node =>
    obtain ⟨broker, rfl, member⟩ := relays.member n node found
    dsimp only
    cases r with
    | subscribe t s callback =>
      simp only [requestMiddleware, member.hub]
      exact ⟨relays.subscribe found t s callback, rfl⟩
    | unsubscribe t s =>
      simp only [requestMiddleware, member.hub]
      exact ⟨relays.unsubscribe found t s, rfl⟩
    | publish t message =>
      simp only [requestMiddleware, member.hub]
      exact ⟨relays.publish faithful found t message, rfl⟩
    | close =>
      simp only [requestMiddleware, member.hub]
      exact ⟨relays.close found, rfl⟩

/-! ## Joining, and foreign frames -/

/-- A linked broker without subscribers may become the next node. -/
theorem join (relays : Relays codec name w x) (broker : MiddlewareBroker String S C)
    (member : Member name (w.hub name) w.nodes.length true broker)
    (fresh : ∀ n old, w.node? n = some (.middleware old) →
      old.link.connection.id ≠ broker.link.connection.id)
    (bare : broker.subscribers = .empty) :
    Relays codec name { w with nodes := w.nodes ++ [.middleware broker] }
      { x with nodes := x.nodes ++ [true] } := by
  have isOpen (n : Nat) : { x with nodes := x.nodes ++ [true] }.isOpen n =
      if n = w.nodes.length then true else x.isOpen n := by
    rw [Exchange.isOpen, Exchange.isOpen, List.getElem?_append, relays.size]
    split
    · next less => rw [if_neg (by omega)]
    · next beyond =>
      split
      · next last => simp [last]
      · next further =>
        rw [List.getElem?_eq_none (by simp; omega), List.getElem?_eq_none (by omega)]
  refine { relays with
    size := by simp [relays.size], member := ?member, distinct := ?distinct, routed := ?routed,
    registered := ?registered }
  case member =>
    intro n node there
    rw [node?_concat] at there
    rw [isOpen]
    split at there
    · next last =>
      cases there
      rw [if_pos last, last]
      exact ⟨broker, rfl, member⟩
    · next early =>
      rw [if_neg early]
      exact relays.member n node there
  case distinct =>
    intro n m first second at_n at_m shared
    rw [node?_concat] at at_n at_m
    split at at_n <;> split at at_m
    · omega
    · cases at_n
      exact absurd shared.symm (fresh m second at_m)
    · cases at_m
      exact absurd shared (fresh n first at_n)
    · exact relays.distinct n m first second at_n at_m shared
  case routed =>
    intro t connection handler found
    obtain ⟨n, old, there, same⟩ := relays.routed t connection handler found
    have early : n ≠ w.nodes.length := (List.getElem?_eq_some_iff.mp there).1.ne
    exact ⟨n, old, by rw [node?_concat, if_neg early, there], same⟩
  case registered =>
    intro n t s
    rw [relays.registered, Network.subscribers, Network.subscribers, node?_concat]
    split
    · next last =>
      have absent : w.node? n = none := List.getElem?_eq_none last.ge
      rw [absent, Option.map_some, Node.subscribers, bare]
      rfl
    · rfl

theorem connect (relays : Relays codec name w x) :
    Relays codec name (w.withHub name (w.hub name).connect.2) x :=
  relays.rehub (w.hub name).connect.2 rfl (Nat.le_succ _) rfl rfl relays.inFlight

omit [DecidableEq S] in
theorem connect_eq (w : Network String S C J) {uri : String}
    (leads : Connector.hubName uri = .ok name) :
    w.connector.connect uri = .ok (⟨name, (w.hub name).connections⟩,
      (w.withHub name (w.hub name).connect.2).connector) := by
  rw [Connector.connect, leads]
  rfl

/-- A node that connects gets a connection that no one has. -/
theorem addMiddleware (relays : Relays codec name w x) {uri : String}
    (leads : Connector.hubName uri = .ok name) (kind : ChannelKind) :
    ∃ joined, w.addMiddleware uri kind {} = .ok joined ∧
      Relays codec name joined { x with nodes := x.nodes ++ [true] } ∧ joined.journal = w.journal := by
  let broker : MiddlewareBroker String S C :=
    .new w.nodes.length uri kind ⟨⟨name, (w.hub name).connections⟩, {}⟩
  -- Every route belongs to a node, and nodes have connections that were opened before.
  have unrouted (t : String) : (w.hub name).route? t (w.hub name).connections = none := by
    refine Option.eq_none_iff_forall_ne_some.mpr fun handler found => ?_
    obtain ⟨n, old, there, same⟩ := relays.routed t _ handler found
    exact absurd same (relays.middleware there).linked.known.ne
  refine ⟨_, ?added, relays.connect.join broker ?member ?fresh rfl, ?journal⟩
  case added =>
    rw [Network.addMiddleware, connect_eq w leads]
    rfl
  case journal => rfl
  case member =>
    rw [hub_withHub]
    have fresh (t : String) : (w.hub name).connect.2.route? t (w.hub name).connections = none :=
      (Hub.route?_of_routes rfl t _).trans (unrouted t)
    have linked : broker.Linked (w.hub name).connect.2 w.nodes.length :=
      MiddlewareBroker.linked_new _ uri kind (Nat.lt_succ_self _) fresh
    exact ⟨linked, rfl, rfl⟩
  case fresh =>
    intro n old there
    exact (relays.middleware there).linked.known.ne

/-- A frame of another connection is under way with what it says. -/
theorem sendRaw (relays : Relays codec name w x) {uri : String}
    (leads : Connector.hubName uri = .ok name) (t : String) (payload : ByteArray) :
    Relays codec name (w.sendRaw uri t payload).2
        { x with inFlight := x.inFlight ++ [(t, (codec.decode payload).toOption)] } ∧
      (w.sendRaw uri t payload).2.journal = w.journal := by
  have carried : List.Forall₂ (Carries codec) ((w.hub name).queue ++ [.message t payload])
      (x.inFlight ++ [(t, (codec.decode payload).toOption)]) :=
    List.rel_append relays.inFlight (.cons ⟨payload, rfl, rfl⟩ .nil)
  have accepted : (w.hub name).connect.2.publish t payload = .ok { (w.hub name).connect.2 with
      queue := (w.hub name).queue ++ [.message t payload] } := by
    rw [Hub.publish, Hub.send]
    simp only [Hub.connect, relays.accepting, relays.alive, Bool.and_self, ↓reduceIte]
  have sent : w.sendRaw uri t payload = (.ok (), (w.withHub name (w.hub name).connect.2).withHub name
      { (w.hub name).connect.2 with queue := (w.hub name).queue ++ [.message t payload] }) := by
    have there : { w with connector := (w.withHub name (w.hub name).connect.2).connector }.hub name =
        (w.hub name).connect.2 := hub_withHub w name _
    rw [Network.sendRaw, connect_eq w leads]
    dsimp only
    rw [there, accepted]
    rfl
  rw [sent]
  have connected := hub_withHub w name (w.hub name).connect.2
  exact ⟨relays.connect.rehub _ (by rw [connected]) (by rw [connected]) (by rw [connected])
    (by rw [connected]) carried, rfl⟩

end Relays

end Network

end Vicinity

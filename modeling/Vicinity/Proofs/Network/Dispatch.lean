import Vicinity.Proofs.Network.Relay

/-! # Dispatching is a publication on the exchange

A frame is handed to one handler after another. Since callbacks act on the journal alone, a handler
changes no more of the network than counters, and every handler meets the subscribers that were there
when the step began. Nodes that relay an exchange have one handler for each node with subscribers of
the topic, so the callbacks of the step are those of the exchange's registry, each called once.
-/

namespace Vicinity

variable {T S C J M : Type}

namespace Network

/-! ## What a frame does to nodes -/

/-- Two networks are the same but for the journal and the counters of middleware nodes. -/
structure Recounts (before after : Network T S C J) : Prop where
  connector : after.connector = before.connector
  size : after.nodes.length = before.nodes.length
  middleware : ∀ n broker, before.node? n = some (.middleware broker) →
    ∃ metrics, after.node? n = some (.middleware { broker with metrics })

theorem recounts_refl (w : Network T S C J) : w.Recounts w :=
  ⟨rfl, rfl, fun _ broker there => ⟨broker.metrics, there⟩⟩

theorem Recounts.trans {w v u : Network T S C J} (first : w.Recounts v) (second : v.Recounts u) :
    w.Recounts u where
  connector := second.connector.trans first.connector
  size := second.size.trans first.size
  middleware n broker there := by
    obtain ⟨_, between⟩ := first.middleware n broker there
    obtain ⟨metrics, found⟩ := second.middleware n _ between
    exact ⟨metrics, found⟩

variable [DecidableEq T]

theorem Recounts.subscribers [Hashable T] {before after : Network T S C J}
    (recounts : before.Recounts after) {n : Nat} {broker : MiddlewareBroker T S C}
    (there : before.node? n = some (.middleware broker)) (t : T) :
    after.subscribers n t = before.subscribers n t := by
  obtain ⟨metrics, found⟩ := recounts.middleware n broker there
  rw [subscribers_of_node? there, subscribers_of_node? found]
  rfl

/-- A frame that a node can decode calls the subscribers of the topic there, and is counted. -/
theorem receive_decoded [Hashable T] {wire : Wire T M} {payload : ByteArray} {message : M}
    (decoded : wire.codec.decode payload = .ok message) (run : C → M → J → Outcome × J)
    {w : Network T S C J} {inbound : Inbound T} {broker : MiddlewareBroker T S C}
    (there : w.node? inbound.node = some (.middleware broker)) :
    w.Recounts (w.receive wire (onJournal run) payload inbound) ∧
      (w.receive wire (onJournal run) payload inbound).journal =
        runAll (fun callback => run callback message)
          (w.subscribers inbound.node inbound.topic).values w.journal := by
  rw [subscribers_of_node? there, Node.subscribers]
  simp only [receive, decoded, there]
  cases found : broker.routes.get? inbound.topic with
  | none =>
    rw [MiddlewareBroker.subscribers_of_none found]
    exact ⟨w.recounts_refl, rfl⟩
  | some route =>
    dsimp only
    rw [MiddlewareBroker.subscribers_of_some found, publish_onJournal, ← deliverAll_snd]
    generalize deliverAll (fun callback => run callback message)
      route.channel.subscribers.values w.journal = delivery
    have kept : (w.withJournal delivery.2).node? inbound.node = some (.middleware broker) := there
    simp only [Prod.map, recordDelivery, kept]
    refine ⟨⟨rfl, List.length_set, fun n other at_n => ?_⟩, rfl⟩
    by_cases same : n = inbound.node
    · subst same
      rw [there] at at_n
      cases at_n
      exact ⟨_, node?_withNode kept _⟩
    · exact ⟨other.metrics, (node?_withNode_of_ne _ same _).trans at_n⟩

theorem receive_undecodable {wire : Wire T M} {payload : ByteArray} {e : CodecError}
    (undecodable : wire.codec.decode payload = .error e) (call : Call T S C J M)
    (w : Network T S C J) (inbound : Inbound T) :
    w.receive wire call payload inbound = w := by
  simp only [receive, undecodable]

/-- Handlers of middleware nodes receive a frame one after another, and none sees more of the others
than the journal. -/
theorem foldl_receive_decoded [Hashable T] {wire : Wire T M} {payload : ByteArray} {message : M}
    (decoded : wire.codec.decode payload = .ok message) (run : C → M → J → Outcome × J)
    (handlers : List (Inbound T)) (w : Network T S C J)
    (lead : ∀ inbound ∈ handlers, ∃ broker, w.node? inbound.node = some (.middleware broker)) :
    w.Recounts (handlers.foldl (receive wire (onJournal run) payload) w) ∧
      (handlers.foldl (receive wire (onJournal run) payload) w).journal =
        runAll (fun callback => run callback message)
          (handlers.flatMap fun inbound => (w.subscribers inbound.node inbound.topic).values)
          w.journal := by
  induction handlers generalizing w with
  | nil => exact ⟨w.recounts_refl, rfl⟩
  | cons inbound rest ih =>
    obtain ⟨broker, there⟩ := lead inbound (List.mem_cons_self ..)
    obtain ⟨recounts, journal⟩ := receive_decoded decoded run there
    -- The rest meet the nodes and the subscribers that the first one met.
    have later (other : Inbound T) (member : other ∈ rest) : ∃ broker,
        (w.receive wire (onJournal run) payload inbound).node? other.node =
          some (.middleware broker) := by
      obtain ⟨old, found⟩ := lead other (List.mem_cons_of_mem _ member)
      obtain ⟨metrics, kept⟩ := recounts.middleware _ old found
      exact ⟨_, kept⟩
    have still (other : Inbound T) (member : other ∈ rest) :
        ((w.receive wire (onJournal run) payload inbound).subscribers other.node other.topic).values =
          (w.subscribers other.node other.topic).values := by
      obtain ⟨old, found⟩ := lead other (List.mem_cons_of_mem _ member)
      rw [recounts.subscribers found]
    obtain ⟨further, finish⟩ := ih _ later
    refine ⟨recounts.trans further, ?_⟩
    rw [List.foldl_cons, finish, journal, List.flatMap_cons, runAll_append,
      List.flatMap_congr still]

/-! ## What a step does to an exchange -/

variable [DecidableEq S] {codec : Codec M} {name : String} {w : Network String S C J}
  {x : Exchange S C M}

/-- Counting is no concern of the exchange. -/
theorem Relays.recount (relays : Relays codec name w x) {after : Network String S C J}
    (recounts : w.Recounts after) : Relays codec name after x := by
  have hub : after.hub name = w.hub name := by rw [Network.hub, Network.hub, recounts.connector]
  have back {n : Nat} {node : Node String S C} (there : after.node? n = some node) :
      ∃ broker metrics, w.node? n = some (.middleware broker) ∧
        node = .middleware { broker with metrics } := by
    have bound := (List.getElem?_eq_some_iff.mp there).1
    rw [recounts.size] at bound
    obtain ⟨broker, same, _⟩ := relays.member n _ (List.getElem?_eq_getElem bound)
    have found : w.node? n = some (.middleware broker) :=
      (List.getElem?_eq_getElem bound).trans (congrArg some same)
    obtain ⟨metrics, kept⟩ := recounts.middleware n broker found
    rw [kept] at there
    exact ⟨broker, metrics, found, (Option.some.inj there).symm⟩
  refine ⟨?accepting, ?alive, ?inFlight, ?size, ?member, ?distinct, ?routed, ?registered⟩
  case accepting => rw [hub, relays.accepting]
  case alive => rw [hub, relays.alive]
  case inFlight => rw [hub]; exact relays.inFlight
  case size => rw [recounts.size, relays.size]
  case member =>
    intro n node there
    obtain ⟨broker, metrics, found, rfl⟩ := back there
    have member := relays.middleware found
    rw [hub]
    exact ⟨_, rfl, member.linked.recount metrics, member.hub, member.closed⟩
  case distinct =>
    intro n m first second at_n at_m shared
    obtain ⟨oldN, metricsN, foundN, sameN⟩ := back at_n
    obtain ⟨oldM, metricsM, foundM, sameM⟩ := back at_m
    cases sameN
    cases sameM
    exact relays.distinct n m oldN oldM foundN foundM shared
  case routed =>
    intro t connection handler found
    rw [hub] at found
    obtain ⟨n, broker, there, same⟩ := relays.routed t connection handler found
    obtain ⟨metrics, kept⟩ := recounts.middleware n broker there
    exact ⟨n, _, kept, same⟩
  case registered =>
    intro n t s
    rw [relays.registered]
    cases found : w.node? n with
    | none =>
      have beyond := List.getElem?_eq_none_iff.mp found
      rw [← recounts.size] at beyond
      have absent : after.node? n = none := List.getElem?_eq_none beyond
      rw [Network.subscribers, Network.subscribers, found, absent]
    | some node =>
      obtain ⟨broker, rfl, _⟩ := relays.member n node found
      rw [recounts.subscribers found]

/-- A route belongs to a node, and leads to that node and topic. -/
theorem Relays.exists_node_of_route? (relays : Relays codec name w x) {t : String} {connection : Nat}
    {inbound : Inbound String} (found : (w.hub name).route? t connection = some inbound) :
    ∃ n broker, w.node? n = some (.middleware broker) ∧ broker.link.connection.id = connection ∧
      inbound = ⟨n, t⟩ := by
  obtain ⟨n, broker, there, rfl⟩ := relays.routed t connection inbound found
  exact ⟨n, broker, there, rfl, (relays.middleware there).linked.own t inbound found⟩

/-- The calls that a frame of a topic leads to, for each of its handlers. -/
def calls (w : Network String S C J) (handlers : List (Inbound String)) : List ((Nat × S) × C) :=
  handlers.flatMap fun inbound =>
    (w.subscribers inbound.node inbound.topic).entries.map fun entry =>
      ((inbound.node, entry.1), entry.2)

omit [DecidableEq S] in
theorem calls_snd (w : Network String S C J) (handlers : List (Inbound String)) :
    (w.calls handlers).map Prod.snd =
      handlers.flatMap fun inbound => (w.subscribers inbound.node inbound.topic).values := by
  simp only [calls, List.map_flatMap, List.map_map]
  rfl

theorem mem_calls_iff (w : Network String S C J) (handlers : List (Inbound String)) (n : Nat) (s : S)
    (callback : C) :
    ((n, s), callback) ∈ w.calls handlers ↔
      ∃ t, ⟨n, t⟩ ∈ handlers ∧ (w.subscribers n t).get? s = some callback := by
  simp only [calls, List.mem_flatMap, List.mem_map, Prod.mk.injEq]
  constructor
  · rintro ⟨⟨n, t⟩, member, ⟨key, found⟩, there, ⟨rfl, rfl⟩, rfl⟩
    exact ⟨t, member, (Table.mem_entries_iff _ _ _).mp there⟩
  · rintro ⟨t, member, found⟩
    exact ⟨⟨n, t⟩, member, (s, callback), (Table.mem_entries_iff _ _ _).mpr found, ⟨rfl, rfl⟩, rfl⟩

/-- No node has two handlers for a topic. -/
theorem Relays.pairwise_handlersFor (relays : Relays codec name w x) (t : String) :
    ((w.hub name).handlersFor t).Pairwise fun first second => first.node ≠ second.node := by
  -- Handlers stand under different connections, and a node has one connection only.
  have listeners := List.pairwise_map.mp ((w.hub name).listeners t).nodup
  rw [Hub.handlersFor_eq, Table.values, List.pairwise_map]
  refine listeners.imp_of_mem ?_
  rintro ⟨c, inbound⟩ ⟨d, other⟩ first second different same
  obtain ⟨n, broker, there, rfl, rfl⟩ :=
    relays.exists_node_of_route? ((Table.mem_entries_iff _ _ _).mp first)
  obtain ⟨m, old, found, rfl, rfl⟩ :=
    relays.exists_node_of_route? ((Table.mem_entries_iff _ _ _).mp second)
  obtain rfl : n = m := same
  rw [there] at found
  cases found
  exact different rfl

theorem Relays.route_of_subscriber (relays : Relays codec name w x) {n : Nat} {t : String} {s : S}
    {callback : C} (found : (w.subscribers n t).get? s = some callback) :
    ∃ broker route, w.node? n = some (.middleware broker) ∧ broker.routes.get? t = some route := by
  rw [Network.subscribers] at found
  cases there : w.node? n with
  | none =>
    rw [there] at found
    contradiction
  | some node =>
    obtain ⟨broker, rfl, _⟩ := relays.member n node there
    rw [there, Option.map_some, Option.getD_some, Node.subscribers] at found
    cases routed : broker.routes.get? t with
    | none =>
      rw [MiddlewareBroker.subscribers_of_none routed] at found
      contradiction
    | some route => exact ⟨broker, route, rfl, routed⟩

/-- The handlers for a topic lead to the nodes that have subscribers of it. -/
theorem Relays.mem_handlersFor (relays : Relays codec name w x) {n : Nat} {t : String} {s : S}
    {callback : C} (found : (w.subscribers n t).get? s = some callback) :
    ⟨n, t⟩ ∈ (w.hub name).handlersFor t := by
  obtain ⟨broker, route, there, routed⟩ := relays.route_of_subscriber found
  rw [Hub.handlersFor_eq, Table.mem_values_iff]
  exact ⟨_, ((relays.middleware there).linked.attached t route routed).2⟩

/-- The calls for a topic's handlers are those of the topic's entries in the registry. -/
theorem Relays.calls_perm (relays : Relays codec name w x) (t : String) :
    (w.calls ((w.hub name).handlersFor t)).Perm (x.registry t).entries := by
  have distinct : (w.calls ((w.hub name).handlersFor t)).Nodup := by
    refine List.nodup_flatMap.mpr ⟨fun inbound _ => ?_, ?_⟩
    · refine (List.Nodup.of_map Prod.fst (w.subscribers inbound.node inbound.topic).nodup).map ?_
      rintro ⟨s, first⟩ ⟨k, second⟩ same
      cases same
      rfl
    · refine (relays.pairwise_handlersFor t).imp fun different => ?_
      rintro call first second
      obtain ⟨_, _, rfl⟩ := List.mem_map.mp first
      obtain ⟨_, _, same⟩ := List.mem_map.mp second
      exact different (congrArg (·.1.1) same).symm
  refine (List.perm_ext_iff_of_nodup distinct (.of_map Prod.fst (x.registry t).nodup)).mpr ?_
  rintro ⟨⟨n, s⟩, callback⟩
  rw [mem_calls_iff, Table.mem_entries_iff, relays.registered]
  constructor
  · rintro ⟨u, member, found⟩
    rw [Hub.handlersFor_eq, Table.mem_values_iff] at member
    obtain ⟨connection, routed⟩ := member
    obtain ⟨_, _, _, _, same⟩ := relays.exists_node_of_route? routed
    cases same
    exact found
  · intro found
    exact ⟨t, relays.mem_handlersFor found, found⟩

omit [DecidableEq S] in
theorem dispatch_nil {wire : Wire String M} {call : Call String S C J M} {w : Network String S C J}
    {name : String} (queued : (w.hub name).queue = []) : w.dispatch wire call name = w := by
  simp only [dispatch, Hub.next?, queued]

omit [DecidableEq S] in
theorem dispatch_message {wire : Wire String M} {call : Call String S C J M}
    {w : Network String S C J} {name t : String} {payload : ByteArray} {rest : List HubEntry}
    (queued : (w.hub name).queue = .message t payload :: rest) :
    w.dispatch wire call name =
      ((w.hub name).handlersFor t).foldl (receive wire call payload)
        (w.withHub name { w.hub name with queue := rest }) := by
  simp only [dispatch, Hub.next?, queued]
  rfl

/-- A step of the dispatcher is a publication on the exchange of the message whose turn it is. -/
theorem Relays.dispatch (relays : Relays codec name w x) (run : C → M → J → Outcome × J) :
    Relays codec name (w.dispatch ⟨id, codec⟩ (onJournal run) name)
        { x with inFlight := x.inFlight.tail } ∧
      match x.inFlight with
      | [] => w.dispatch ⟨id, codec⟩ (onJournal run) name = w
      | (_, none) :: _ =>
        (w.dispatch ⟨id, codec⟩ (onJournal run) name).nodes = w.nodes ∧
          (w.dispatch ⟨id, codec⟩ (onJournal run) name).journal = w.journal
      | (t, some message) :: _ =>
        ∃ calls : List ((Nat × S) × C), calls.Perm (x.registry t).entries ∧
          (w.dispatch ⟨id, codec⟩ (onJournal run) name).journal =
            runAll (fun call => run call.2 message) calls w.journal := by
  have flight := relays.inFlight
  cases inFlight : x.inFlight with
  | nil =>
    rw [inFlight, List.forall₂_nil_right_iff] at flight
    have same : { x with inFlight := [].tail } = x := by rw [List.tail_nil, ← inFlight]
    rw [dispatch_nil flight, same]
    exact ⟨relays, rfl⟩
  | cons head later =>
    rw [inFlight, List.forall₂_cons_right_iff] at flight
    obtain ⟨_, rest, ⟨payload, rfl, carried⟩, onward, queued⟩ := flight
    obtain ⟨t, content⟩ := head
    have taken := relays.rehub { w.hub name with queue := rest } rfl le_rfl rfl rfl onward
    rw [dispatch_message queued, List.tail_cons]
    cases decoded : codec.decode payload with
    | error e =>
      rw [decoded] at carried
      obtain rfl : none = content := carried
      rw [List.foldl_fixed' (receive_undecodable decoded _ _)]
      exact ⟨taken, rfl, rfl⟩
    | ok message =>
      have wired : (⟨id, codec⟩ : Wire String M).codec.decode payload = .ok message := decoded
      rw [decoded] at carried
      obtain rfl : some message = content := carried
      have lead : ∀ inbound ∈ (w.hub name).handlersFor t, ∃ broker,
          (w.withHub name { w.hub name with queue := rest }).node? inbound.node =
            some (.middleware broker) := by
        intro inbound member
        rw [Hub.handlersFor_eq, Table.mem_values_iff] at member
        obtain ⟨connection, routed⟩ := member
        obtain ⟨n, broker, there, _, rfl⟩ := relays.exists_node_of_route? routed
        exact ⟨broker, there⟩
      obtain ⟨recounts, journal⟩ := foldl_receive_decoded wired run _ _ lead
      refine ⟨taken.recount recounts, _, relays.calls_perm t, journal.trans ?_⟩
      have called := runAll_map (fun callback => run callback message) Prod.snd
        (w.calls ((w.hub name).handlersFor t)) w.journal
      rw [calls_snd] at called
      exact called

/-! ## Runs -/

/-- Every event keeps nodes and exchange together. -/
theorem Relays.step (relays : Relays codec name w x)
    (faithful : ∀ message payload, codec.encode message = .ok payload →
      codec.decode payload = .ok message)
    {uri : String} (leads : Connector.hubName uri = .ok name) (run : C → M → J → Outcome × J)
    (event : HubEvent S C M) :
    Relays codec name (w.step codec run uri name event) (x.step codec event) ∧
      (event ≠ .dispatch → (w.step codec run uri name event).journal = w.journal) := by
  cases event with
  | join kind =>
    obtain ⟨joined, added, next, same⟩ := relays.addMiddleware leads kind
    rw [Network.step, added]
    exact ⟨next, fun _ => same⟩
  | request n r =>
    obtain ⟨next, same⟩ := relays.request faithful run n r
    exact ⟨next, fun _ => same⟩
  | frame t payload =>
    obtain ⟨next, same⟩ := relays.sendRaw leads t payload
    exact ⟨next, fun _ => same⟩
  | dispatch => exact ⟨(relays.dispatch run).1, fun other => absurd rfl other⟩

theorem relays_run (codec : Codec M)
    (faithful : ∀ message payload, codec.encode message = .ok payload →
      codec.decode payload = .ok message)
    {uri name : String} (leads : Connector.hubName uri = .ok name) (run : C → M → J → Outcome × J)
    (journal : J) (events : List (HubEvent S C M)) :
    Relays codec name (events.foldl (Network.step codec run uri name) (new journal))
      (events.foldl (Exchange.step codec) .new) := by
  induction events using List.reverseRecOn with
  | nil => exact relays_new codec name journal
  | append_singleton events last ih =>
    rw [List.foldl_append, List.foldl_append]
    exact (ih.step faithful leads run last).1

theorem Relays.isOpen_iff (relays : Relays codec name w x) (n : Nat) :
    x.isOpen n = true ↔
      ∃ broker, w.node? n = some (.middleware broker) ∧ broker.closed = false := by
  cases found : w.node? n with
  | none => simp [(relays.missing found).1]
  | some node =>
    obtain ⟨broker, rfl, member⟩ := relays.member n node found
    simp [member.closed]

/-- Whoever is registered is registered at an open node. -/
theorem Relays.isOpen_of_registered (relays : Relays codec name w x) {t : String} {n : Nat} {s : S}
    {callback : C} (registered : (x.registry t).get? (n, s) = some callback) :
    x.isOpen n = true := by
  rw [relays.registered] at registered
  obtain ⟨broker, route, there, routed⟩ := relays.route_of_subscriber registered
  exact (relays.isOpen_iff n).mpr ⟨broker, there, (relays.middleware there).linked.isOpen routed⟩

/-- Middleware nodes on one hub, after any run of what may happen around it, show the registrations of
one exchange, which are those of open nodes. A frame calls someone only when its turn comes: then it
calls the callbacks that are registered for its topic at that moment, each once and with the message
the frame says. A frame that says nothing leaves every node as it is. -/
theorem dispatch_calls_registered (codec : Codec M)
    (faithful : ∀ message payload, codec.encode message = .ok payload →
      codec.decode payload = .ok message)
    {uri name : String} (leads : Connector.hubName uri = .ok name) (run : C → M → J → Outcome × J)
    (journal : J) (events : List (HubEvent S C M)) :
    let w := events.foldl (step codec run uri name) (new journal)
    let x := events.foldl (Exchange.step codec) .new
    let after := w.step codec run uri name .dispatch
    (∀ n t s, (w.subscribers n t).get? s = (x.registry t).get? (n, s)) ∧
    (∀ n, x.isOpen n = true ↔
      ∃ broker, w.node? n = some (.middleware broker) ∧ broker.closed = false) ∧
    (∀ t n s callback, (x.registry t).get? (n, s) = some callback → x.isOpen n = true) ∧
    (∀ event, event ≠ .dispatch → (w.step codec run uri name event).journal = w.journal) ∧
    match x.inFlight with
    | [] => after = w
    | (_, none) :: _ => after.nodes = w.nodes ∧ after.journal = w.journal
    | (t, some message) :: _ =>
      ∃ calls : List ((Nat × S) × C), calls.Perm (x.registry t).entries ∧
        after.journal = runAll (fun call => run call.2 message) calls w.journal := by
  intro w x after
  have relays : Relays codec name w x := relays_run codec faithful leads run journal events
  refine ⟨fun n t s => (relays.registered n t s).symm, relays.isOpen_iff,
    fun t n s callback => relays.isOpen_of_registered, fun event other => ?_,
    (relays.dispatch run).2⟩
  exact (relays.step faithful leads run event).2 other

/-- A message of one byte is a frame of one byte. -/
def byteCodec : Codec UInt8 where
  encode message := .ok ⟨#[message]⟩
  decode payload :=
    match payload.data with
    | #[message] => .ok message
    | _ => .error (.malformed "not one byte")

/-- Two nodes have subscribers, and the node that publishes closes before the frame's turn comes: the
subscriber of the other is called, and no one else. -/
theorem dispatch_calls_registered_bytes :
    Connector.hubName "loopback://town" = .ok "town" ∧
    (∀ message payload, byteCodec.encode message = .ok payload →
      byteCodec.decode payload = .ok message) ∧
    let run := fun (callback : Nat) (message : UInt8) (journal : List (Nat × UInt8)) =>
      (Outcome.returned, journal ++ [(callback, message)])
    let events : List (HubEvent Nat Nat UInt8) :=
      [.join .concurrent, .join .snapshot, .request 0 (.subscribe "news" 1 10),
        .request 1 (.subscribe "news" 1 20), .request 0 (.publish "news" 5), .request 0 .close]
    let w := events.foldl (step byteCodec run "loopback://town" "town") (new [])
    (w.step byteCodec run "loopback://town" "town" .dispatch).journal = [(20, 5)] := by
  have leads : Connector.hubName "loopback://town" = .ok "town" := rfl
  have faithful : ∀ message payload, byteCodec.encode message = .ok payload →
      byteCodec.decode payload = .ok message := by
    rintro message _ ⟨rfl⟩
    rfl
  refine ⟨leads, faithful, ?_⟩
  intro run events w
  obtain ⟨_, _, _, _, calls, registered, journal⟩ :=
    dispatch_calls_registered byteCodec faithful leads run [] events
  have alone : calls.Perm [((1, 1), 20)] := registered
  rw [List.perm_singleton.mp alone] at journal
  exact journal

end Network

end Vicinity

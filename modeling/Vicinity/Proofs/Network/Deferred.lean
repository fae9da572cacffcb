import Mathlib.Algebra.Order.BigOperators.Group.List
import Vicinity.Proofs.Broker.Deferred
import Vicinity.Proofs.Network.InProcess
import Vicinity.Proofs.Network.Relay

/-! # A single node and its hub

A middleware node that is alone in its network defers what an in-process node would deliver at once.
`Defers` relates it to a plain broker and to what is pending at the hub: requests add to what is
pending, the dispatcher delivers it in order, and a flush delivers all of it. Other connections may
listen to the same hub, but nothing is sent through them, and no other hub has anything queued.
-/

namespace Vicinity

variable {T S C J M : Type}

namespace Network

/-! ## Receiving -/

/-- A frame for a topic that the node has is delivered to its subscribers, and counted. -/
theorem receive_eq [DecidableEq T] {wire : Wire T M} {payload : ByteArray} {message : M}
    (decoded : wire.codec.decode payload = .ok message) (run : C → M → J → Outcome × J)
    {w : Network T S C J} {n : Nat} {broker : MiddlewareBroker T S C}
    (there : w.node? n = some (.middleware broker)) {t : T} {route : Route S C}
    (found : broker.routes.get? t = some route) :
    w.receive wire (onJournal run) payload ⟨n, t⟩ =
      let delivery := deliverAll (fun callback => run callback message)
        (broker.subscribers t).values w.journal
      (w.withJournal delivery.2).withNode n
        (.middleware { broker with metrics := broker.metrics.recordDelivery delivery.1 }) := by
  simp only [receive, decoded, there, found, publish_onJournal,
    MiddlewareBroker.subscribers_of_some found]
  generalize deliverAll (fun callback => run callback message)
    route.channel.subscribers.values w.journal = delivery
  have kept : (w.withJournal delivery.2).node? n = some (.middleware broker) := there
  simp only [Prod.map, id_eq, recordDelivery, kept]

theorem foldl_receive_missing [DecidableEq T] (wire : Wire T M) (call : Call T S C J M)
    (payload : ByteArray) {w : Network T S C J} {handlers : List (Inbound T)}
    (missing : ∀ inbound ∈ handlers, w.node? inbound.node = none) :
    handlers.foldl (receive wire call payload) w = w := by
  induction handlers with
  | nil => rfl
  | cons inbound rest ih =>
    have first : w.receive wire call payload inbound = w := by
      have absent := missing inbound (List.mem_cons_self ..)
      rw [receive, absent]
      split <;> trivial
    rw [List.foldl_cons, first]
    exact ih fun other member => missing other (List.mem_cons_of_mem _ member)

/-! ## A node behind a plain broker -/

/-- The only node of a network is a broker that owes a plain broker what is pending at its hub, and
the journal is that of the plain broker. -/
structure Defers (codec : Codec M) (name : String) (w : Network String S C J)
    (state : PlainBroker String S C × J) (pending : List (Pending M)) : Prop where
  node : ∃ broker, w.nodes = [.middleware broker] ∧ broker.link.connection.hub = name ∧
    broker.Owes codec (w.hub name) state.1 pending
  idle : ∀ other hub, w.connector.hub? other = some hub → other ≠ name → hub.queue = []
  journal : w.journal = state.2

/-- A network that has no nodes yet: others may have used its hubs, but nothing is queued at any of
them. The hub of that name is in order, and its connections lead to nodes other than the first. -/
structure Quiet (name : String) (w : Network String S C J) : Prop where
  empty : w.nodes = []
  idle : ∀ other hub, w.connector.hub? other = some hub → hub.queue = []
  accepting : (w.hub name).accepting = true
  alive : (w.hub name).alive = true
  known : ∀ t connection handler, (w.hub name).route? t connection = some handler →
    connection < (w.hub name).connections
  others : ∀ t connection handler, (w.hub name).route? t connection = some handler →
    handler.node ≠ 0

/-- A new network is quiet. -/
theorem quiet_new (name : String) (journal : J) : (new journal : Network String S C J).Quiet name where
  empty := rfl
  idle _ _ found := by contradiction
  accepting := rfl
  alive := rfl
  known _ _ _ found := by contradiction
  others _ _ _ found := by contradiction

/-- What has come to one hub leaves the others idle. -/
theorem idle_withHub {w : Network T S C J} {name : String}
    (idle : ∀ other hub, w.connector.hub? other = some hub → other ≠ name → hub.queue = [])
    (next : Hub (Inbound T)) (other : String) (hub : Hub (Inbound T))
    (found : (w.withHub name next).connector.hub? other = some hub) (different : other ≠ name) :
    hub.queue = [] := by
  rw [hub?_withHub, if_neg different] at found
  exact idle other hub found different

/-- A node that connects to a quiet network defers nothing. -/
theorem Quiet.defers {name : String} {w : Network String S C J} (quiet : w.Quiet name)
    (codec : Codec M) {uri : String} (leads : Connector.hubName uri = .ok name) (kind : ChannelKind) :
    ∃ joined, w.addMiddleware uri kind {} = .ok joined ∧
      joined.Defers codec name (.new, w.journal) [] := by
  have fresh (t : String) : (w.hub name).route? t (w.hub name).connections = none := by
    refine Option.eq_none_iff_forall_ne_some.mpr fun handler found => ?_
    exact absurd (quiet.known t _ handler found) (Nat.lt_irrefl _)
  have start : (w.hub name).queue = [] := by
    rw [Network.hub]
    cases found : w.connector.hub? name with
    | none => rfl
    | some hub => exact quiet.idle name hub found
  let broker : MiddlewareBroker String S C :=
    .new 0 uri kind ⟨⟨name, (w.hub name).connections⟩, {}⟩
  refine ⟨{ w.withHub name (w.hub name).connect.2 with nodes := [.middleware broker] }, ?_, ?_⟩
  · rw [addMiddleware, Relays.connect_eq w leads, quiet.empty]
    rfl
  · refine ⟨⟨broker, rfl, rfl, ?_⟩, ?_, rfl⟩
    · have there : (w.withHub name (w.hub name).connect.2).hub name = (w.hub name).connect.2 :=
        hub_withHub w name _
      have owes : broker.Owes codec (w.hub name).connect.2 .new [] :=
        MiddlewareBroker.owes_new codec uri kind ⟨name, (w.hub name).connections⟩
          (Nat.lt_succ_self _) quiet.accepting quiet.alive start fresh quiet.others
      rw [← there] at owes
      exact owes
    · exact fun other hub found different =>
        idle_withHub (fun other hub found _ => quiet.idle other hub found) _ other hub found different

namespace Defers

variable [DecidableEq S] {codec : Codec M} {name : String} {w : Network String S C J}
  {state : PlainBroker String S C × J} {pending : List (Pending M)}

/-- A request is served at once but for the delivery, which is left pending. -/
theorem request [Hashable String] (defers : w.Defers codec name state pending)
    (faithful : ∀ message, ∃ payload, codec.encode message = .ok payload ∧
      codec.decode payload = .ok message)
    (call : Call String S C J M) {r : Request String S C M} (stays : r ≠ .close) :
    (w.request ⟨id, codec⟩ call 0 r).2.Defers codec name
      ({ state.1 with registry := state.1.registry.serve r }, state.2)
      (pending ++ Pending.ofRequest r) := by
  obtain ⟨⟨broker, only, joined, owes⟩, idle, journal⟩ := defers
  have there : w.node? 0 = some (.middleware broker) := by rw [node?, only]; rfl
  have served : (w.request ⟨id, codec⟩ call 0 r).2 =
      w.withMiddleware 0 name (broker.serve id codec (w.hub name) r) := by
    rw [Network.request, there]
    dsimp only
    cases r <;> (rw [requestMiddleware, joined]; rfl)
  rw [served]
  have kept := MiddlewareBroker.connection_serve owes.attached.isOpen id codec (w.hub name) stays
  have alone : (w.withMiddleware 0 name (broker.serve id codec (w.hub name) r)).nodes =
      [.middleware (broker.serve id codec (w.hub name) r).1] := by
    rw [withMiddleware, withHub, withNode, only]
    rfl
  refine ⟨⟨_, alone, ?_, ?_⟩, idle_withHub idle _, journal⟩
  · rw [kept, joined]
  · rw [withMiddleware, hub_withHub]
    exact owes.serve faithful stays

/-- Requests that publish nothing are served at once. -/
theorem requestAll_quietly [Hashable String] (defers : w.Defers codec name state [])
    (faithful : ∀ message, ∃ payload, codec.encode message = .ok payload ∧
      codec.decode payload = .ok message)
    (run : C → M → J → Outcome × J) {requests : List (Request String S C M)}
    (stay : ∀ r ∈ requests, r ≠ .close) (silent : ∀ r ∈ requests, Pending.ofRequest r = []) :
    (w.requestAll ⟨id, codec⟩ (onJournal run) 0 requests).Defers codec name
      (PlainBroker.serveAll run state requests) [] := by
  induction requests generalizing w state with
  | nil => exact defers
  | cons r rest ih =>
    have first := defers.request faithful (onJournal run) (stay r (List.mem_cons_self ..))
    have same : ({ state.1 with registry := state.1.registry.serve r }, state.2) =
        PlainBroker.serve run state r := by
      have nothing := silent r (List.mem_cons_self ..)
      cases r with
      | publish t message => contradiction
      | _ => rfl
    rw [silent r (List.mem_cons_self ..), List.append_nil, same] at first
    exact ih first (fun r member => stay r (List.mem_cons_of_mem _ member))
      fun r member => silent r (List.mem_cons_of_mem _ member)

/-- Publications are all left pending. -/
theorem requestAll_publish [Hashable String] (defers : w.Defers codec name state pending)
    (faithful : ∀ message, ∃ payload, codec.encode message = .ok payload ∧
      codec.decode payload = .ok message)
    (call : Call String S C J M) (topics : List String) (message : M) :
    (w.requestAll ⟨id, codec⟩ call 0 (topics.map fun t => .publish t message)).Defers codec name
      state (pending ++ topics.map fun t => .message t message) := by
  induction topics generalizing w pending with
  | nil =>
    simp only [List.map_nil, List.append_nil]
    exact defers
  | cons t rest ih =>
    have first := defers.request faithful call (r := .publish t message) (by simp)
    have all := ih first
    rw [List.append_assoc] at all
    exact all

omit [DecidableEq S] in
/-- Of the handlers for a topic only the one of the broker does anything: it delivers to the topic's
subscribers, if there are any. -/
theorem foldl_receive_handlers {v : Network String S C J} {broker : MiddlewareBroker String S C}
    {hub : Hub (Inbound String)} {plain : PlainBroker String S C} (only : v.nodes = [.middleware broker])
    (owes : broker.Owes codec hub plain pending) {payload : ByteArray} {content : M}
    (decoded : codec.decode payload = .ok content) (run : C → M → J → Outcome × J) (t : String) :
    (hub.handlersFor t).foldl (receive ⟨id, codec⟩ (onJournal run) payload) v =
      if plain.registry.hasTopic t then
        let delivery := deliverAll (fun callback => run callback content)
          (plain.registry t).values v.journal
        (v.withJournal delivery.2).withNode 0
          (.middleware { broker with metrics := broker.metrics.recordDelivery delivery.1 })
      else v := by
  have elsewhere {u : Network String S C J} {node : Node String S C} (only : u.nodes = [node])
      {n : Nat} (different : n ≠ 0) : u.node? n = none := by
    rw [node?, only]
    cases n with
    | zero => contradiction
    | succ n => rfl
  cases present : plain.registry.hasTopic t with
  | false =>
    rw [if_neg Bool.false_ne_true]
    refine foldl_receive_missing _ _ payload fun inbound member => ?_
    exact elsewhere only (owes.handlersFor_missing present inbound member)
  | true =>
    have there : v.node? 0 = some (.middleware broker) := by rw [node?, only]; rfl
    obtain ⟨before, after, listed, others⟩ := owes.handlersFor_present present
    have routed : broker.hasTopic t = true := by
      rw [owes.attached.hasTopic, owes.registry, present]
    obtain ⟨route, found⟩ := Option.isSome_iff_exists.mp routed
    rw [if_pos rfl, listed, List.foldl_append, List.foldl_cons]
    rw [foldl_receive_missing _ _ payload fun inbound member =>
      elsewhere only (others inbound (List.mem_append_left after member))]
    rw [receive_eq decoded run there found, owes.registry]
    refine foldl_receive_missing _ _ payload fun inbound member => ?_
    have alone {journal : J} {node : Node String S C} :
        ((v.withJournal journal).withNode 0 node).nodes = [node] := by
      rw [withNode, withJournal, only]
      rfl
    exact elsewhere alone (others inbound (List.mem_append_right before member))

/-- The dispatcher delivers what has been pending for longest, as a plain broker would deliver it at
this moment, and forgets no marker. -/
theorem dispatch {head : Pending M} (defers : w.Defers codec name state (head :: pending))
    (run : C → M → J → Outcome × J) :
    (w.dispatch ⟨id, codec⟩ (onJournal run) name).Defers codec name (head.deliver run state) pending ∧
      ∀ ticket, (w.hub name).Awaits ticket →
        ((w.dispatch ⟨id, codec⟩ (onJournal run) name).hub name).Awaits ticket := by
  obtain ⟨⟨broker, only, joined, owes⟩, idle, journal⟩ := defers
  obtain ⟨entry, rest, codes, later, queued⟩ := List.forall₂_cons_right_iff.mp owes.queue
  obtain ⟨next, took, passes, rfl, awaits⟩ := Hub.next?_of_queue queued
  have there := hub_withHub w name next
  rw [Network.dispatch, took]
  cases codes with
  | marker ticket =>
    have counted : broker.metrics = state.1.metrics.ahead (pending.countP Pending.isMessage) :=
      owes.metrics
    have passed := owes.pass passes later counted
    rw [← there] at passed
    refine ⟨⟨⟨broker, only, joined, passed⟩, idle_withHub idle next, journal⟩, fun ticket before => ?_⟩
    rw [there]
    exact awaits ticket before
  | @message t payload content decoded =>
    have handlers : next.handlersFor t = (w.hub name).handlersFor t := by
      rw [Hub.handlersFor, Hub.handlersFor, passes.routes]
    have longer : (.message t content :: pending).countP Pending.isMessage =
        pending.countP Pending.isMessage + 1 := List.countP_cons_of_pos rfl
    have ahead := owes.metrics
    rw [longer] at ahead
    have still : (w.withHub name next).nodes = [.middleware broker] := only
    have same : (w.withHub name next).journal = state.2 := journal
    dsimp only
    rw [handlers, foldl_receive_handlers still owes decoded run t, same, Pending.deliver,
      PlainBroker.serve, PlainBroker.publish]
    cases state.1.registry.hasTopic t with
    | false =>
      rw [if_neg Bool.false_ne_true, if_neg Bool.false_ne_true]
      have dropped : broker.Owes codec next
          { state.1 with metrics := state.1.metrics.recordPublish none } pending :=
        owes.pass passes later (ahead.trans (BrokerMetrics.drop_ahead _ _))
      rw [← there] at dropped
      refine ⟨⟨⟨broker, only, joined, dropped⟩, idle_withHub idle next, journal⟩, ?_⟩
      rw [there]
      exact awaits
    | true =>
      rw [if_pos rfl, if_pos rfl]
      dsimp only
      generalize deliverAll (fun callback => run callback content) (state.1.registry t).values state.2
        = delivery
      have counted : broker.metrics.recordDelivery delivery.1 =
          (state.1.metrics.recordPublish (some delivery.1)).ahead
            (pending.countP Pending.isMessage) := by
        rw [ahead, BrokerMetrics.recordDelivery_ahead]
      have delivered : ({ broker with metrics := broker.metrics.recordDelivery delivery.1 } :
          MiddlewareBroker String S C).Owes codec next
          { state.1 with metrics := state.1.metrics.recordPublish (some delivery.1) } pending :=
        owes.pass passes later counted
      have alone : (((w.withHub name next).withJournal delivery.2).withNode 0 (.middleware
          { broker with metrics := broker.metrics.recordDelivery delivery.1 })).nodes =
          [.middleware { broker with metrics := broker.metrics.recordDelivery delivery.1 }] := by
        rw [withNode, withJournal, still]
        rfl
      rw [← there] at delivered
      refine ⟨⟨⟨_, alone, joined, delivered⟩, idle_withHub idle next, rfl⟩, fun ticket before => ?_⟩
      have reached := awaits ticket before
      rw [← there] at reached
      exact reached

omit [DecidableEq S] in
/-- Only the hub of that name can be busy, and it is as long as something is pending. -/
theorem mem_busy_iff (defers : w.Defers codec name state pending) (other : String) :
    other ∈ w.busy ↔ other = name ∧ pending ≠ [] := by
  obtain ⟨broker, _, _, owes⟩ := defers.node
  have queue := owes.queue
  rw [Network.busy, List.mem_map]
  constructor
  · rintro ⟨⟨key, hub⟩, listed, rfl⟩
    obtain ⟨stands, queued⟩ := List.mem_filter.mp listed
    have found := (Table.mem_entries_iff w.connector.hubs key hub).mp stands
    have occupied : hub.queue ≠ [] := by
      rintro bare
      rw [bare] at queued
      contradiction
    obtain rfl : key = name := by
      by_contra different
      exact occupied (defers.idle key hub found different)
    refine ⟨rfl, ?_⟩
    rintro rfl
    rw [Network.hub, Connector.hub?, found, List.forall₂_nil_right_iff] at queue
    exact occupied queue
  · rintro ⟨rfl, owing⟩
    cases found : w.connector.hub? other with
    | none =>
      rw [Network.hub, found] at queue
      cases queue
      contradiction
    | some hub =>
      rw [Network.hub, found, Option.getD_some] at queue
      have stands := (Table.mem_entries_iff w.connector.hubs other hub).mpr found
      have occupied : hub.queue.isEmpty = false := by
        rw [List.isEmpty_eq_false_iff]
        intro bare
        rw [bare, List.forall₂_nil_left_iff] at queue
        exact owing queue
      refine ⟨(other, hub), List.mem_filter.mpr ⟨stands, ?_⟩, rfl⟩
      rw [occupied]
      rfl

/-- Given enough steps, the dispatchers deliver all that is pending, and forget no marker. -/
theorem settle (defers : w.Defers codec name state pending) (run : C → M → J → Outcome × J)
    {steps : Nat} (enough : pending.length ≤ steps) :
    (w.settle ⟨id, codec⟩ (onJournal run) steps).Defers codec name
        (pending.foldl (Pending.deliver run) state) [] ∧
      ∀ ticket, (w.hub name).Awaits ticket →
        ((w.settle ⟨id, codec⟩ (onJournal run) steps).hub name).Awaits ticket := by
  induction steps generalizing w state pending with
  | zero =>
    obtain rfl := List.length_eq_zero_iff.mp (Nat.le_zero.mp enough)
    exact ⟨defers, fun _ awaits => awaits⟩
  | succ steps ih =>
    have busy_iff := defers.mem_busy_iff
    rw [Network.settle]
    cases busy : w.busy with
    | nil =>
      rw [busy] at busy_iff
      have done : pending = [] := by
        by_contra owing
        exact List.not_mem_nil ((busy_iff name).mpr ⟨rfl, owing⟩)
      subst done
      exact ⟨defers, fun _ awaits => awaits⟩
    | cons first others =>
      rw [busy] at busy_iff
      obtain ⟨rfl, owing⟩ := (busy_iff first).mp (List.mem_cons_self ..)
      obtain ⟨head, rest, rfl⟩ := List.exists_cons_of_ne_nil owing
      obtain ⟨next, awaits⟩ := defers.dispatch run
      obtain ⟨finished, further⟩ := ih next (Nat.le_of_succ_le_succ enough)
      exact ⟨finished, fun ticket before => further ticket (awaits ticket before)⟩

omit [DecidableEq S] in
/-- There are no more messages pending than frames queued. -/
theorem length_le_queued (defers : w.Defers codec name state pending) :
    pending.length ≤ w.queued := by
  obtain ⟨broker, _, _, owes⟩ := defers.node
  rw [← owes.queue.length_eq, Network.hub, queued]
  cases found : w.connector.hub? name with
  | none => exact Nat.zero_le _
  | some hub =>
    have value : hub ∈ w.connector.hubs.values := (Table.mem_values_iff _ _).mpr ⟨name, found⟩
    exact List.single_le_sum (fun _ _ => Nat.zero_le _) _ (List.mem_map_of_mem value)

/-- A flush succeeds and delivers all that is pending. -/
theorem flush (defers : w.Defers codec name state pending) (run : C → M → J → Outcome × J) :
    ∃ after, w.flush ⟨id, codec⟩ (onJournal run) w.queued name = (.ok (), after) ∧
      after.Defers codec name (pending.foldl (Pending.deliver run) state) [] := by
  have enough := defers.length_le_queued
  obtain ⟨⟨broker, only, joined, owes⟩, idle, journal⟩ := defers
  let marked := w.withHub name (w.hub name).mark
  have there : marked.hub name = (w.hub name).mark := hub_withHub w name _
  have started : marked.Defers codec name state (pending ++ [.marker (w.hub name).tickets]) := by
    have last : Pending.Codes codec (.marker (w.hub name).tickets) (.marker (w.hub name).tickets) :=
      .marker _
    have queue := List.rel_append owes.queue (.cons last .nil)
    have counted : (pending ++ [Pending.marker (w.hub name).tickets]).countP Pending.isMessage =
        pending.countP Pending.isMessage := by
      rw [List.countP_append]
      rfl
    have same := owes.metrics
    rw [← counted] at same
    have owing := owes.pass (w.hub name).passes_mark queue same
    rw [← there] at owing
    exact ⟨⟨broker, only, joined, owing⟩, idle_withHub idle _, journal⟩
  have longer : (pending ++ [Pending.marker (w.hub name).tickets]).length ≤ w.queued + 1 := by
    rw [List.length_append]
    exact Nat.succ_le_succ enough
  obtain ⟨finished, awaits⟩ := started.settle run longer
  rw [List.foldl_concat] at finished
  rw [there] at awaits
  obtain ⟨_, _, _, settled⟩ := finished.node
  have queue : ((marked.settle ⟨id, codec⟩ (onJournal run) (w.queued + 1)).hub name).queue = [] :=
    List.forall₂_nil_right_iff.mp settled.queue
  have passed : (w.hub name).tickets ∈
      ((marked.settle ⟨id, codec⟩ (onJournal run) (w.queued + 1)).hub name).passed := by
    have reached := awaits _ (w.hub name).awaits_mark
    rw [Hub.Awaits, queue] at reached
    exact reached.resolve_right List.not_mem_nil
  refine ⟨marked.settle ⟨id, codec⟩ (onJournal run) (w.queued + 1), ?_, finished⟩
  rw [Network.flush, Hub.requestFlush_eq owes.accepting owes.alive]
  dsimp only
  rw [if_pos passed]

end Defers

end Network

end Vicinity

import Vicinity.Proofs.Network.Dispatch
import Vicinity.Proofs.Network.Sparing

/-! # Networks with a closed node

A node that is closed is left out of everything: no event calls a callback of its, and a request to it
comes to nothing but a count of the publications it drops. So a network runs as it would run if no one
asked the closed node for anything. The comparison is between two networks of which one is the other
without what is counted at that node; they do alike, event by event, when the events and the acts of
callbacks on one side are those of the other without the requests to the node.
-/

namespace Vicinity

variable {T S C M J : Type}

/-- The broker after it has dropped so many publications. -/
def MiddlewareBroker.dropping (broker : MiddlewareBroker T S C) (count : Nat) :
    MiddlewareBroker T S C :=
  { broker with
    metrics := { broker.metrics with
      published := broker.metrics.published + .ofNat count
      dropped := broker.metrics.dropped + .ofNat count } }

theorem MiddlewareBroker.dropping_dropping (broker : MiddlewareBroker T S C) (first second : Nat) :
    (broker.dropping first).dropping second = broker.dropping (first + second) := by
  simp only [dropping, UInt64.ofNat_add, UInt64.add_assoc]

namespace ActingNetwork

variable [DecidableEq T] [DecidableEq S] {w v u : ActingNetwork T S C M J} {n : Nat}
  {broker : MiddlewareBroker T S (Owned C)} {calls : List (Owned C × M)}

/-! ## Requests to a closed node -/

/-- What the callers of a closed node get: nothing happens but that a publication is dropped. -/
theorem request_of_closed [Hashable T] (sound : w.Sound) (there : w.node? n = some (.middleware broker))
    (closed : broker.closed = true) (wire : Wire T M)
    (call : Network.Call T S (Owned C) (Logged C M J) M) (r : Request T S (Owned C) M) :
    w.request wire call n r = (.ok (), match r with
      | .publish _ _ => w.withNode n (.middleware (broker.dropping 1))
      | _ => w) := by
  obtain ⟨hub, found, hosted⟩ := sound.middleware there
  have answers : (w.request wire call n r).1 = .ok () := by
    rw [Network.request, there]
    cases r with
    | close =>
      simp only [Network.requestMiddleware, MiddlewareBroker.close, closed, ↓reduceIte]
    | _ => rfl
  have still : w.withMiddleware n broker.link.connection.hub (broker, hub) = w := by
    rw [Network.withMiddleware, Network.withNode_self there, Network.withHub_self found]
  refine Prod.ext answers ?_
  rw [request_middleware there, Network.hub_of_hub? found,
    MiddlewareBroker.serve_of_closed closed (hosted.shut closed)]
  cases r with
  | publish t message => exact Network.withHub_self (w := w.withNode n (.middleware (broker.dropping 1))) found
  | _ => exact still

/-! ## Networks that run alike -/

/-- A network after a node was closed: at the node publications have been dropped, and none of its
callbacks has been called. -/
structure Rests (n : Nat) (broker : MiddlewareBroker T S (Owned C)) (calls : List (Owned C × M))
    (v : ActingNetwork T S C M J) : Prop where
  sound : v.Sound
  closed : broker.closed = true
  there : ∃ dropped, v.node? n = some (.middleware (broker.dropping dropped))
  calls : ∃ new, v.journal.calls = calls ++ new ∧ ∀ call ∈ new, call.1.node ≠ n

/-- Such a network, and the same without what is counted at the node. -/
structure Twins (n : Nat) (broker : MiddlewareBroker T S (Owned C)) (calls : List (Owned C × M))
    (v u : ActingNetwork T S C M J) : Prop extends Rests n broker calls v where
  same : u = v.uncounted n

omit [DecidableEq S] in
/-- A frame for a node without topics is dropped. -/
theorem receive_of_routes {inbound : Inbound T}
    (there : w.node? inbound.node = some (.middleware broker)) (bare : broker.routes = ∅)
    (wire : Wire T M) (call : Network.Call T S (Owned C) (Logged C M J) M) (payload : ByteArray) :
    w.receive wire call payload inbound = w := by
  rcases Network.receive_cases wire payload inbound (w.node? inbound.node) with
    idle | ⟨message, receiver, route, found, routed, -⟩
  · exact idle call w rfl
  · rw [there] at found
    cases found
    rw [bare] at routed
    contradiction

theorem Rests.bare (rests : Rests n broker calls v) : broker.routes = ∅ := by
  obtain ⟨dropped, there⟩ := rests.there
  obtain ⟨hub, -, hosted⟩ := rests.sound.middleware there
  exact (hosted.shut rests.closed).routes

namespace Twins

theorem refl (sound : w.Sound) (there : w.node? n = some (.middleware broker))
    (closed : broker.closed = true) : Twins n broker w.journal.calls w (w.uncounted n) where
  sound := sound
  closed := closed
  there := ⟨0, by simpa [MiddlewareBroker.dropping] using there⟩
  calls := ⟨[], (List.append_nil _).symm, by simp⟩
  same := rfl

theorem node? (twins : Twins n broker calls v u) {m : Nat} (different : m ≠ n) :
    u.node? m = v.node? m := by
  rw [twins.same, Network.node?_uncounted_of_ne different]

theorem note (twins : Twins n broker calls v u) {owned : Owned C} (other : owned.node ≠ n)
    (message : M) (journal : J) :
    Twins n broker calls (note v owned message journal) (note u owned message journal) := by
  obtain ⟨new, noted, others⟩ := twins.calls
  constructor
  case toRests =>
    refine ⟨twins.sound.withJournal _, twins.closed, twins.there, new ++ [(owned, message)], ?_, ?_⟩
    · rw [ActingNetwork.note, noted, List.append_assoc]
    · intro call member
      rcases List.mem_append.mp member with earlier | last
      · exact others call earlier
      · obtain rfl := List.mem_singleton.mp last
        exact other
  case same =>
    rw [twins.same]
    rfl

theorem recordDelivery (twins : Twins n broker calls v u) {m : Nat} (different : m ≠ n)
    (report : DeliveryReport) :
    Twins n broker calls (v.recordDelivery m report) (u.recordDelivery m report) := by
  rw [Network.recordDelivery, Network.recordDelivery, twins.node? different]
  split
  · next receiver found =>
    obtain ⟨dropped, there⟩ := twins.there
    constructor
    case toRests =>
      refine ⟨twins.sound.recount found _, twins.closed, ⟨dropped, ?_⟩, twins.calls⟩
      exact (Network.node?_withNode_of_ne v different.symm _).trans there
    case same => rw [twins.same, Network.uncounted_withNode found different]
  · exact twins

/-- Whatever passes through a hub, it passes through on both sides. -/
theorem withHub (twins : Twins n broker calls v u) {name : String} {next : Hub (Inbound T)}
    (sound : Sound (v.withHub name next)) :
    Twins n broker calls (v.withHub name next) (u.withHub name next) where
  sound := sound
  closed := twins.closed
  there := twins.there
  calls := twins.calls
  same := by rw [twins.same]; rfl

variable [Hashable T]

/-- A request to the closed node makes no difference. -/
theorem request (twins : Twins n broker calls v u) (wire : Wire T M) (r : Request T S C M) :
    Twins n broker calls (perform wire v (.request n r)) u := by
  obtain ⟨dropped, there⟩ := twins.there
  have sound := twins.sound.perform wire (.request n r)
  rw [ActingNetwork.perform, request_of_closed twins.sound there twins.closed] at sound ⊢
  cases r with
  | publish t message =>
    refine ⟨⟨sound, twins.closed, ⟨dropped + 1, ?_⟩, twins.calls⟩, ?_⟩
    · rw [← MiddlewareBroker.dropping_dropping]
      exact Network.node?_withNode there _
    · rw [twins.same]
      exact (Network.uncounted_recount there _).symm
  | _ => exact twins

/-- Any other act does alike on both sides. -/
theorem perform (twins : Twins n broker calls v u) (wire : Wire T M) {act : Act T S C M}
    (spares : act.spares n = true) :
    Twins n broker calls (perform wire v act) (perform wire u act) := by
  obtain ⟨dropped, there⟩ := twins.there
  obtain ⟨still, journal, alike⟩ := perform_sparing twins.sound there wire spares
  have sound := twins.sound.perform wire act
  refine ⟨⟨sound, twins.closed, ⟨dropped, still⟩, journal ▸ twins.calls⟩, ?_⟩
  rw [twins.same, alike]

theorem performAll (twins : Twins n broker calls v u) (wire : Wire T M) (acts : List (Act T S C M)) :
    Twins n broker calls (acts.foldl (ActingNetwork.perform wire) v)
      ((acts.filter (Act.spares n)).foldl (ActingNetwork.perform wire) u) := by
  induction acts generalizing v u with
  | nil => exact twins
  | cons act rest ih =>
    cases spares : act.spares n with
    | true =>
      rw [List.filter_cons_of_pos spares]
      exact ih (twins.perform wire spares)
    | false =>
      rw [List.filter_cons_of_neg (by simp [spares])]
      cases act with
      | request m r =>
        obtain rfl : m = n := by simpa [Act.spares] using spares
        exact ih (twins.request wire r)
      | _ => contradiction

/-- A callback of another node does alike on both sides when it spares the closed node on one. -/
theorem call (twins : Twins n broker calls v u) (wire : Wire T M)
    (react : C → M → J → Reaction T S C M J) {owned : Owned C} (other : owned.node ≠ n) (message : M) :
    (call wire react owned message v).1 = (call wire (sparing n react) owned message u).1 ∧
      Twins n broker calls (call wire react owned message v).2
        (call wire (sparing n react) owned message u).2 := by
  have kept : u.journal = v.journal := by rw [twins.same]; rfl
  simp only [ActingNetwork.call, sparing, kept]
  exact ⟨rfl, (twins.note other message _).performAll wire _⟩

/-- A frame reaches a closed node in vain, and another node alike on both sides. -/
theorem receive (twins : Twins n broker calls v u) (wire : Wire T M)
    (react : C → M → J → Reaction T S C M J) (payload : ByteArray) (inbound : Inbound T) :
    Twins n broker calls (v.receive wire (ActingNetwork.call wire react) payload inbound)
      (u.receive wire (ActingNetwork.call wire (sparing n react)) payload inbound) := by
  by_cases own : inbound.node = n
  · obtain ⟨dropped, there⟩ := twins.there
    rw [← own] at there
    have uncounted : u.node? inbound.node =
        some (.middleware { broker.dropping dropped with metrics := .zero }) := by
      rw [twins.same, ← own, Network.node?_uncounted, there]
      rfl
    rw [receive_of_routes there twins.bare, receive_of_routes uncounted twins.bare]
    exact twins
  · rcases Network.receive_cases wire payload inbound (v.node? inbound.node) with
      idle | ⟨message, receiver, route, found, -, delivers⟩
    · rw [idle _ v rfl, idle _ u (twins.node? own)]
      exact twins
    · have others : ∀ owned ∈ (receiver.subscribers inbound.topic).values, owned.node ≠ n := by
        intro owned member
        obtain ⟨hub, -, hosted⟩ := twins.sound.middleware found
        obtain ⟨s, registered⟩ := (Table.mem_values_iff _ _).mp member
        rw [hosted.owned _ s owned registered]
        exact own
      obtain ⟨report, delivered⟩ := deliverAll_related (R := Twins n broker calls)
        (fun owned member _ _ before => before.call wire react (others owned member) message) twins
      rw [delivers _ v rfl, delivers _ u (twins.node? own)]
      dsimp only
      rw [← report]
      exact delivered.recordDelivery own _

theorem receiveAll (twins : Twins n broker calls v u) (wire : Wire T M)
    (react : C → M → J → Reaction T S C M J) (payload : ByteArray) (handlers : List (Inbound T)) :
    Twins n broker calls
      (handlers.foldl (Network.receive wire (ActingNetwork.call wire react) payload) v)
      (handlers.foldl (Network.receive wire (ActingNetwork.call wire (sparing n react)) payload) u) :=
  List.foldl_rel twins fun inbound _ _ _ before => before.receive wire react payload inbound

theorem dispatch (twins : Twins n broker calls v u) (wire : Wire T M)
    (react : C → M → J → Reaction T S C M J) (name : String) :
    Twins n broker calls (v.dispatch wire (ActingNetwork.call wire react) name)
      (u.dispatch wire (ActingNetwork.call wire (sparing n react)) name) := by
  have hub : u.hub name = v.hub name := by rw [twins.same]; rfl
  rw [Network.dispatch, Network.dispatch, hub]
  cases taken : (v.hub name).next? with
  | none => exact twins
  | some first =>
    obtain ⟨entry, next⟩ := first
    have passed := twins.withHub (twins.sound.take taken)
    cases entry with
    | marker ticket => exact passed
    | message topic payload => exact passed.receiveAll wire react payload _

theorem step (twins : Twins n broker calls v u) (wire : Wire T M)
    (react : C → M → J → Reaction T S C M J) {event : NetworkEvent T S C M}
    (spares : event.spares n = true) :
    Twins n broker calls (step wire react v event) (step wire (sparing n react) u event) := by
  have connector : u.connector = v.connector := by rw [twins.same]; rfl
  cases event with
  | act act => exact twins.perform wire spares
  | handle payload handler => exact twins.receive wire react payload handler
  | dispatch name => exact twins.dispatch wire react name
  | turn name turn =>
    rw [ActingNetwork.step, ActingNetwork.step, connector]
    split
    · next turned => exact twins.withHub (twins.sound.turn turned)
    · exact twins

/-- Two networks that run alike for ever: one does all that happens, the other all but the requests to
the closed node. -/
theorem run (twins : Twins n broker calls v u) (wire : Wire T M)
    (react : C → M → J → Reaction T S C M J) (events : List (NetworkEvent T S C M)) :
    Twins n broker calls (run wire react v events)
      (run wire (sparing n react) u (events.filter (NetworkEvent.spares n))) := by
  induction events generalizing v u with
  | nil => exact twins
  | cons event rest ih =>
    cases spares : event.spares n with
    | true =>
      rw [List.filter_cons_of_pos spares]
      exact ih (twins.step wire react spares)
    | false =>
      rw [List.filter_cons_of_neg (by simp [spares])]
      match event, spares with
      | .act (.request m r), spares =>
        obtain rfl : m = n := by simpa [NetworkEvent.spares, Act.spares] using spares
        exact ih (twins.request wire r)

end Twins

variable [Hashable T]

/-! ## Nodes that are closed for good -/

/-- A node that is closed: it has no topics and no routes, and all it does when it is asked for
something is to count a publication as dropped. -/
structure Retired (wire : Wire T M) (n : Nat) (broker : MiddlewareBroker T S (Owned C))
    (v : ActingNetwork T S C M J) : Prop where
  there : v.node? n = some (.middleware broker)
  topicless : broker.topicCount = 0
  unrouted : ∃ hub, v.connector.hub? broker.link.connection.hub = some hub ∧
    ∀ topic, hub.route? topic broker.link.connection.id = none
  inert : ∀ call r, v.request wire call n r = (.ok (), match r with
    | .publish _ _ => v.withNode n (.middleware (broker.dropping 1))
    | _ => v)

theorem Rests.retired (rests : Rests n broker calls v) (wire : Wire T M) :
    ∃ dropped, Retired wire n (broker.dropping dropped) v := by
  obtain ⟨dropped, there⟩ := rests.there
  obtain ⟨hub, found, hosted⟩ := rests.sound.middleware there
  obtain ⟨routes, unrouted⟩ := hosted.shut rests.closed
  refine ⟨dropped, there, ?_, ⟨hub, found, unrouted⟩, ?_⟩
  · rw [MiddlewareBroker.topicCount, routes]
    rfl
  · exact request_of_closed rests.sound there rests.closed wire

/-- Closing a node succeeds, and closes it. -/
theorem request_close (sound : w.Sound) (there : w.node? n = some (.middleware broker))
    (wire : Wire T M) (call : Network.Call T S (Owned C) (Logged C M J) M) :
    (w.request wire call n .close).1 = .ok () ∧ ∃ closed : MiddlewareBroker T S (Owned C),
      (w.request wire call n .close).2.node? n = some (.middleware closed) ∧ closed.closed = true := by
  obtain ⟨hub, -, hosted⟩ := sound.middleware there
  rw [request_middleware there]
  refine ⟨?_, _, Network.node?_withNode there _, MiddlewareBroker.closed_close broker _⟩
  rw [Network.request, there]
  exact MiddlewareBroker.answer_close hosted.willing _

/-- In any network of middleware nodes, closing a node succeeds. Once a node is closed, it is so for
good: whatever is done to it and to others, by users and by callbacks, and whatever frames are still
under way, it has no topics and no routes, none of its callbacks is called, it sends nothing, and all
that changes about it is the count of publications it has dropped. All the rest of the network is what
it would be if no one had asked the closed node for anything.

An event is over before the next one begins: a delivery at a node in which a callback closes that very
node is among the events before, and finishes. -/
theorem retired_run (wire : Wire T M) (react : C → M → J → Reaction T S C M J) (journal : J)
    (before : List (NetworkEvent T S C M)) {n : Nat} {broker : MiddlewareBroker T S (Owned C)}
    (there : (run wire react (new journal) before).node? n = some (.middleware broker)) :
    let w := run wire react (new journal) before
    (∀ call, (w.request wire call n .close).1 = .ok () ∧ ∃ closed : MiddlewareBroker T S (Owned C),
      (w.request wire call n .close).2.node? n = some (.middleware closed) ∧ closed.closed = true) ∧
    (broker.closed = true → ∀ later,
      let v := run wire react w later
      (∃ dropped, Retired wire n (broker.dropping dropped) v) ∧
      (∃ new, v.journal.calls = w.journal.calls ++ new ∧ ∀ call ∈ new, call.1.node ≠ n) ∧
      v.uncounted n =
        (run wire (sparing n react) w (later.filter (NetworkEvent.spares n))).uncounted n) := by
  intro w
  have sound : w.Sound := sound_run (sound_new journal) wire react before
  refine ⟨request_close sound there wire, fun closed later => ?_⟩
  have twins := (Twins.refl sound there closed).run wire react later
  refine ⟨twins.retired wire, twins.calls, ?_⟩
  -- The network that spares the node is its own twin: sparing it once more takes nothing away.
  have spared := (Twins.refl sound there closed).run wire (sparing n react)
    (later.filter (NetworkEvent.spares n))
  have again : sparing n (sparing n react) = sparing n react := by
    funext callback message kept
    exact Reaction.sparing_sparing n _
  simp only [again, List.filter_filter, Bool.and_self] at spared
  rw [← twins.same, ← spared.same]

/-- A node with a subscriber closes while a frame is under way. The callback that the frame calls at the
other node publishes at the closed one, where someone also tries to subscribe. -/
theorem retired_run_town :
    let wire : Wire String UInt8 := ⟨id, Network.byteCodec⟩
    let react := fun (callback : Nat) (message : UInt8) (kept : List Nat) =>
      (⟨.returned, kept ++ [callback], [.request 0 (.publish "news" (message + 1))]⟩ :
        Reaction String Nat Nat UInt8 (List Nat))
    let before : List (NetworkEvent String Nat Nat UInt8) :=
      [.act (.join "loopback://town" .concurrent), .act (.join "loopback://town" .snapshot),
        .act (.request 0 (.subscribe "news" 1 10)), .act (.request 1 (.subscribe "news" 1 20)),
        .act (.request 1 (.publish "news" 5)), .act (.request 0 .close)]
    let later : List (NetworkEvent String Nat Nat UInt8) :=
      [.act (.request 0 (.subscribe "news" 2 30)), .dispatch "town"]
    let w := run wire react (new []) before
    ∃ broker, w.node? 0 = some (.middleware broker) ∧ broker.closed = true ∧
      (∃ dropped, Retired wire 0 (broker.dropping dropped) (run wire react w later)) ∧
      (run wire react w later).uncounted 0 =
        (run wire (sparing 0 react) w [.dispatch "town"]).uncounted 0 ∧
      (run wire react w later).journal.calls = [(⟨1, 20⟩, 5)] := by
  intro wire react before later w
  have calls : (run wire react w later).journal.calls = [(⟨1, 20⟩, 5)] := by decide +kernel +revert
  have filtered : later.filter (NetworkEvent.spares 0) = [.dispatch "town"] := rfl
  obtain ⟨broker, there, closed⟩ : ∃ broker, w.node? 0 = some (.middleware broker) ∧
      broker.closed = true := ⟨_, rfl, rfl⟩
  obtain ⟨retired, -, spared⟩ := (retired_run wire react [] before there).2 closed later
  rw [filtered] at spared
  exact ⟨broker, there, closed, retired, spared, calls⟩

end ActingNetwork

end Vicinity

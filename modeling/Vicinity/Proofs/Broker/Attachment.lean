import Vicinity.Proofs.Broker.Asking

/-! # Attachment of topics

Three things have to stay in step with every request to a broker: its local channels, its note
whether a topic is attached, and the routes of the hub. `Attached` says how they belong together, and
keeps doing so whatever pattern of refusals the transport has in store for subscriptions. A run is
what the broker and its hub come to by requests, while others use the same hub.
-/

namespace Vicinity

variable {T S C M : Type}

namespace MiddlewareBroker

variable [DecidableEq T] [DecidableEq S]

/-! ## Broker and hub -/

/-- Whether a name stands for one topic alone. -/
def OwnName (nameOf : T → String) (t : T) : Prop := ∀ other, nameOf other = nameOf t → other = t

/-- The routes of the connection are those of attached topics, and a topic is there for its
subscribers alone. Topics of one name have one route between them, so it is only where a name stands
for one topic that being attached means having a route. -/
structure Attached (nameOf : T → String) (broker : MiddlewareBroker T S C) (hub : Hub (Inbound T)) :
    Prop where
  isOpen : broker.closed = false
  passes : ∀ answer ∈ broker.link.refusals.unsubscribe, answer = none
  occupied : ∀ t route, broker.routes.get? t = some route → route.channel.isEmpty = false
  routed : ∀ name handler, hub.route? name broker.link.connection.id = some handler →
    ∃ t, broker.isAttached t = true ∧ nameOf t = name ∧ handler = ⟨broker.node, t⟩
  held : ∀ t, broker.isAttached t = true → OwnName nameOf t →
    hub.route? (nameOf t) broker.link.connection.id = some ⟨broker.node, t⟩

omit [DecidableEq S] in
theorem occupied_store {broker : MiddlewareBroker T S C}
    (occupied : ∀ t route, broker.routes.get? t = some route → route.channel.isEmpty = false)
    (t : T) (route : Route S C) (full : route.channel.isEmpty = false) (other : T)
    (found : Route S C) (there : (broker.routes.insert t route).get? other = some found) :
    found.channel.isEmpty = false := by
  rw [Table.get?_insert] at there
  split at there
  · obtain rfl := Option.some.inj there
    exact full
  · exact occupied other found there

namespace Attached

variable {nameOf : T → String} {broker : MiddlewareBroker T S C} {hub : Hub (Inbound T)}

omit [DecidableEq S] in
theorem hasTopic (attached : Attached nameOf broker hub) (t : T) :
    broker.hasTopic t = broker.subscribers.hasTopic t := by
  rw [MiddlewareBroker.hasTopic, Table.contains, Registry.hasTopic]
  cases found : broker.routes.get? t with
  | none =>
    rw [subscribers_of_none found]
    rfl
  | some route =>
    rw [subscribers_of_some found, ← Channel.isEmpty_eq, attached.occupied t route found]
    rfl

omit [DecidableEq S] in
/-- What others do at the hub, and what is counted here, makes no difference. -/
theorem elsewhere (attached : Attached nameOf broker hub) (metrics : BrokerMetrics)
    {after : Hub (Inbound T)} (same : ∀ name, after.route? name broker.link.connection.id =
      hub.route? name broker.link.connection.id) :
    Attached nameOf { broker with metrics } after where
  isOpen := attached.isOpen
  passes := attached.passes
  occupied := attached.occupied
  routed name handler found := attached.routed name handler (by rw [← same name, found])
  held t had own := (same (nameOf t)).trans (attached.held t had own)

omit [DecidableEq S] in
/-- The link may have answered and the routes may be stored anew, as long as the same topics are
attached. -/
theorem store (attached : Attached nameOf broker hub) {link : Link} (later : broker.link.Later link)
    {routes : Table T (Route S C)}
    (occupied : ∀ t route, routes.get? t = some route → route.channel.isEmpty = false)
    (same : ∀ t, { broker with link, routes }.isAttached t = broker.isAttached t) :
    Attached nameOf { broker with link, routes } hub where
  isOpen := attached.isOpen
  passes answer member := attached.passes answer (later.leaving member)
  occupied := occupied
  routed name handler found := by
    rw [later.connection] at found
    obtain ⟨t, had, named, handled⟩ := attached.routed name handler found
    exact ⟨t, (same t).trans had, named, handled⟩
  held t had own := by
    rw [later.connection]
    exact attached.held t ((same t).symm.trans had) own

omit [DecidableEq S] in
/-- An accepted subscription attaches its topic and no other. -/
theorem attach (attached : Attached nameOf broker hub)
    {link : Link} (later : broker.link.Later link) (t : T) {route : Route S C}
    (full : route.channel.isEmpty = false) (accepted : route.attached = true) :
    Attached nameOf { broker with link, routes := broker.routes.insert t route }
      (hub.subscribe broker.link.connection.id (nameOf t) ⟨broker.node, t⟩) where
  isOpen := attached.isOpen
  passes answer member := attached.passes answer (later.leaving member)
  occupied := occupied_store attached.occupied t route full
  routed name handler found := by
    rw [later.connection, Hub.route?_subscribe] at found
    split at found
    · next same =>
      obtain rfl := Option.some.inj found
      exact ⟨t, by rw [isAttached_store, if_pos rfl, accepted], same.1.symm, rfl⟩
    · obtain ⟨other, had, named, handled⟩ := attached.routed name handler found
      refine ⟨other, ?_, named, handled⟩
      rw [isAttached_store, had, accepted, ite_self]
  held other had own := by
    rw [later.connection, Hub.route?_subscribe]
    split
    · next same => rw [own t same.1.symm]
    · next apart =>
      have different : other ≠ t := by
        rintro rfl
        exact apart ⟨rfl, rfl⟩
      rw [isAttached_store, if_neg different] at had
      exact attached.held other had own

omit [DecidableEq S] in
/-- Giving up a topic together with its subscription leaves the others as they are. -/
theorem leave (attached : Attached nameOf broker hub)
    {link : Link} (later : broker.link.Later link) (t : T) :
    Attached nameOf { broker with link, routes := broker.routes.erase t }
      (hub.unsubscribe broker.link.connection.id (nameOf t)) where
  isOpen := attached.isOpen
  passes answer member := attached.passes answer (later.leaving member)
  occupied other route found := by
    rw [Table.get?_erase] at found
    split at found
    · contradiction
    · exact attached.occupied other route found
  routed name handler found := by
    rw [later.connection, Hub.route?_unsubscribe] at found
    split at found
    · contradiction
    · next apart =>
      obtain ⟨other, had, named, handled⟩ := attached.routed name handler found
      have different : other ≠ t := by
        rintro rfl
        exact apart ⟨named.symm, rfl⟩
      exact ⟨other, by rw [isAttached_drop, if_neg different, had], named, handled⟩
  held other had own := by
    rw [isAttached_drop] at had
    split at had
    · contradiction
    · next different =>
      rw [later.connection, Hub.route?_unsubscribe, if_neg]
      · exact attached.held other had own
      · rintro ⟨same, -⟩
        exact different (own t same.symm).symm

omit [DecidableEq S] in
theorem attachRoute (attached : Attached nameOf broker hub)
    (t : T) {route : Route S C} (full : route.channel.isEmpty = false)
    (same : route.attached = broker.isAttached t) :
    Attached nameOf (broker.attachRoute nameOf hub t route).1
      (broker.attachRoute nameOf hub t route).2 := by
  have kept {link : Link} {stored : Route S C} (still : stored.attached = route.attached) (other : T) :
      { broker with link, routes := broker.routes.insert t stored }.isAttached other =
        broker.isAttached other := by
    rw [isAttached_store]
    split
    · next own => rw [own, still, same]
    · rfl
  cases held : route.attached with
  | true =>
    rw [attachRoute_of_attached nameOf broker hub t held]
    exact attached.store (Link.later_refl _) (occupied_store attached.occupied t route full) (kept rfl)
  | false =>
    rw [attachRoute_of_unattached nameOf broker hub t held]
    obtain ⟨next, later, ⟨e, refused⟩ | accepted⟩ :=
      broker.link.subscribe_cases hub (nameOf t) ⟨broker.node, t⟩
    · rw [refused]
      have stored := occupied_store attached.occupied t ⟨route.channel, false⟩ full
      exact attached.store later stored (kept held.symm)
    · rw [accepted]
      exact attached.attach later t full rfl

omit [DecidableEq S] in
theorem reattach (attached : Attached nameOf broker hub)
    (t : T) : Attached nameOf (broker.reattach nameOf hub t).1 (broker.reattach nameOf hub t).2 := by
  rw [MiddlewareBroker.reattach]
  cases found : broker.routes.get? t with
  | none => exact attached
  | some route =>
    exact attached.attachRoute t (attached.occupied t route found)
      (isAttached_of_get? found).symm

omit [DecidableEq S] in
theorem send (attached : Attached nameOf broker hub) (codec : Codec M) (t : T) (message : M) :
    Attached nameOf (broker.send nameOf codec hub t message).1
      (broker.send nameOf codec hub t message).2 := by
  obtain ⟨metrics, sent⟩ := send_cases nameOf codec broker hub t message
  rw [sent, sending]
  cases codec.encode message with
  | error e => exact attached.elsewhere metrics fun _ => rfl
  | ok payload =>
    obtain ⟨later, routes⟩ := broker.link.publish_later hub (nameOf t) payload
    have answered := attached.store later attached.occupied fun _ => rfl
    exact answered.elsewhere metrics fun name => Hub.route?_of_routes routes name _

theorem unsubscribe (attached : Attached nameOf broker hub)
    (t : T) (s : S) :
    Attached nameOf (broker.unsubscribe nameOf hub t s).1 (broker.unsubscribe nameOf hub t s).2 := by
  rw [MiddlewareBroker.unsubscribe]
  cases found : broker.routes.get? t with
  | none => exact attached
  | some route =>
    have known := isAttached_of_get? found
    dsimp only
    cases left : (route.channel.unsubscribe s).2.isEmpty with
    | false =>
      have stored := occupied_store attached.occupied t ⟨_, route.attached⟩ left
      refine attached.store (Link.later_refl _) stored fun other => ?_
      rw [isAttached_store]
      split
      · next own => rw [own, known]
      · rfl
    | true =>
      rw [if_neg (by decide)]
      cases held : route.attached with
      | true =>
        obtain ⟨next, later, passed⟩ := Link.unsubscribe_passed attached.passes hub (nameOf t)
        rw [if_pos rfl, passed]
        exact attached.leave later t
      | false =>
        rw [if_neg Bool.false_ne_true]
        refine attached.store (Link.later_refl _) (fun other kept there => ?_) fun other => ?_
        · rw [Table.get?_erase] at there
          split at there
          · contradiction
          · exact attached.occupied other kept there
        · rw [isAttached_drop]
          split
          · next own => rw [own, known, held]
          · rfl

/-- Every request but closing keeps broker and hub together. -/
theorem serve (attached : Attached nameOf broker hub)
    (codec : Codec M) {r : Request T S C M} (stays : r ≠ .close) :
    Attached nameOf (broker.serve nameOf codec hub r).1 (broker.serve nameOf codec hub r).2 := by
  cases r with
  | subscribe t s callback =>
    rw [MiddlewareBroker.serve, subscribe_eq attached.isOpen]
    exact attached.attachRoute t (broker.joined_occupied t s callback)
      (broker.joined_attached t s callback)
  | unsubscribe t s => exact attached.unsubscribe t s
  | publish t message =>
    rw [MiddlewareBroker.serve, publish_eq attached.isOpen]
    exact (attached.reattach t).send codec t message
  | close => contradiction

end Attached

/-! ## Runs -/

/-- What becomes of a broker and its hub: the broker serves requests, and between two of them others
may use the hub as they like, but for the routes of this connection, and deliveries may be counted.
The requests served are listed, the oldest first. -/
inductive Run (nameOf : T → String) (codec : Codec M)
    (start : MiddlewareBroker T S C × Hub (Inbound T)) :
    List (Request T S C M) → MiddlewareBroker T S C × Hub (Inbound T) → Prop
  | start : Run nameOf codec start [] start
  | serve {past state} (run : Run nameOf codec start past state) (r : Request T S C M)
      (stays : r ≠ .close) :
      Run nameOf codec start (past ++ [r]) (state.1.serve nameOf codec state.2 r)
  | elsewhere {past state} (run : Run nameOf codec start past state) (metrics : BrokerMetrics)
      (after : Hub (Inbound T))
      (same : ∀ name, after.route? name state.1.link.connection.id =
        state.2.route? name state.1.link.connection.id) :
      Run nameOf codec start past ({ state.1 with metrics }, after)

variable {nameOf : T → String} {codec : Codec M}

/-- A request changes the subscribers as it changes a registry, whatever the transport answers. -/
theorem subscribers_serve {broker : MiddlewareBroker T S C} (isOpen : broker.closed = false)
    (nameOf : T → String) (codec : Codec M) (hub : Hub (Inbound T)) {r : Request T S C M}
    (stays : r ≠ .close) :
    (broker.serve nameOf codec hub r).1.subscribers = broker.subscribers.serve r := by
  cases r with
  | subscribe t s callback => exact subscribers_subscribe nameOf broker hub isOpen t s callback
  | unsubscribe t s => exact subscribers_unsubscribe nameOf broker hub t s
  | publish t message => exact subscribers_publish nameOf codec broker hub t message
  | close => contradiction

theorem Run.attached {start state : MiddlewareBroker T S C × Hub (Inbound T)}
    {past : List (Request T S C M)} (run : Run nameOf codec start past state)
    (attached : Attached nameOf start.1 start.2) :
    Attached nameOf state.1 state.2 := by
  induction run with
  | start => exact attached
  | serve run r stays ih => exact ih.serve codec stays
  | elsewhere run metrics after same ih => exact ih.elsewhere metrics same

theorem Run.subscribers {start state : MiddlewareBroker T S C × Hub (Inbound T)}
    {past : List (Request T S C M)} (run : Run nameOf codec start past state)
    (attached : Attached nameOf start.1 start.2) :
    state.1.subscribers = past.foldl Registry.serve start.1.subscribers := by
  induction run with
  | start => rfl
  | serve run r stays ih =>
    have isOpen := (run.attached attached).isOpen
    rw [subscribers_serve isOpen nameOf codec _ stays, ih, List.foldl_concat]
  | elsewhere run metrics after same ih => exact ih

/-- Along a run an attached topic stays attached as long as it has subscribers throughout. -/
theorem Run.keeps {start state : MiddlewareBroker T S C × Hub (Inbound T)}
    {later : List (Request T S C M)} (run : Run nameOf codec start later state)
    (attached : Attached nameOf start.1 start.2) {t : T}
    (had : start.1.isAttached t = true)
    (kept : ∀ early, early <+: later →
      (early.foldl Registry.serve start.1.subscribers).hasTopic t = true) :
    state.1.isAttached t = true := by
  induction run with
  | start => exact had
  | @serve past state run r stays ih =>
    have before := ih fun early shorter => kept early (shorter.trans (List.prefix_append past [r]))
    have now := kept (past ++ [r]) (List.prefix_refl _)
    rw [List.foldl_concat, ← run.subscribers attached] at now
    exact isAttached_serve (run.attached attached).isOpen nameOf codec _ before stays now
  | elsewhere run metrics after same ih => exact ih kept

/-- What holds of a broker, its hub and the registrations of its subscribers. -/
structure Attaches (nameOf : T → String) (codec : Codec M) (broker : MiddlewareBroker T S C)
    (hub : Hub (Inbound T)) (g : Registry T S C) : Prop where
  /-- Every topic that is there has a subscriber. -/
  occupied : ∀ t route, broker.routes.get? t = some route → route.channel.isEmpty = false
  /-- Whatever was refused, the topics and their subscribers are those that were registered. -/
  subscribers : broker.subscribers = g
  hasTopic : ∀ t, broker.hasTopic t = g.hasTopic t
  /-- The connection has no route but those of attached topics, each to its topic. -/
  routed : ∀ name handler, hub.route? name broker.link.connection.id = some handler →
    ∃ t, broker.isAttached t = true ∧ nameOf t = name ∧ handler = ⟨broker.node, t⟩
  /-- The connection is routed for the name of a topic exactly while the topic is attached. -/
  held : ∀ t, OwnName nameOf t →
    ((hub.route? (nameOf t) broker.link.connection.id).isSome = true ↔ broker.isAttached t = true)
  /-- A topic that is not attached asks for it once with every subscription, and is attached if the
  transport accepts. -/
  subscribing : ∀ t, broker.isAttached t = false → ∀ s callback,
    broker.Asks nameOf codec (.subscribe t s callback) [broker.attachment nameOf t] ∧
    (broker.serve nameOf codec hub (.subscribe t s callback)).1.isAttached t =
      (broker.link.subscribe hub (nameOf t) ⟨broker.node, t⟩).1.isOk
  /-- With every publication too, if it has subscribers. -/
  publishing : ∀ t, broker.isAttached t = false → g.hasTopic t = true → ∀ message,
    broker.Asks nameOf codec (.publish t message)
      (broker.attachment nameOf t :: sending nameOf codec t message) ∧
    (broker.serve nameOf codec hub (.publish t message)).1.isAttached t =
      (broker.link.subscribe hub (nameOf t) ⟨broker.node, t⟩).1.isOk
  /-- Once attached, and until its last subscriber leaves, a topic stays attached, and no request
  asks for a subscription to it. -/
  settled : ∀ t, broker.isAttached t = true → ∀ later state,
    Run nameOf codec (broker, hub) later state →
    (∀ early, early <+: later → (early.foldl Registry.serve g).hasTopic t = true) →
    state.1.isAttached t = true ∧ ∀ r, r ≠ .close → ∃ asked, state.1.Asks nameOf codec r asked ∧
      ∀ name handler, .subscribe name handler ∈ asked →
        handler.topic ≠ t ∧ name = nameOf handler.topic
  /-- An unsubscription asks the transport to give up a topic exactly when the last subscriber of an
  attached topic leaves. -/
  leaving : ∀ t s, broker.Asks nameOf codec (.unsubscribe t s)
    (if broker.isAttached t && !(g.unsubscribe t s).hasTopic t
      then [.unsubscribe (nameOf t)] else [])

omit [DecidableEq S] in
/-- A broker on a fresh connection has nothing attached and nothing routed. -/
theorem attached_new (nameOf : T → String) (node : Nat) (uri : String) (kind : ChannelKind)
    {link : Link} (passes : ∀ answer ∈ link.refusals.unsubscribe, answer = none)
    {hub : Hub (Inbound T)} (fresh : ∀ name, hub.route? name link.connection.id = none) :
    Attached nameOf (.new node uri kind link : MiddlewareBroker T S C) hub where
  isOpen := rfl
  passes := passes
  occupied t route found := by
    have missing : (∅ : Table T (Route S C)).get? t = none := Table.get?_empty t
    cases missing.symm.trans found
  routed name handler found := by
    have missing : hub.route? name link.connection.id = none := fresh name
    cases missing.symm.trans found
  held t had _ := by
    have missing : (∅ : Table T (Route S C)).get? t = none := Table.get?_empty t
    cases (isAttached_of_missing missing).symm.trans had

theorem Attached.attaches {broker : MiddlewareBroker T S C} {hub : Hub (Inbound T)}
    (attached : Attached nameOf broker hub) (codec : Codec M) :
    Attaches nameOf codec broker hub broker.subscribers where
  occupied := attached.occupied
  subscribers := rfl
  hasTopic := attached.hasTopic
  routed := attached.routed
  held t own := by
    constructor
    · intro routed
      obtain ⟨handler, found⟩ := Option.isSome_iff_exists.mp routed
      obtain ⟨other, had, named, -⟩ := attached.routed _ _ found
      rw [← own other named, had]
    · intro had
      rw [attached.held t had own, Option.isSome_some]
  subscribing t unattached s callback := by
    have asked := asks_subscribe attached.isOpen nameOf codec t s callback
    rw [unattached] at asked
    exact ⟨asked, isAttached_subscribe attached.isOpen nameOf codec hub unattached s callback⟩
  publishing t unattached there message := by
    rw [← attached.hasTopic] at there
    have asked := asks_publish attached.isOpen nameOf codec t message
    rw [there, unattached] at asked
    exact ⟨asked, isAttached_publish attached.isOpen nameOf codec hub there unattached message⟩
  settled t had later state run kept := by
    have still := run.keeps attached had kept
    refine ⟨still, fun r stays => ?_⟩
    obtain ⟨asked, asks, waiting⟩ := asks_waiting (run.attached attached).isOpen nameOf codec stays
    refine ⟨asked, asks, fun name handler member => ?_⟩
    obtain ⟨unattached, named⟩ := waiting _ member name handler rfl
    refine ⟨?_, named⟩
    rintro rfl
    rw [still] at unattached
    contradiction
  leaving t s := asks_unsubscribe nameOf codec broker t s

/-- A broker that is alone on its connection holds one subscription of its transport for each
attached topic: in all that it comes to by subscriptions, unsubscriptions and publications, whatever
the transport answers to subscriptions and publications. -/
theorem attaches_run (nameOf : T → String) (codec : Codec M) (node : Nat) (uri : String)
    (kind : ChannelKind) (link : Link) (hub : Hub (Inbound T))
    (passes : ∀ answer ∈ link.refusals.unsubscribe, answer = none)
    (fresh : ∀ name, hub.route? name link.connection.id = none)
    (past : List (Request T S C M)) (state : MiddlewareBroker T S C × Hub (Inbound T))
    (run : Run nameOf codec (.new node uri kind link, hub) past state) :
    Attaches nameOf codec state.1 state.2 (past.foldl Registry.serve .empty) := by
  have start : Attached nameOf (.new node uri kind link : MiddlewareBroker T S C) hub :=
    attached_new nameOf node uri kind passes fresh
  have registered := run.subscribers start
  have none_yet : (new node uri kind link : MiddlewareBroker T S C).subscribers = .empty := by
    funext t
    exact subscribers_of_none (Table.get?_empty t)
  rw [none_yet] at registered
  rw [← registered]
  exact (run.attached start).attaches codec

/-- A first subscription that the transport refuses is made up for by the next publication. -/
theorem attaches_run_retried :
    let link : Link := ⟨⟨"town", 0⟩, { subscribe := [some (.transport "busy")] }⟩
    let hub : Hub (Inbound String) := .start "town"
    let codec : Codec ByteArray := ⟨.ok, .ok⟩
    let start : MiddlewareBroker String Nat Nat × Hub (Inbound String) :=
      (.new 0 "loopback://town" .concurrent link, hub)
    let waiting := start.1.serve id codec hub (.subscribe "news" 1 10)
    let settled := waiting.1.serve id codec waiting.2 (.publish "news" .empty)
    (∀ answer ∈ link.refusals.unsubscribe, answer = none) ∧
    (∀ name, hub.route? name link.connection.id = none) ∧
    Run id codec start [.subscribe "news" 1 10, .publish "news" .empty] settled ∧
    (waiting.1.isAttached "news", settled.1.isAttached "news") = (false, true) ∧
    (settled.2.route? "news" 0).isSome = true ∧
    Attaches id codec settled.1 settled.2 (Registry.empty.subscribe "news" 1 10) := by
  intro link hub codec start waiting settled
  have passes : ∀ answer ∈ link.refusals.unsubscribe, answer = none := by
    intro answer member
    contradiction
  have fresh : ∀ name, hub.route? name link.connection.id = none := fun _ => rfl
  have subscribed : Run id codec start [.subscribe "news" 1 10] waiting :=
    Run.serve .start (.subscribe "news" 1 10) nofun
  have run : Run id codec start [.subscribe "news" 1 10, .publish "news" .empty] settled :=
    Run.serve subscribed (.publish "news" .empty) nofun
  have attaches := attaches_run id codec 0 "loopback://town" .concurrent link hub passes fresh _ _ run
  have attached : settled.1.isAttached "news" = true := rfl
  have alone : OwnName id "news" := fun _ same => same
  exact ⟨passes, fresh, run, rfl, (attaches.held "news" alone).mpr attached, attaches⟩

end MiddlewareBroker

end Vicinity

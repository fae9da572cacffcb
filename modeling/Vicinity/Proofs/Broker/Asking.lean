import Mathlib.Logic.Function.Basic
import Vicinity.Proofs.Broker.Middleware

/-! # What a broker asks of its transport

A broker subscribes its transport to a topic that gets its first subscriber, and tries again with
every subscription and publication for as long as the transport refuses.

What a request asks of the transport cannot be seen in the state alone, so it is read off what the
request does to links and hubs: `Asks` gives the list of what is asked when, for all answers and for
all hubs, the request leaves the link and the hub as that list leaves them. A transport uses up one
answer whenever it is asked, so nothing is asked that the list does not name.
-/

namespace Vicinity

variable {T S C M H : Type}

/-! ## Asking a transport -/

/-- What can be asked of a transport. -/
inductive LinkRequest (H : Type) where
  | subscribe (topic : String) (handler : H)
  | unsubscribe (topic : String)
  | publish (topic : String) (payload : ByteArray)

namespace Link

/-- The link and the hub after a request, whatever the answer is. -/
def ask (state : Link × Hub H) : LinkRequest H → Link × Hub H
  | .subscribe topic handler => (state.1.subscribe state.2 topic handler).2
  | .unsubscribe topic => (state.1.unsubscribe state.2 topic).2
  | .publish topic payload => (state.1.publish state.2 topic payload).2

def askAll (state : Link × Hub H) (requests : List (LinkRequest H)) : Link × Hub H :=
  requests.foldl ask state

/-- A link keeps its connection whatever it is asked. -/
theorem connection_ask (state : Link × Hub H) (request : LinkRequest H) :
    (ask state request).1.connection = state.1.connection := by
  cases request with
  | subscribe topic handler =>
    dsimp only [ask, subscribe]
    split <;> rfl
  | unsubscribe topic =>
    dsimp only [ask, unsubscribe]
    split <;> rfl
  | publish topic payload =>
    dsimp only [ask, publish]
    split
    · rfl
    · split <;> rfl

theorem connection_askAll (state : Link × Hub H) (requests : List (LinkRequest H)) :
    (askAll state requests).1.connection = state.1.connection := by
  induction requests generalizing state with
  | nil => rfl
  | cons request rest ih => exact (ih _).trans (connection_ask state request)

/-- One link is another one later on: it has the same connection, and what it has in store for
unsubscriptions comes from there. -/
structure Later (before after : Link) : Prop where
  connection : after.connection = before.connection
  leaving : after.refusals.unsubscribe ⊆ before.refusals.unsubscribe

theorem later_refl (link : Link) : link.Later link := ⟨rfl, List.Subset.refl _⟩

/-- A subscription is refused, or the hub gets the route. -/
theorem subscribe_cases (link : Link) (hub : Hub H) (topic : String) (handler : H) :
    ∃ next, link.Later next ∧
      ((∃ e, link.subscribe hub topic handler = (.error e, next, hub)) ∨
        link.subscribe hub topic handler =
          (.ok (), next, hub.subscribe link.connection.id topic handler)) := by
  cases taken : Refusals.take link.refusals.subscribe with
  | mk refusal rest =>
    refine ⟨{ link with refusals := { link.refusals with subscribe := rest } },
      ⟨rfl, List.Subset.refl _⟩, ?_⟩
    simp only [subscribe, taken]
    cases refusal with
    | some e => exact .inl ⟨e, rfl⟩
    | none => exact .inr rfl

/-- An unsubscription is passed on if nothing but passing on is in store. -/
theorem unsubscribe_passed {link : Link} (passes : ∀ answer ∈ link.refusals.unsubscribe, answer = none)
    (hub : Hub H) (topic : String) :
    ∃ next, link.Later next ∧
      link.unsubscribe hub topic = (.ok (), next, hub.unsubscribe link.connection.id topic) := by
  obtain ⟨connection, subscribe, answers, publish, close⟩ := link
  cases answers with
  | nil => exact ⟨_, later_refl _, rfl⟩
  | cons answer rest =>
    obtain rfl : answer = none := passes answer (List.mem_cons_self ..)
    have shorter : rest ⊆ none :: rest := List.subset_cons_self none rest
    exact ⟨⟨connection, subscribe, rest, publish, close⟩, ⟨rfl, shorter⟩, rfl⟩

/-- A hub keeps its routes when it accepts an entry. -/
theorem routes_of_publish {hub sent : Hub H} {topic : String} {payload : ByteArray}
    (accepted : hub.publish topic payload = .ok sent) : sent.routes = hub.routes := by
  rw [Hub.publish, Hub.send] at accepted
  split at accepted
  · cases accepted
    rfl
  · contradiction

/-- A publication leaves every route as it is, also when it fails. -/
theorem publish_later (link : Link) (hub : Hub H) (topic : String) (payload : ByteArray) :
    link.Later (link.publish hub topic payload).2.1 ∧
      (link.publish hub topic payload).2.2.routes = hub.routes := by
  cases taken : Refusals.take link.refusals.publish with
  | mk refusal rest =>
    have later : link.Later { link with refusals := { link.refusals with publish := rest } } :=
      ⟨rfl, List.Subset.refl _⟩
    simp only [publish, taken]
    cases refusal with
    | some e => exact ⟨later, rfl⟩
    | none =>
      cases accepted : hub.publish topic payload with
      | error e => exact ⟨later, rfl⟩
      | ok sent => exact ⟨later, routes_of_publish accepted⟩

end Link

namespace MiddlewareBroker

/-! ## What a broker asks -/

variable [DecidableEq T]

/-- Whether a topic has local subscribers and the transport is subscribed to it. -/
def isAttached (broker : MiddlewareBroker T S C) (t : T) : Bool :=
  (broker.routes.get? t).any Route.attached

/-- The request with which a broker attaches a topic. -/
def attachment (nameOf : T → String) (broker : MiddlewareBroker T S C) (t : T) :
    LinkRequest (Inbound T) :=
  .subscribe (nameOf t) ⟨broker.node, t⟩

/-- The requests with which a broker sends a message. -/
def sending (nameOf : T → String) (codec : Codec M) (t : T) (message : M) :
    List (LinkRequest (Inbound T)) :=
  match codec.encode message with
  | .error _ => []
  | .ok payload => [.publish (nameOf t) payload]

/-- Try to attach a topic that has subscribers. -/
def reattach (nameOf : T → String) (broker : MiddlewareBroker T S C) (hub : Hub (Inbound T)) (t : T) :
    MiddlewareBroker T S C × Hub (Inbound T) :=
  match broker.routes.get? t with
  | some route => broker.attachRoute nameOf hub t route
  | none => (broker, hub)

omit [DecidableEq T] in
/-- Send a message and count it. -/
def send (nameOf : T → String) (codec : Codec M) (broker : MiddlewareBroker T S C)
    (hub : Hub (Inbound T)) (t : T) (message : M) : MiddlewareBroker T S C × Hub (Inbound T) :=
  match codec.encode message with
  | .error _ => ({ broker with metrics := broker.metrics.recordPublish none }, hub)
  | .ok payload =>
    match broker.link.publish hub (nameOf t) payload with
    | (.ok (), link, next) => ({ broker with link, metrics := broker.metrics.recordSent }, next)
    | (.error _, link, next) =>
      ({ broker with link, metrics := broker.metrics.recordPublish none }, next)

omit [DecidableEq T] in
theorem send_cases (nameOf : T → String) (codec : Codec M) (broker : MiddlewareBroker T S C)
    (hub : Hub (Inbound T)) (t : T) (message : M) :
    let sent := Link.askAll (broker.link, hub) (sending nameOf codec t message)
    ∃ metrics, broker.send nameOf codec hub t message =
      ({ broker with link := sent.1, metrics }, sent.2) := by
  rw [send, sending]
  cases codec.encode message with
  | error e => exact ⟨_, rfl⟩
  | ok payload =>
    dsimp only [Link.askAll, List.foldl_cons, List.foldl_nil, Link.ask]
    split
    · next sent => exact ⟨_, by rw [sent]⟩
    · next refused => exact ⟨_, by rw [refused]⟩

/-- An open broker publishes by attaching the topic first and sending the message then. -/
theorem publish_eq {broker : MiddlewareBroker T S C} (isOpen : broker.closed = false)
    (nameOf : T → String) (codec : Codec M) (hub : Hub (Inbound T)) (t : T) (message : M) :
    broker.publish nameOf codec hub t message =
      let ready := broker.reattach nameOf hub t
      ready.1.send nameOf codec ready.2 t message := by
  have shut : ¬ broker.closed = true := by rw [isOpen]; exact Bool.false_ne_true
  rw [publish, if_neg shut, reattach]
  cases broker.routes.get? t with
  | none => rfl
  | some route => rfl

omit [DecidableEq T] in
/-- An unattached route is attached if the transport says so. -/
theorem attach_eq (nameOf : T → String) (broker : MiddlewareBroker T S C) (hub : Hub (Inbound T))
    (t : T) {route : Route S C} (unattached : route.attached = false) :
    broker.attach nameOf hub t route =
      let asked := broker.link.subscribe hub (nameOf t) ⟨broker.node, t⟩
      (⟨route.channel, asked.1.isOk⟩, asked.2) := by
  obtain ⟨channel, attached⟩ := route
  obtain rfl : attached = false := unattached
  rw [attach, if_neg Bool.false_ne_true]
  split
  · next accepted => rw [accepted]; rfl
  · next refused => rw [refused]; rfl

theorem attachRoute_of_attached (nameOf : T → String) (broker : MiddlewareBroker T S C)
    (hub : Hub (Inbound T)) (t : T) {route : Route S C} (attached : route.attached = true) :
    broker.attachRoute nameOf hub t route =
      ({ broker with routes := broker.routes.insert t route }, hub) := by
  rw [attachRoute, attach, if_pos attached]

theorem attachRoute_of_unattached (nameOf : T → String) (broker : MiddlewareBroker T S C)
    (hub : Hub (Inbound T)) (t : T) {route : Route S C} (unattached : route.attached = false) :
    broker.attachRoute nameOf hub t route =
      let asked := broker.link.subscribe hub (nameOf t) ⟨broker.node, t⟩
      ({ broker with
        link := asked.2.1
        routes := broker.routes.insert t ⟨route.channel, asked.1.isOk⟩ }, asked.2.2) := by
  rw [attachRoute, attach_eq nameOf broker hub t unattached]

/-- Storing a route asks the transport once, unless the route is attached. -/
theorem attachRoute_asks (nameOf : T → String) (broker : MiddlewareBroker T S C)
    (hub : Hub (Inbound T)) (t : T) (route : Route S C) :
    ((broker.attachRoute nameOf hub t route).1.link, (broker.attachRoute nameOf hub t route).2) =
      Link.askAll (broker.link, hub) (if route.attached then [] else [broker.attachment nameOf t]) := by
  cases attached : route.attached with
  | true => rw [attachRoute_of_attached nameOf broker hub t attached]; rfl
  | false => rw [attachRoute_of_unattached nameOf broker hub t attached]; rfl

theorem isAttached_store (broker : MiddlewareBroker T S C) (link : Link) (t : T) (route : Route S C)
    (other : T) :
    { broker with link, routes := broker.routes.insert t route }.isAttached other =
      if other = t then route.attached else broker.isAttached other := by
  rw [isAttached, Table.get?_insert]
  split <;> rfl

theorem isAttached_drop (broker : MiddlewareBroker T S C) (link : Link) (t other : T) :
    { broker with link, routes := broker.routes.erase t }.isAttached other =
      if other = t then false else broker.isAttached other := by
  rw [isAttached, Table.get?_erase]
  split <;> rfl

theorem isAttached_of_get? {broker : MiddlewareBroker T S C} {t : T} {route : Route S C}
    (found : broker.routes.get? t = some route) : broker.isAttached t = route.attached := by
  rw [isAttached, found]
  rfl

theorem isAttached_of_missing {broker : MiddlewareBroker T S C} {t : T}
    (missing : broker.routes.get? t = none) : broker.isAttached t = false := by
  rw [isAttached, missing]
  rfl

variable [DecidableEq S]

/-- Serve a request at a hub. -/
def serve (nameOf : T → String) (codec : Codec M) (broker : MiddlewareBroker T S C)
    (hub : Hub (Inbound T)) : Request T S C M → MiddlewareBroker T S C × Hub (Inbound T)
  | .subscribe t s callback => broker.subscribe nameOf hub t s callback
  | .unsubscribe t s => broker.unsubscribe nameOf hub t s
  | .publish t message => broker.publish nameOf codec hub t message
  | .close => (broker.close hub).2

/-- To serve a request a broker asks its transport for all that is listed, and for nothing else:
whatever answers are in store and whatever the hub is, this is what becomes of them. -/
def Asks (nameOf : T → String) (codec : Codec M) (broker : MiddlewareBroker T S C)
    (r : Request T S C M) (asked : List (LinkRequest (Inbound T))) : Prop :=
  ∀ (refusals : Refusals) (hub : Hub (Inbound T)),
    let link : Link := ⟨broker.link.connection, refusals⟩
    let served := { broker with link }.serve nameOf codec hub r
    (served.1.link, served.2) = Link.askAll (link, hub) asked

/-- The route with which a subscription leaves a topic, before an attempt to attach it. -/
def joined (broker : MiddlewareBroker T S C) (t : T) (s : S) (callback : C) : Route S C :=
  let route := (broker.routes.get? t).getD ⟨.new broker.channelKind, false⟩
  { route with channel := (route.channel.subscribe s callback).2 }

theorem subscribe_eq {broker : MiddlewareBroker T S C} (isOpen : broker.closed = false)
    (nameOf : T → String) (hub : Hub (Inbound T)) (t : T) (s : S) (callback : C) :
    broker.subscribe nameOf hub t s callback =
      broker.attachRoute nameOf hub t (broker.joined t s callback) := by
  have shut : ¬ broker.closed = true := by rw [isOpen]; exact Bool.false_ne_true
  rw [subscribe, if_neg shut, joined]

theorem joined_attached (broker : MiddlewareBroker T S C) (t : T) (s : S) (callback : C) :
    (broker.joined t s callback).attached = broker.isAttached t := by
  rw [joined, isAttached]
  cases broker.routes.get? t <;> rfl

theorem joined_occupied (broker : MiddlewareBroker T S C) (t : T) (s : S) (callback : C) :
    (broker.joined t s callback).channel.isEmpty = false := by
  rw [joined, Channel.isEmpty_eq, Channel.subscribers_subscribe, Table.isEmpty_eq_false_iff]
  refine ⟨s, Option.isSome_iff_exists.mp ?_⟩
  rw [Table.get?_insertNew, if_pos rfl, Option.isSome_or, Option.isSome_some, Bool.or_true]

/-- A subscription asks for an attachment unless there is one. -/
theorem asks_subscribe {broker : MiddlewareBroker T S C} (isOpen : broker.closed = false)
    (nameOf : T → String) (codec : Codec M) (t : T) (s : S) (callback : C) :
    broker.Asks nameOf codec (.subscribe t s callback)
      (if broker.isAttached t then [] else [broker.attachment nameOf t]) := by
  intro refusals hub link
  have attached := joined_attached { broker with link } t s callback
  have asked := attachRoute_asks nameOf { broker with link } hub t
    (joined { broker with link } t s callback)
  rw [attached] at asked
  have still : { broker with link }.closed = false := isOpen
  dsimp only [serve]
  rw [subscribe_eq still]
  exact asked

/-- A publication asks for an attachment if its topic waits for one, and sends the message. -/
theorem asks_publish {broker : MiddlewareBroker T S C} (isOpen : broker.closed = false)
    (nameOf : T → String) (codec : Codec M) (t : T) (message : M) :
    broker.Asks nameOf codec (.publish t message)
      ((if broker.hasTopic t && !broker.isAttached t then [broker.attachment nameOf t] else []) ++
        sending nameOf codec t message) := by
  intro refusals hub link
  have ready : (({ broker with link }.reattach nameOf hub t).1.link,
      ({ broker with link }.reattach nameOf hub t).2) = Link.askAll (link, hub)
        (if broker.hasTopic t && !broker.isAttached t then [broker.attachment nameOf t] else []) := by
    rw [reattach, hasTopic, Table.contains]
    dsimp only
    cases found : broker.routes.get? t with
    | none => rfl
    | some route =>
      rw [isAttached_of_get? found]
      have asked := attachRoute_asks nameOf { broker with link } hub t route
      cases attached : route.attached <;> (rw [attached] at asked; exact asked)
  obtain ⟨metrics, sent⟩ := send_cases nameOf codec ({ broker with link }.reattach nameOf hub t).1
    ({ broker with link }.reattach nameOf hub t).2 t message
  have still : { broker with link }.closed = false := isOpen
  dsimp only [serve]
  rw [publish_eq still]
  dsimp only
  rw [sent, ready, Link.askAll, Link.askAll, Link.askAll, List.foldl_append]

/-- A topic goes away with its last subscriber. -/
theorem isEmpty_unsubscribe {broker : MiddlewareBroker T S C} {t : T} {route : Route S C}
    (found : broker.routes.get? t = some route) (s : S) :
    (route.channel.unsubscribe s).2.isEmpty = !(broker.subscribers.unsubscribe t s).hasTopic t := by
  rw [Registry.hasTopic, Registry.unsubscribe_apply, if_pos rfl, Bool.not_not,
    subscribers_of_some found, Channel.isEmpty_eq, Channel.subscribers_unsubscribe]

/-- An unsubscription asks the transport to leave a topic exactly when it is attached and has lost
its last subscriber. -/
theorem asks_unsubscribe (nameOf : T → String) (codec : Codec M) (broker : MiddlewareBroker T S C)
    (t : T) (s : S) :
    broker.Asks nameOf codec (.unsubscribe t s)
      (if broker.isAttached t && !(broker.subscribers.unsubscribe t s).hasTopic t
        then [.unsubscribe (nameOf t)] else []) := by
  intro refusals hub link
  dsimp only [serve]
  rw [unsubscribe]
  dsimp only
  cases found : broker.routes.get? t with
  | none =>
    rw [isAttached_of_missing found]
    rfl
  | some route =>
    rw [isAttached_of_get? found, ← isEmpty_unsubscribe found s]
    dsimp only
    cases (route.channel.unsubscribe s).2.isEmpty with
    | false => rw [Bool.and_false]; rfl
    | true => cases route.attached <;> rfl

/-! ## Asking for unattached topics -/

/-- A request of the transport, if it is a subscription, is one for an unattached topic. -/
def Waiting (nameOf : T → String) (broker : MiddlewareBroker T S C)
    (request : LinkRequest (Inbound T)) : Prop :=
  ∀ name handler, request = .subscribe name handler →
    broker.isAttached handler.topic = false ∧ name = nameOf handler.topic

omit [DecidableEq S] in
theorem waiting_attachment {nameOf : T → String} {broker : MiddlewareBroker T S C} {t : T}
    (unattached : broker.isAttached t = false) :
    broker.Waiting nameOf (broker.attachment nameOf t) := by
  intro name handler same
  cases same
  exact ⟨unattached, rfl⟩

omit [DecidableEq S] in
theorem waiting_sending (nameOf : T → String) (codec : Codec M) (broker : MiddlewareBroker T S C)
    (t : T) (message : M) :
    ∀ request ∈ sending nameOf codec t message, broker.Waiting nameOf request := by
  intro request member name handler same
  subst same
  rw [sending] at member
  cases encoded : codec.encode message with
  | error e =>
    rw [encoded] at member
    contradiction
  | ok payload =>
    rw [encoded] at member
    cases List.mem_singleton.mp member

/-- Whatever an open broker is asked to do, it subscribes its transport to unattached topics alone. -/
theorem asks_waiting {broker : MiddlewareBroker T S C} (isOpen : broker.closed = false)
    (nameOf : T → String) (codec : Codec M) {r : Request T S C M} (stays : r ≠ .close) :
    ∃ asked, broker.Asks nameOf codec r asked ∧ ∀ request ∈ asked, broker.Waiting nameOf request := by
  cases r with
  | subscribe t s callback =>
    refine ⟨_, asks_subscribe isOpen nameOf codec t s callback, fun request member => ?_⟩
    split at member
    · contradiction
    · next unattached =>
      obtain rfl := List.mem_singleton.mp member
      exact waiting_attachment (Bool.not_eq_true _ ▸ unattached)
  | unsubscribe t s =>
    refine ⟨_, asks_unsubscribe nameOf codec broker t s, fun request member => ?_⟩
    split at member
    · obtain rfl := List.mem_singleton.mp member
      intro name handler same
      contradiction
    · contradiction
  | publish t message =>
    refine ⟨_, asks_publish isOpen nameOf codec t message, fun request member => ?_⟩
    obtain first | sent := List.mem_append.mp member
    · split at first
      · next waits =>
        obtain rfl := List.mem_singleton.mp first
        exact waiting_attachment (Bool.not_eq_true' _ ▸ (Bool.and_eq_true_iff.mp waits).2)
      · contradiction
    · exact waiting_sending nameOf codec broker t message request sent
  | close => contradiction

theorem connection_serve {broker : MiddlewareBroker T S C} (isOpen : broker.closed = false)
    (nameOf : T → String) (codec : Codec M) (hub : Hub (Inbound T)) {r : Request T S C M}
    (stays : r ≠ .close) :
    (broker.serve nameOf codec hub r).1.link.connection = broker.link.connection := by
  obtain ⟨asked, asks, _⟩ := asks_waiting isOpen nameOf codec stays
  have left := congrArg Prod.fst (asks broker.link.refusals hub)
  exact (congrArg Link.connection left).trans (Link.connection_askAll _ asked)

theorem isAttached_subscribe {broker : MiddlewareBroker T S C} (isOpen : broker.closed = false)
    (nameOf : T → String) (codec : Codec M) (hub : Hub (Inbound T)) {t : T}
    (unattached : broker.isAttached t = false) (s : S) (callback : C) :
    (broker.serve nameOf codec hub (.subscribe t s callback)).1.isAttached t =
      (broker.link.subscribe hub (nameOf t) ⟨broker.node, t⟩).1.isOk := by
  have waits := (broker.joined_attached t s callback).trans unattached
  rw [serve, subscribe_eq isOpen, attachRoute_of_unattached nameOf broker hub t waits]
  dsimp only
  rw [isAttached_store, if_pos rfl]

omit [DecidableEq S] in
theorem isAttached_send (nameOf : T → String) (codec : Codec M) (broker : MiddlewareBroker T S C)
    (hub : Hub (Inbound T)) (t : T) (message : M) (other : T) :
    (broker.send nameOf codec hub t message).1.isAttached other = broker.isAttached other := by
  obtain ⟨metrics, sent⟩ := send_cases nameOf codec broker hub t message
  rw [sent]
  rfl

theorem isAttached_publish {broker : MiddlewareBroker T S C} (isOpen : broker.closed = false)
    (nameOf : T → String) (codec : Codec M) (hub : Hub (Inbound T)) {t : T}
    (there : broker.hasTopic t = true) (unattached : broker.isAttached t = false) (message : M) :
    (broker.serve nameOf codec hub (.publish t message)).1.isAttached t =
      (broker.link.subscribe hub (nameOf t) ⟨broker.node, t⟩).1.isOk := by
  obtain ⟨route, found⟩ := Option.isSome_iff_exists.mp there
  have waits := (isAttached_of_get? found).symm.trans unattached
  rw [serve, publish_eq isOpen]
  dsimp only
  rw [isAttached_send, reattach, found]
  dsimp only
  rw [attachRoute_of_unattached nameOf broker hub t waits]
  dsimp only
  rw [isAttached_store, if_pos rfl]

/-! ## Keeping an attachment -/

omit [DecidableEq S] in
/-- Storing a route for a topic leaves the attached topics attached. -/
theorem isAttached_attachRoute (nameOf : T → String) {broker : MiddlewareBroker T S C}
    (hub : Hub (Inbound T)) {t other : T} (had : broker.isAttached t = true) {route : Route S C}
    (same : route.attached = broker.isAttached other) :
    (broker.attachRoute nameOf hub other route).1.isAttached t = true := by
  cases held : route.attached with
  | true =>
    rw [attachRoute_of_attached nameOf broker hub other held, isAttached_store, held, had]
    exact ite_self _
  | false =>
    rw [attachRoute_of_unattached nameOf broker hub other held, isAttached_store, had]
    split
    · next own =>
      rw [held, ← own, had] at same
      contradiction
    · rfl

/-- An unsubscription leaves an attached topic attached unless the topic goes away with it. -/
theorem isAttached_unsubscribe (nameOf : T → String) {broker : MiddlewareBroker T S C}
    (hub : Hub (Inbound T)) {t other : T} {s : S} (had : broker.isAttached t = true)
    (kept : (broker.subscribers.unsubscribe other s).hasTopic t = true) :
    (broker.unsubscribe nameOf hub other s).1.isAttached t = true := by
  rw [unsubscribe]
  cases found : broker.routes.get? other with
  | none => exact had
  | some route =>
    have known := isAttached_of_get? found
    have left := isEmpty_unsubscribe found s
    dsimp only
    split
    · rw [isAttached_store]
      split
      · next own => rw [← known, ← own, had]
      · exact had
    · next gone =>
      have different : t ≠ other := by
        rintro rfl
        rw [left, kept] at gone
        contradiction
      split
      · rw [isAttached_drop, if_neg different, had]
      · rw [isAttached_drop, if_neg different, had]

/-- An attached topic stays attached as long as it has subscribers. -/
theorem isAttached_serve {broker : MiddlewareBroker T S C} (isOpen : broker.closed = false)
    (nameOf : T → String) (codec : Codec M) (hub : Hub (Inbound T)) {t : T}
    (had : broker.isAttached t = true) {r : Request T S C M} (stays : r ≠ .close)
    (kept : (broker.subscribers.serve r).hasTopic t = true) :
    (broker.serve nameOf codec hub r).1.isAttached t = true := by
  cases r with
  | subscribe other s callback =>
    rw [serve, subscribe_eq isOpen]
    exact isAttached_attachRoute nameOf hub had (broker.joined_attached other s callback)
  | unsubscribe other s => exact isAttached_unsubscribe nameOf hub had kept
  | publish other message =>
    rw [serve, publish_eq isOpen]
    dsimp only
    rw [isAttached_send, reattach]
    cases found : broker.routes.get? other with
    | none => exact had
    | some route => exact isAttached_attachRoute nameOf hub had (isAttached_of_get? found).symm
  | close => contradiction

end MiddlewareBroker

end Vicinity

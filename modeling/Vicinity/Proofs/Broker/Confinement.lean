import Vicinity.Proofs.Broker.Asking

/-! # What a middleware broker leaves alone

On a link that refuses nothing, whatever a broker is asked for, it stays the same node on the same
link and changes no route but those of its own connection. This holds for any names of topics, also
if several topics share one. A closed broker without topics changes nothing at all, except that it
counts a publication as dropped.
-/

namespace Vicinity

variable {T S C M H : Type}

/-- Sending a frame leaves a willing link and all routes as they are. -/
theorem Link.publish_beside {link : Link} (willing : link.refusals = {}) (hub : Hub H)
    (topic : String) (payload : ByteArray) (connection : Nat) :
    (link.publish hub topic payload).2.1 = link ∧
      hub.Beside connection (link.publish hub topic payload).2.2 := by
  cases sent : hub.publish topic payload with
  | ok next =>
    rw [Link.publish_willing willing sent, (Hub.eq_of_send sent).2]
    exact ⟨rfl, rfl, rfl, rfl, fun _ _ _ => rfl⟩
  | error e =>
    obtain ⟨own, refusals⟩ := link
    subst willing
    simp only [publish, Refusals.take, sent]
    exact ⟨trivial, hub.beside_refl connection⟩

namespace MiddlewareBroker

/-- A broker serves a request within its own connection. -/
structure Confined (broker : MiddlewareBroker T S C) (hub : Hub (Inbound T))
    (after : MiddlewareBroker T S C × Hub (Inbound T)) : Prop where
  node : after.1.node = broker.node
  link : after.1.link = broker.link
  beside : hub.Beside broker.link.connection.id after.2

theorem confined_refl (broker : MiddlewareBroker T S C) (hub : Hub (Inbound T)) :
    broker.Confined hub (broker, hub) :=
  ⟨rfl, rfl, hub.beside_refl _⟩

variable {broker : MiddlewareBroker T S C} {hub : Hub (Inbound T)}

theorem Confined.trans {between after : MiddlewareBroker T S C × Hub (Inbound T)}
    (first : broker.Confined hub between) (second : between.1.Confined between.2 after) :
    broker.Confined hub after where
  node := second.node.trans first.node
  link := second.link.trans first.link
  beside := first.beside.trans (first.link ▸ second.beside)

/-! ## Requests on a willing link -/

theorem confined_close (willing : broker.link.refusals = {}) :
    broker.Confined hub (broker.close hub).2 := by
  rw [close]
  split
  · exact broker.confined_refl hub
  · rw [Link.close_willing willing]
    exact ⟨rfl, rfl, hub.beside_detach _⟩

theorem answer_close (willing : broker.link.refusals = {}) (hub : Hub (Inbound T)) :
    (broker.close hub).1 = .ok () := by
  rw [close]
  split
  · rfl
  · rw [Link.close_willing willing]

variable [DecidableEq T]

theorem confined_attachRoute (willing : broker.link.refusals = {}) (nameOf : T → String) (t : T)
    (route : Route S C) : broker.Confined hub (broker.attachRoute nameOf hub t route) := by
  rw [attachRoute, attach_willing nameOf willing]
  dsimp only
  split
  · exact ⟨rfl, rfl, hub.beside_refl _⟩
  · exact ⟨rfl, rfl, hub.beside_subscribe _ _ _⟩

theorem confined_reattach (willing : broker.link.refusals = {}) (nameOf : T → String) (t : T) :
    broker.Confined hub (broker.reattach nameOf hub t) := by
  rw [reattach]
  split
  · exact confined_attachRoute willing nameOf t _
  · exact broker.confined_refl hub

omit [DecidableEq T] in
theorem confined_send (willing : broker.link.refusals = {}) (nameOf : T → String) (codec : Codec M)
    (t : T) (message : M) : broker.Confined hub (broker.send nameOf codec hub t message) := by
  rw [send]
  cases codec.encode message with
  | error e => exact ⟨rfl, rfl, hub.beside_refl _⟩
  | ok payload =>
    have sent := Link.publish_beside willing hub (nameOf t) payload broker.link.connection.id
    dsimp only
    split
    · next answer =>
      rw [answer] at sent
      exact ⟨rfl, sent.1, sent.2⟩
    · next answer =>
      rw [answer] at sent
      exact ⟨rfl, sent.1, sent.2⟩

theorem confined_publish (willing : broker.link.refusals = {}) (nameOf : T → String) (codec : Codec M)
    (t : T) (message : M) : broker.Confined hub (broker.publish nameOf codec hub t message) := by
  cases closed : broker.closed with
  | true =>
    rw [publish, if_pos closed]
    exact ⟨rfl, rfl, hub.beside_refl _⟩
  | false =>
    have tried : broker.Confined hub (broker.reattach nameOf hub t) :=
      confined_reattach willing nameOf t
    rw [publish_eq closed]
    exact tried.trans (confined_send (tried.link ▸ willing) nameOf codec t message)

variable [DecidableEq S]

theorem confined_unsubscribe (willing : broker.link.refusals = {}) (nameOf : T → String) (t : T)
    (s : S) : broker.Confined hub (broker.unsubscribe nameOf hub t s) := by
  rw [unsubscribe]
  split
  · exact broker.confined_refl hub
  · dsimp only
    split
    · exact ⟨rfl, rfl, hub.beside_refl _⟩
    · split
      · rw [Link.unsubscribe_willing willing]
        exact ⟨rfl, rfl, hub.beside_unsubscribe _ _⟩
      · exact ⟨rfl, rfl, hub.beside_refl _⟩

/-- Whatever it is asked for, a broker stays on its connection. -/
theorem confined_serve (willing : broker.link.refusals = {}) (hub : Hub (Inbound T))
    (nameOf : T → String) (codec : Codec M) (r : Request T S C M) :
    broker.Confined hub (broker.serve nameOf codec hub r) := by
  cases r with
  | publish t message => exact confined_publish willing nameOf codec t message
  | unsubscribe t s => exact confined_unsubscribe willing nameOf t s
  | close => exact confined_close willing
  | subscribe t s callback =>
    rw [serve, subscribe]
    split
    · exact broker.confined_refl hub
    · exact confined_attachRoute willing nameOf t _

/-- A request registers no callback but the one it brings. -/
theorem get?_subscribers_serve (nameOf : T → String) (codec : Codec M) (r : Request T S C M) {t : T}
    {s : S} {callback : C}
    (found : ((broker.serve nameOf codec hub r).1.subscribers t).get? s = some callback) :
    (broker.subscribers t).get? s = some callback ∨ r = .subscribe t s callback := by
  cases r with
  | publish topic message =>
    rw [serve, subscribers_publish] at found
    exact .inl found
  | unsubscribe topic own =>
    rw [serve, subscribers_unsubscribe, Registry.get?_unsubscribe] at found
    split at found
    · contradiction
    · exact .inl found
  | subscribe topic own brought =>
    cases closed : broker.closed with
    | true =>
      rw [serve, subscribe, if_pos closed] at found
      exact .inl found
    | false =>
      rw [serve, subscribers_subscribe nameOf broker hub closed, Registry.get?_subscribe,
        Option.or_eq_some_iff] at found
      rcases found with before | ⟨-, now⟩
      · exact .inl before
      · split at now
        · next both =>
          cases now
          rw [both.1, both.2]
          exact .inr rfl
        · contradiction
  | close =>
    cases closed : broker.closed with
    | true =>
      rw [serve, close, if_pos closed] at found
      exact .inl found
    | false =>
      rw [serve, subscribers_close broker hub closed] at found
      contradiction

/-! ## Brokers that are closed -/

/-- A closed broker has no topics, and its connection has no routes. -/
structure Shut (broker : MiddlewareBroker T S C) (hub : Hub (Inbound T)) : Prop where
  routes : broker.routes = ∅
  unrouted : ∀ topic, hub.route? topic broker.link.connection.id = none

/-- What a closed broker still does is to count publications as dropped. -/
theorem serve_of_closed (closed : broker.closed = true) (shut : broker.Shut hub)
    (nameOf : T → String) (codec : Codec M) (r : Request T S C M) :
    broker.serve nameOf codec hub r =
      match r with
      | .publish _ _ => ({ broker with metrics := broker.metrics.recordPublish none }, hub)
      | _ => (broker, hub) := by
  cases r with
  | publish t message => exact if_pos closed
  | subscribe t s callback => exact if_pos closed
  | unsubscribe t s =>
    rw [serve, unsubscribe, shut.routes]
    rfl
  | close => rw [serve, close, if_pos closed]

/-- Only closing closes a broker, and it takes the routes of the connection away. -/
theorem shut_serve_of_open (willing : broker.link.refusals = {}) (isOpen : broker.closed = false)
    (nameOf : T → String) (codec : Codec M) {r : Request T S C M}
    (closed : (broker.serve nameOf codec hub r).1.closed = true) :
    (broker.serve nameOf codec hub r).1.Shut (broker.serve nameOf codec hub r).2 := by
  cases r with
  | publish t message =>
    rw [serve, closed_publish, isOpen] at closed
    contradiction
  | subscribe t s callback =>
    rw [serve, closed_subscribe, isOpen] at closed
    contradiction
  | unsubscribe t s =>
    rw [serve, closed_unsubscribe, isOpen] at closed
    contradiction
  | close =>
    rw [serve, close, isOpen, if_neg Bool.false_ne_true, Link.close_willing willing]
    constructor
    case routes => rfl
    case unrouted =>
      intro topic
      exact (hub.route?_detach ..).trans (if_pos rfl)

theorem shut_serve (willing : broker.link.refusals = {}) (shut : broker.closed = true → broker.Shut hub)
    (nameOf : T → String) (codec : Codec M) (r : Request T S C M)
    (closed : (broker.serve nameOf codec hub r).1.closed = true) :
    (broker.serve nameOf codec hub r).1.Shut (broker.serve nameOf codec hub r).2 := by
  cases already : broker.closed with
  | false => exact shut_serve_of_open willing already nameOf codec closed
  | true =>
    obtain ⟨routes, unrouted⟩ := shut already
    rw [serve_of_closed already ⟨routes, unrouted⟩]
    split
    · exact ⟨routes, unrouted⟩
    · exact ⟨routes, unrouted⟩

end MiddlewareBroker

end Vicinity

import Vicinity.Proofs.Broker.Asking
import Vicinity.Proofs.Broker.InProcess

/-! # What becomes of publications

A publication inside the process is heard by the subscribers that the topic has, or by no one. One
that goes over a transport is sent, unless the broker is closed, the message cannot be encoded or the
transport refuses the frame. Each of these is known from the state in which a broker is asked to
publish, and a broker counts its publications by them.
-/

namespace Vicinity

variable {T S C M H : Type}

/-- What becomes of a publication. -/
inductive Fate where
  | unheard
  | heard (audience : Nat)
  | closed
  | unencodable
  | refused
  | sent
deriving DecidableEq, Repr

namespace Fate

/-- Whether a publication comes to nothing. -/
def isDropped : Fate → Bool
  | unheard | closed | unencodable | refused => true
  | heard _ | sent => false

/-- How many callbacks a publication calls itself. -/
def audience : Fate → Nat
  | heard audience => audience
  | unheard | closed | unencodable | refused | sent => 0

end Fate

namespace BrokerMetrics

/-- Counters after further events that were counted apart. -/
def plus (m further : BrokerMetrics) : BrokerMetrics :=
  ⟨m.published + further.published, m.dropped + further.dropped, m.delivered + further.delivered,
    m.failed + further.failed⟩

theorem plus_zero (m : BrokerMetrics) : m.plus zero = m := by
  simp [plus, zero]

theorem zero_plus (m : BrokerMetrics) : zero.plus m = m := by
  simp [plus, zero]

theorem plus_assoc (m further rest : BrokerMetrics) :
    (m.plus further).plus rest = m.plus (further.plus rest) := by
  simp [plus, UInt64.add_assoc]

/-- The counters of one publication, less its deliveries. -/
def ofFate (fate : Fate) : BrokerMetrics := ⟨1, if fate.isDropped then 1 else 0, 0, 0⟩

/-- The counters of one round of calls. -/
def ofReport (report : DeliveryReport) : BrokerMetrics :=
  ⟨0, 0, .ofNat report.delivered, .ofNat report.failed⟩

theorem recordDelivery_eq (m : BrokerMetrics) (report : DeliveryReport) :
    m.recordDelivery report = m.plus (ofReport report) := by
  simp [recordDelivery, plus, ofReport]

theorem recordSent_eq (m : BrokerMetrics) : m.recordSent = m.plus (ofFate .sent) := by
  simp [recordSent, plus, ofFate, Fate.isDropped]

theorem recordPublish_none_eq (m : BrokerMetrics) {fate : Fate} (dropped : fate.isDropped = true) :
    m.recordPublish none = m.plus (ofFate fate) := by
  simp [recordPublish, recordSent, plus, ofFate, dropped]

theorem recordPublish_some_eq (m : BrokerMetrics) (audience : Nat) (report : DeliveryReport) :
    m.recordPublish (some report) =
      (m.plus (ofFate (.heard audience))).plus (ofReport report) := by
  rw [recordPublish, recordDelivery_eq, recordSent_eq]
  rfl

end BrokerMetrics

/-! ## Inside the process -/

namespace InProcessBroker

variable [DecidableEq T] [Hashable T]

/-- What becomes of a publication on a topic. -/
def fate (broker : InProcessBroker T S C) (t : T) : Fate :=
  if (broker.subscribers t).isEmpty then .unheard else .heard (broker.subscribers t).values.length

/-- A publication on a topic without a channel is unheard. -/
theorem fate_of_missing {broker : InProcessBroker T S C} {t : T}
    (missing : broker.channel? t = none) : broker.fate t = .unheard := by
  have blank : broker.subscribers t = ∅ := by
    rw [subscribers, missing]
    rfl
  rw [fate, blank]
  rfl

/-- A channel has subscribers, and they hear what is published on it. -/
theorem fate_of_channel {broker : InProcessBroker T S C} {g : Registry T S C}
    (holds : broker.Holds g) {t : T} {channel : Channel S C}
    (found : broker.channel? t = some channel) :
    broker.subscribers t = channel.subscribers ∧
      broker.fate t = .heard (broker.subscribers t).values.length := by
  have same : broker.subscribers t = channel.subscribers := by
    rw [subscribers, found]
    rfl
  have occupied : (broker.subscribers t).isEmpty = false := by
    rw [same, ← Channel.isEmpty_eq]
    exact holds.occupied t channel found
  refine ⟨same, ?_⟩
  rw [fate, occupied, if_neg Bool.false_ne_true]

end InProcessBroker

/-! ## Over a transport -/

namespace Link

/-- What a link answers to a publication depends on what it has in store for publications and on
whether the hub accepts entries. -/
theorem publish_fst_congr {link other : Link} {hub next : Hub H}
    (store : other.refusals.publish = link.refusals.publish)
    (accepting : next.accepting = hub.accepting) (alive : next.alive = hub.alive)
    (topic : String) (payload : ByteArray) :
    (other.publish next topic payload).1 = (link.publish hub topic payload).1 := by
  simp only [publish, store]
  cases (Refusals.take link.refusals.publish).1 with
  | some e => rfl
  | none =>
    simp only [Hub.publish, Hub.send, accepting, alive]
    cases hub.accepting && hub.alive <;> rfl

end Link

namespace MiddlewareBroker

/-- What becomes of a publication at a hub. -/
def fate (nameOf : T → String) (codec : Codec M) (broker : MiddlewareBroker T S C)
    (hub : Hub (Inbound T)) (t : T) (message : M) : Fate :=
  if broker.closed then .closed
  else
    match codec.encode message with
    | .error _ => .unencodable
    | .ok payload =>
      match (broker.link.publish hub (nameOf t) payload).1 with
      | .error _ => .refused
      | .ok () => .sent

variable [DecidableEq T]

/-- An attempt to attach a topic leaves what decides about publications as it was. -/
theorem reattach_keeps (nameOf : T → String) (broker : MiddlewareBroker T S C)
    (hub : Hub (Inbound T)) (t : T) :
    let ready := broker.reattach nameOf hub t
    ready.1.metrics = broker.metrics ∧ ready.1.closed = broker.closed ∧
      ready.1.link.refusals.publish = broker.link.refusals.publish ∧
      ready.2.accepting = hub.accepting ∧ ready.2.alive = hub.alive := by
  dsimp only [reattach]
  cases broker.routes.get? t with
  | none => exact ⟨rfl, rfl, rfl, rfl, rfl⟩
  | some route =>
    dsimp only
    cases attached : route.attached with
    | true =>
      rw [attachRoute_of_attached nameOf broker hub t attached]
      exact ⟨rfl, rfl, rfl, rfl, rfl⟩
    | false =>
      rw [attachRoute_of_unattached nameOf broker hub t attached]
      dsimp only [Link.subscribe]
      split <;> exact ⟨rfl, rfl, rfl, rfl, rfl⟩

theorem fate_reattach (nameOf : T → String) (codec : Codec M) (broker : MiddlewareBroker T S C)
    (hub : Hub (Inbound T)) (t : T) (message : M) :
    (broker.reattach nameOf hub t).1.fate nameOf codec (broker.reattach nameOf hub t).2 t message =
      broker.fate nameOf codec hub t message := by
  obtain ⟨-, closed, store, accepting, alive⟩ := reattach_keeps nameOf broker hub t
  simp only [fate, closed, Link.publish_fst_congr store accepting alive]

omit [DecidableEq T] in
theorem metrics_send (nameOf : T → String) (codec : Codec M) {broker : MiddlewareBroker T S C}
    (isOpen : broker.closed = false) (hub : Hub (Inbound T)) (t : T) (message : M) :
    (broker.send nameOf codec hub t message).1.metrics =
      broker.metrics.plus (.ofFate (broker.fate nameOf codec hub t message)) := by
  rw [send, fate, isOpen, if_neg Bool.false_ne_true]
  cases codec.encode message with
  | error e => exact BrokerMetrics.recordPublish_none_eq _ rfl
  | ok payload =>
    dsimp only
    rcases broker.link.publish hub (nameOf t) payload with ⟨_ | _, link, next⟩
    · exact BrokerMetrics.recordPublish_none_eq _ rfl
    · exact BrokerMetrics.recordSent_eq _

/-- A publication is counted by what becomes of it. -/
theorem metrics_publish (nameOf : T → String) (codec : Codec M) (broker : MiddlewareBroker T S C)
    (hub : Hub (Inbound T)) (t : T) (message : M) :
    (broker.publish nameOf codec hub t message).1.metrics =
      broker.metrics.plus (.ofFate (broker.fate nameOf codec hub t message)) := by
  cases closed : broker.closed with
  | true =>
    rw [publish, if_pos closed, fate, if_pos closed]
    exact BrokerMetrics.recordPublish_none_eq _ rfl
  | false =>
    obtain ⟨metrics, still, -⟩ := reattach_keeps nameOf broker hub t
    rw [publish_eq closed]
    dsimp only
    rw [metrics_send nameOf codec (still.trans closed), metrics, fate_reattach]

variable [DecidableEq S]

theorem metrics_subscribe (nameOf : T → String) (broker : MiddlewareBroker T S C)
    (hub : Hub (Inbound T)) (t : T) (s : S) (callback : C) :
    (broker.subscribe nameOf hub t s callback).1.metrics = broker.metrics := by
  rw [subscribe]
  split <;> rfl

theorem metrics_unsubscribe (nameOf : T → String) (broker : MiddlewareBroker T S C)
    (hub : Hub (Inbound T)) (t : T) (s : S) :
    (broker.unsubscribe nameOf hub t s).1.metrics = broker.metrics := by
  rw [unsubscribe]
  split
  · rfl
  · dsimp only
    split
    · rfl
    · split <;> rfl

omit [DecidableEq T] [DecidableEq S] in
theorem metrics_close (broker : MiddlewareBroker T S C) (hub : Hub (Inbound T)) :
    (broker.close hub).2.1.metrics = broker.metrics := by
  rw [close]
  split <;> rfl

end MiddlewareBroker

end Vicinity

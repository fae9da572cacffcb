import Vicinity.Interest.Filter
import Vicinity.Interest.Policy
import Vicinity.Network.Basic

/-! # Messaging systems

A messaging system keeps the subscriptions of its subscribers in step with their interest. It
remembers for every subscriber the topics it is subscribed to; an update asks the policy which
topics the subscriber wants now and asks the broker for the difference only, so that a topic that
stays keeps the callback with which it came. A broadcast asks the policy where a publisher speaks
and publishes to each of these topics.

What is registered with the broker is the callback together with the subscriber as it was at the
update that registered it, and the filter is asked about that subscriber.
-/

namespace Vicinity

/-- The topics of every subscriber that has some. -/
abbrev Interests (S T : Type) := Table S (TopicSet T)

namespace Interests

variable {S T C M : Type} [DecidableEq S]

/-- The topics a subscriber is subscribed to, perhaps none. -/
def held (interests : Interests S T) (s : S) : TopicSet T := (interests.get? s).getD ∅

/-- Remember what a subscriber wants; one that wants nothing is forgotten. -/
def remember (interests : Interests S T) (s : S) (wanted : TopicSet T) : Interests S T :=
  if wanted.isEmpty then interests.erase s else interests.insert s wanted

variable [DecidableEq T]

omit [DecidableEq S] in
/-- What to ask of the broker when a subscriber's topics change: first to leave the topics that are
no longer wanted, then to join those that are new. -/
def changes (s : S) (held wanted : TopicSet T) (callback : C) : List (Request T S C M) :=
  (held.diff wanted).map (fun t => .unsubscribe t s) ++
    (wanted.diff held).map (fun t => .subscribe t s callback)

end Interests

/-- A callback with the subscriber as it was when the callback was registered. -/
structure Registered (V U : Type) where
  owner : V
  callback : U
deriving Repr, Inhabited

/-- The fixed parts of a system: how its broker speaks, by what its subscribers are told apart,
which messages reach them, and what their callbacks do, which is to act on a journal of their
own. -/
structure Deployment (V S T M U J : Type) where
  wire : Wire T M
  keyOf : V → S
  filter : Filter V M
  run : V → U → M → J → Outcome × J

/-- The changing parts of a system: the interests it remembers, and its broker, which is the only
node of a network. -/
structure MessagingSystem (V S T U J : Type) where
  interests : Interests S T
  network : Network T S (Registered V U) J

namespace Deployment

variable {V S T M U J : Type}

/-- What the broker calls: the callback, unless the filter rejects the message. -/
def call (d : Deployment V S T M U J) : Network.Call T S (Registered V U) J M :=
  fun registered message w =>
    if d.filter registered.owner message then
      let (outcome, journal) := d.run registered.owner registered.callback message w.journal
      (outcome, { w with journal })
    else (.returned, w)

end Deployment

namespace MessagingSystem

variable {V S T M U J : Type}

/-- The number of the only node. -/
def broker : Nat := 0

/-- A system with the broker that settings ask for. -/
def start (settings : BrokerSettings) (journal : J) :
    Except BrokerError (MessagingSystem V S T U J) :=
  ((Network.new journal).addConfigured settings {}).map fun network => ⟨∅, network⟩

def subscriberCount (system : MessagingSystem V S T U J) : Nat := system.interests.size

def journal (system : MessagingSystem V S T U J) : J := system.network.journal

def withJournal (system : MessagingSystem V S T U J) (journal : J) : MessagingSystem V S T U J :=
  { system with network := { system.network with journal } }

def topicCount (system : MessagingSystem V S T U J) : Nat :=
  ((system.network.node? broker).map Node.topicCount).getD 0

def stats (system : MessagingSystem V S T U J) : BrokerMetrics :=
  ((system.network.node? broker).map Node.stats).getD .zero

variable [DecidableEq S]

/-- The topics a subscriber is subscribed to, if there are any. -/
def interest? (system : MessagingSystem V S T U J) (s : S) : Option (TopicSet T) :=
  system.interests.get? s

variable [DecidableEq T] [Hashable T]

/-- Make requests of the broker, one after another. -/
def requestAll (d : Deployment V S T M U J) (network : Network T S (Registered V U) J)
    (requests : List (Request T S (Registered V U) M)) : Network T S (Registered V U) J :=
  requests.foldl (fun w r => (w.request d.wire d.call broker r).2) network

/-- Bring a subscriber's topics in line with its interest; what the broker was asked is returned. -/
def update (d : Deployment V S T M U J) (policy : Policy V T)
    (system : MessagingSystem V S T U J) (subscriber : V) (callback : U) :
    List (Request T S (Registered V U) M) × MessagingSystem V S T U J :=
  let s := d.keyOf subscriber
  let wanted := policy.interest subscriber
  let requests := Interests.changes s (system.interests.held s) wanted ⟨subscriber, callback⟩
  (requests, ⟨system.interests.remember s wanted, requestAll d system.network requests⟩)

/-- Publish a message to every topic of a publisher. -/
def broadcast (d : Deployment V S T M U J) (policy : Policy V T)
    (system : MessagingSystem V S T U J) (publisher : Publisher) (message : M) :
    Except UnsupportedPublisher Unit × MessagingSystem V S T U J :=
  match policy.targets publisher with
  | .error e => (.error e, system)
  | .ok topics =>
    (.ok (),
      { system with
        network := requestAll d system.network (topics.map fun t => .publish t message) })

/-- Close the broker. -/
def close (d : Deployment V S T M U J) (system : MessagingSystem V S T U J) :
    Except BrokerError Unit × MessagingSystem V S T U J :=
  let (result, network) := system.network.request d.wire d.call broker .close
  (result, { system with network })

/-- Let the dispatchers work until nothing is queued. Callbacks queue nothing, so there are as many
steps as frames. -/
def settle (d : Deployment V S T M U J) (system : MessagingSystem V S T U J) :
    MessagingSystem V S T U J :=
  { system with network := Network.settle d.wire d.call system.network.queued system.network }

end MessagingSystem

end Vicinity

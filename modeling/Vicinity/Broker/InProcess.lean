import Vicinity.Broker.Metrics
import Vicinity.Broker.Settings
import Vicinity.Channel.Basic

/-! # Brokers inside the process

A broker keeps a channel for every topic that has a subscriber: the first subscriber makes the
channel and the last one takes it away. The concurrent broker decides about a removal inside the
topic's entry; the read-write broker looks first and removes afterwards; the sharded broker spreads
its topics over a fixed number of maps, at least one, by a hash of the topic. A publication to a
topic without a channel is counted as dropped. All three are read through one view, the channel of a
topic.
-/

namespace Vicinity

/-- Topics in one map whose entries are taken one at a time. -/
structure ConcurrentBroker (T S C : Type) where
  channelKind : ChannelKind
  topics : Table T (Channel S C)
  metrics : BrokerMetrics

/-- Topics in one map that is either read or written. -/
structure ReadWriteBroker (T S C : Type) where
  channelKind : ChannelKind
  topics : Table T (Channel S C)
  metrics : BrokerMetrics

/-- Topics spread over several maps by a hash. -/
structure ShardedBroker (T S C : Type) where
  channelKind : ChannelKind
  shards : List (Table T (Channel S C))
  nonempty : 0 < shards.length
  metrics : BrokerMetrics

variable {T S C W : Type}

namespace ConcurrentBroker

def new (kind : ChannelKind) : ConcurrentBroker T S C := ⟨kind, ∅, .zero⟩

variable [DecidableEq T] [DecidableEq S]

def channel? (broker : ConcurrentBroker T S C) (t : T) : Option (Channel S C) :=
  broker.topics.get? t

/-- Subscribe inside the topic's entry, which is made if it is vacant. -/
def subscribe (broker : ConcurrentBroker T S C) (t : T) (s : S) (callback : C) :
    ConcurrentBroker T S C :=
  let channel := (broker.topics.get? t).getD (.new broker.channelKind)
  { broker with topics := broker.topics.insert t (channel.subscribe s callback).2 }

/-- Unsubscribe inside the topic's entry, and remove the entry if that leaves it empty. -/
def unsubscribe (broker : ConcurrentBroker T S C) (t : T) (s : S) : ConcurrentBroker T S C :=
  match broker.topics.get? t with
  | none => broker
  | some channel =>
    let left := (channel.unsubscribe s).2
    { broker with topics := (broker.topics.insert t left).eraseIf t Channel.isEmpty }

omit [DecidableEq T] [DecidableEq S] in
def record (broker : ConcurrentBroker T S C) (report : Option DeliveryReport) :
    ConcurrentBroker T S C :=
  { broker with metrics := broker.metrics.recordPublish report }

end ConcurrentBroker

namespace ReadWriteBroker

def new (kind : ChannelKind) : ReadWriteBroker T S C := ⟨kind, ∅, .zero⟩

variable [DecidableEq T] [DecidableEq S]

def channel? (broker : ReadWriteBroker T S C) (t : T) : Option (Channel S C) :=
  broker.topics.get? t

def subscribe (broker : ReadWriteBroker T S C) (t : T) (s : S) (callback : C) :
    ReadWriteBroker T S C :=
  let topics := broker.topics.insertNew t (.new broker.channelKind)
  match topics.get? t with
  | none => { broker with topics }
  | some channel => { broker with topics := topics.insert t (channel.subscribe s callback).2 }

/-- First unsubscribe and look whether the topic is now empty, then remove it. -/
def unsubscribe (broker : ReadWriteBroker T S C) (t : T) (s : S) : ReadWriteBroker T S C :=
  match broker.topics.get? t with
  | none => broker
  | some channel =>
    let left := (channel.unsubscribe s).2
    let topics := broker.topics.insert t left
    { broker with topics := if left.isEmpty then topics.erase t else topics }

omit [DecidableEq T] [DecidableEq S] in
def record (broker : ReadWriteBroker T S C) (report : Option DeliveryReport) :
    ReadWriteBroker T S C :=
  { broker with metrics := broker.metrics.recordPublish report }

end ReadWriteBroker

namespace ShardedBroker

/-- A broker with the given number of shards; none counts as one. -/
def new (kind : ChannelKind) (shards : Nat) : ShardedBroker T S C where
  channelKind := kind
  shards := List.replicate (max shards 1) ∅
  nonempty := by simp only [List.length_replicate]; omega
  metrics := .zero

def shardCount (broker : ShardedBroker T S C) : Nat := broker.shards.length

variable [DecidableEq T] [DecidableEq S] [Hashable T]

omit [DecidableEq T] [DecidableEq S] in
/-- The shard of a topic. -/
def shardOf (broker : ShardedBroker T S C) (t : T) : Nat :=
  (hash t).toNat % broker.shards.length

omit [DecidableEq T] [DecidableEq S] in
/-- The map that holds a topic if the broker has it. -/
def shard (broker : ShardedBroker T S C) (t : T) : Table T (Channel S C) :=
  broker.shards.getD (broker.shardOf t) ∅

omit [DecidableEq T] [DecidableEq S] in
/-- Replace the map that holds a topic. -/
def withShard (broker : ShardedBroker T S C) (t : T) (shard : Table T (Channel S C)) :
    ShardedBroker T S C :=
  { broker with
    shards := broker.shards.set (broker.shardOf t) shard
    nonempty := by rw [List.length_set]; exact broker.nonempty }

omit [DecidableEq S] in
def channel? (broker : ShardedBroker T S C) (t : T) : Option (Channel S C) :=
  (broker.shard t).get? t

def subscribe (broker : ShardedBroker T S C) (t : T) (s : S) (callback : C) :
    ShardedBroker T S C :=
  let channel := ((broker.shard t).get? t).getD (.new broker.channelKind)
  broker.withShard t ((broker.shard t).insert t (channel.subscribe s callback).2)

def unsubscribe (broker : ShardedBroker T S C) (t : T) (s : S) : ShardedBroker T S C :=
  match (broker.shard t).get? t with
  | none => broker
  | some channel =>
    let left := (channel.unsubscribe s).2
    let shard := (broker.shard t).insert t left
    broker.withShard t (if left.isEmpty then shard.erase t else shard)

omit [DecidableEq T] [DecidableEq S] [Hashable T] in
def record (broker : ShardedBroker T S C) (report : Option DeliveryReport) :
    ShardedBroker T S C :=
  { broker with metrics := broker.metrics.recordPublish report }

end ShardedBroker

/-- A broker that delivers inside the process. -/
inductive InProcessBroker (T S C : Type) where
  | concurrent (broker : ConcurrentBroker T S C)
  | sharded (broker : ShardedBroker T S C)
  | readWrite (broker : ReadWriteBroker T S C)

namespace InProcessBroker

def new (layout : Layout) (kind : ChannelKind) : InProcessBroker T S C :=
  match layout with
  | .concurrent => concurrent (.new kind)
  | .sharded shards => sharded (.new kind shards)
  | .readWrite => readWrite (.new kind)

/-- The number of topics that have a subscriber. -/
def topicCount : InProcessBroker T S C → Nat
  | concurrent broker => broker.topics.size
  | sharded broker => (broker.shards.map Table.size).foldr (· + ·) 0
  | readWrite broker => broker.topics.size

def stats : InProcessBroker T S C → BrokerMetrics
  | concurrent broker => broker.metrics
  | sharded broker => broker.metrics
  | readWrite broker => broker.metrics

/-- Count a publication. -/
def record (broker : InProcessBroker T S C) (report : Option DeliveryReport) :
    InProcessBroker T S C :=
  match broker with
  | concurrent broker => concurrent (broker.record report)
  | sharded broker => sharded (broker.record report)
  | readWrite broker => readWrite (broker.record report)

variable [DecidableEq T] [DecidableEq S] [Hashable T]

omit [DecidableEq S] in
/-- The channel of a topic, if it has a subscriber. -/
def channel? : InProcessBroker T S C → T → Option (Channel S C)
  | concurrent broker, t => broker.channel? t
  | sharded broker, t => broker.channel? t
  | readWrite broker, t => broker.channel? t

omit [DecidableEq S] in
def hasTopic (broker : InProcessBroker T S C) (t : T) : Bool := (broker.channel? t).isSome

def subscribe : InProcessBroker T S C → T → S → C → InProcessBroker T S C
  | concurrent broker, t, s, callback => concurrent (broker.subscribe t s callback)
  | sharded broker, t, s, callback => sharded (broker.subscribe t s callback)
  | readWrite broker, t, s, callback => readWrite (broker.subscribe t s callback)

def unsubscribe : InProcessBroker T S C → T → S → InProcessBroker T S C
  | concurrent broker, t, s => concurrent (broker.unsubscribe t s)
  | sharded broker, t, s => sharded (broker.unsubscribe t s)
  | readWrite broker, t, s => readWrite (broker.unsubscribe t s)

omit [DecidableEq S] in
/-- Deliver to the subscribers of a topic in a world that does not hold the broker, and count the
publication. -/
def publish (broker : InProcessBroker T S C) (t : T) (call : C → W → Outcome × W) (world : W) :
    InProcessBroker T S C × W :=
  match broker.channel? t with
  | none => (broker.record none, world)
  | some channel =>
    let (report, after) := channel.publish call world
    (broker.record (some report), after)

end InProcessBroker

end Vicinity

import Mathlib.Data.List.Nodup
import Vicinity.Broker.InProcess
import Vicinity.Proofs.Broker.Registry
import Vicinity.Proofs.Channel

/-! # In-process brokers hold a registry

The three layouts differ in where a topic's channel is kept and in how an emptied one is taken away.
Through the view `channel?` they do the same. `Holds` says that a broker shows exactly the topics of
a registry, each with the same subscribers, and has no channel without subscribers; for the sharded
layout it adds that every topic is kept in the shard of its hash, on which the count of topics rests.
-/

namespace Vicinity

variable {T S C W : Type} [DecidableEq T] [DecidableEq S] [Hashable T]

namespace ShardedBroker

omit [DecidableEq T] [DecidableEq S] in
theorem shardOf_lt (broker : ShardedBroker T S C) (t : T) : broker.shardOf t < broker.shards.length :=
  Nat.mod_lt _ broker.nonempty

omit [DecidableEq T] [DecidableEq S] in
theorem shardOf_withShard (broker : ShardedBroker T S C) (t : T) (shard : Table T (Channel S C))
    (other : T) : (broker.withShard t shard).shardOf other = broker.shardOf other := by
  simp only [shardOf, withShard, List.length_set]

omit [DecidableEq T] [DecidableEq S] in
theorem shard_withShard (broker : ShardedBroker T S C) (t : T) (shard : Table T (Channel S C))
    (other : T) :
    (broker.withShard t shard).shard other =
      if broker.shardOf other = broker.shardOf t then shard else broker.shard other := by
  have bound := broker.shardOf_lt t
  rw [ShardedBroker.shard, shardOf_withShard]
  simp only [withShard, List.getD_eq_getElem?_getD, List.getElem?_set, ShardedBroker.shard]
  by_cases same : broker.shardOf t = broker.shardOf other
  · simp [same, same ▸ bound]
  · simp [same, Ne.symm same]

omit [DecidableEq S] in
/-- A shard that differs from the old one in one topic changes the channel of that topic alone. -/
theorem channel?_withShard (broker : ShardedBroker T S C) (t : T) (shard : Table T (Channel S C))
    (frame : ∀ other, other ≠ t → shard.get? other = (broker.shard t).get? other) (other : T) :
    (broker.withShard t shard).channel? other =
      if other = t then shard.get? t else broker.channel? other := by
  rw [channel?, shard_withShard]
  by_cases same : other = t
  · simp only [same, ↓reduceIte]
  · by_cases together : broker.shardOf other = broker.shardOf t
    · have shared : broker.shard other = broker.shard t := by
        simp only [ShardedBroker.shard, together]
      rw [if_pos together, if_neg same, frame other same, channel?, shared]
    · rw [if_neg together, if_neg same, channel?]

/-- Every topic is kept in the shard of its hash. -/
def Placed (broker : ShardedBroker T S C) : Prop :=
  ∀ (i : Nat) (shard : Table T (Channel S C)), broker.shards[i]? = some shard →
    ∀ t, shard.contains t = true → broker.shardOf t = i

omit [DecidableEq T] [DecidableEq S] in
theorem getElem?_shardOf (broker : ShardedBroker T S C) (t : T) :
    broker.shards[broker.shardOf t]? = some (broker.shard t) := by
  have bound := broker.shardOf_lt t
  rw [ShardedBroker.shard, List.getD_eq_getElem?_getD, List.getElem?_eq_getElem bound, Option.getD_some]

omit [DecidableEq S] in
theorem Placed.withShard {broker : ShardedBroker T S C} (placed : broker.Placed) (t : T)
    (shard : Table T (Channel S C))
    (frame : ∀ other, other ≠ t → shard.get? other = (broker.shard t).get? other) :
    (broker.withShard t shard).Placed := by
  intro i found at_i other there
  rw [shardOf_withShard]
  simp only [ShardedBroker.withShard, List.getElem?_set] at at_i
  split at at_i
  · next here =>
    split at at_i
    · cases at_i
      by_cases same : other = t
      · rw [same, here]
      · rw [Table.contains, frame other same] at there
        exact (placed _ _ (broker.getElem?_shardOf t) other there).trans here
    · contradiction
  · exact placed i found at_i other there

omit [DecidableEq S] in
theorem channel?_isSome_iff {broker : ShardedBroker T S C} (placed : broker.Placed) (t : T) :
    (broker.channel? t).isSome = true ↔ ∃ shard ∈ broker.shards, t ∈ shard.keys := by
  constructor
  · intro there
    refine ⟨broker.shard t, List.mem_of_getElem? (broker.getElem?_shardOf t), ?_⟩
    exact (Table.contains_iff _ t).mp there
  · rintro ⟨shard, member, there⟩
    rw [← Table.contains_iff] at there
    obtain ⟨i, at_i⟩ := List.getElem?_of_mem member
    have home := placed i shard at_i t there
    rw [← home, broker.getElem?_shardOf] at at_i
    cases at_i
    exact there

omit [DecidableEq S] in
/-- No topic is kept twice. -/
theorem nodup_keys {broker : ShardedBroker T S C} (placed : broker.Placed) :
    (broker.shards.flatMap Table.keys).Nodup := by
  refine List.nodup_flatMap.mpr ⟨fun shard _ => shard.nodup, List.pairwise_iff_getElem.mpr ?_⟩
  intro i j boundI boundJ less t first second
  rw [← Table.contains_iff] at first second
  have atI := placed i _ (List.getElem?_eq_getElem boundI) t first
  have atJ := placed j _ (List.getElem?_eq_getElem boundJ) t second
  omega

omit [DecidableEq T] [DecidableEq S] [Hashable T] in
theorem eq_empty_of_mem_new {kind : ChannelKind} {shards : Nat} {shard : Table T (Channel S C)}
    (member : shard ∈ (new kind shards : ShardedBroker T S C).shards) : shard = ∅ :=
  List.eq_of_mem_replicate member

omit [DecidableEq S] in
theorem placed_new (kind : ChannelKind) (shards : Nat) :
    (new kind shards : ShardedBroker T S C).Placed := by
  intro i shard found t there
  rw [eq_empty_of_mem_new (List.mem_of_getElem? found)] at there
  contradiction

omit [DecidableEq S] in
theorem channel?_new (kind : ChannelKind) (shards : Nat) (t : T) :
    (new kind shards : ShardedBroker T S C).channel? t = none := by
  have blank := eq_empty_of_mem_new
    (List.mem_of_getElem? ((new kind shards : ShardedBroker T S C).getElem?_shardOf t))
  rw [channel?, blank]
  rfl

omit [DecidableEq T] [DecidableEq S] [Hashable T] in
/-- No shards are asked for, and one is made. -/
theorem shardCount_new (kind : ChannelKind) (shards : Nat) :
    (new kind shards : ShardedBroker T S C).shardCount = max shards 1 :=
  List.length_replicate

end ShardedBroker

namespace InProcessBroker

omit [DecidableEq T] [DecidableEq S] [Hashable T] in
/-- The kind of the channels that a broker makes. -/
def channelKind : InProcessBroker T S C → ChannelKind
  | concurrent broker => broker.channelKind
  | sharded broker => broker.channelKind
  | readWrite broker => broker.channelKind

/-- A subscription changes the channel of its own topic, which is made if there is none. -/
theorem channel?_subscribe (broker : InProcessBroker T S C) (t : T) (s : S) (callback : C)
    (other : T) :
    (broker.subscribe t s callback).channel? other =
      if other = t then
        some (((broker.channel? t).getD (.new broker.channelKind)).subscribe s callback).2
      else broker.channel? other := by
  cases broker with
  | concurrent broker => exact Table.get?_insert _ _ _ _
  | readWrite broker =>
    simp only [subscribe, ReadWriteBroker.subscribe, channel?, ReadWriteBroker.channel?, channelKind,
      Table.get?_insertNew, ↓reduceIte]
    cases found : broker.topics.get? t with
    | none => by_cases same : other = t <;> simp [Table.get?_insert, Table.get?_insertNew, same]
    | some channel => by_cases same : other = t <;> simp [Table.get?_insert, Table.get?_insertNew, same]
  | sharded broker =>
    refine (broker.channel?_withShard t _ (fun other different => ?_) other).trans ?_
    · rw [Table.get?_insert, if_neg different]
    · rw [Table.get?_insert, if_pos rfl]
      rfl

private theorem get?_evict {K V : Type} [DecidableEq K] (t : Table K V) (k : K) (v : V)
    (drop : V → Bool) (key : K) :
    (if drop v then (t.insert k v).erase k else t.insert k v).get? key =
      if key = k then (some v).filter (!drop ·) else t.get? key := by
  cases dropped : drop v <;> by_cases same : key = k <;>
    simp [Table.get?_erase, Table.get?_insert, same, Option.filter_some, dropped]

private theorem eraseIf_insert {K V : Type} [DecidableEq K] (t : Table K V) (k : K) (v : V)
    (drop : V → Bool) :
    (t.insert k v).eraseIf k drop = if drop v then (t.insert k v).erase k else t.insert k v := by
  simp only [Table.eraseIf, Table.get?_insert, ↓reduceIte]

/-- An unsubscription changes the channel of its own topic, and takes it away if it is left empty. -/
theorem channel?_unsubscribe (broker : InProcessBroker T S C) (t : T) (s : S) (other : T) :
    (broker.unsubscribe t s).channel? other =
      if other = t then
        ((broker.channel? t).map fun channel => (channel.unsubscribe s).2).filter (!·.isEmpty)
      else broker.channel? other := by
  cases broker with
  | concurrent broker =>
    simp only [unsubscribe, ConcurrentBroker.unsubscribe, channel?, ConcurrentBroker.channel?]
    cases found : broker.topics.get? t with
    | none => by_cases same : other = t <;> simp [same, found]
    | some channel =>
      dsimp only
      rw [eraseIf_insert, get?_evict, Option.map_some]
  | readWrite broker =>
    simp only [unsubscribe, ReadWriteBroker.unsubscribe, channel?, ReadWriteBroker.channel?]
    cases found : broker.topics.get? t with
    | none => by_cases same : other = t <;> simp [same, found]
    | some channel =>
      dsimp only
      rw [get?_evict, Option.map_some]
  | sharded broker =>
    have shown : broker.channel? t = (broker.shard t).get? t := rfl
    simp only [unsubscribe, ShardedBroker.unsubscribe, channel?]
    cases found : (broker.shard t).get? t with
    | none => by_cases same : other = t <;> simp [same, shown, found]
    | some channel =>
      refine (broker.channel?_withShard t _ (fun other different => ?_) other).trans ?_
      · rw [get?_evict, if_neg different]
      · rw [get?_evict, if_pos rfl, shown, found, Option.map_some]

/-- Every topic is where the layout looks for it. -/
def Placed : InProcessBroker T S C → Prop
  | concurrent _ => True
  | sharded broker => broker.Placed
  | readWrite _ => True

theorem Placed.subscribe {broker : InProcessBroker T S C} (placed : broker.Placed) (t : T) (s : S)
    (callback : C) : (broker.subscribe t s callback).Placed := by
  cases broker with
  | concurrent broker => trivial
  | readWrite broker => trivial
  | sharded broker =>
    refine ShardedBroker.Placed.withShard placed t _ fun other different => ?_
    rw [Table.get?_insert, if_neg different]

theorem Placed.unsubscribe {broker : InProcessBroker T S C} (placed : broker.Placed) (t : T) (s : S) :
    (broker.unsubscribe t s).Placed := by
  cases broker with
  | concurrent broker => trivial
  | readWrite broker => trivial
  | sharded broker =>
    simp only [InProcessBroker.unsubscribe, ShardedBroker.unsubscribe]
    split
    · exact placed
    · refine ShardedBroker.Placed.withShard placed t _ fun other different => ?_
      rw [get?_evict, if_neg different]

/-- The topics of a broker, as they stand in its maps. -/
def topicList : InProcessBroker T S C → List T
  | concurrent broker => broker.topics.keys
  | sharded broker => broker.shards.flatMap Table.keys
  | readWrite broker => broker.topics.keys

omit [DecidableEq T] [DecidableEq S] [Hashable T] in
theorem topicCount_eq (broker : InProcessBroker T S C) :
    broker.topicCount = broker.topicList.length := by
  cases broker with
  | concurrent broker => exact broker.topics.length_keys.symm
  | readWrite broker => exact broker.topics.length_keys.symm
  | sharded broker =>
    rw [topicList, List.length_flatMap]
    simp only [Table.length_keys]
    rfl

omit [DecidableEq S] in
theorem Placed.nodup_topicList {broker : InProcessBroker T S C} (placed : broker.Placed) :
    broker.topicList.Nodup := by
  cases broker with
  | concurrent broker => exact broker.topics.nodup
  | readWrite broker => exact broker.topics.nodup
  | sharded broker => exact ShardedBroker.nodup_keys placed

omit [DecidableEq S] in
theorem Placed.mem_topicList_iff {broker : InProcessBroker T S C} (placed : broker.Placed) (t : T) :
    t ∈ broker.topicList ↔ broker.hasTopic t = true := by
  cases broker with
  | concurrent broker => exact (Table.contains_iff _ t).symm
  | readWrite broker => exact (Table.contains_iff _ t).symm
  | sharded broker => exact List.mem_flatMap.trans (ShardedBroker.channel?_isSome_iff placed t).symm

/-- The subscribers of a topic with their callbacks. -/
def subscribers (broker : InProcessBroker T S C) (t : T) : Table S C :=
  ((broker.channel? t).map Channel.subscribers).getD ∅

/-- A broker shows the topics and the subscribers of a registry. -/
structure Holds (broker : InProcessBroker T S C) (g : Registry T S C) : Prop where
  occupied : ∀ t channel, broker.channel? t = some channel → channel.isEmpty = false
  placed : broker.Placed
  subscribers : ∀ t, broker.subscribers t = g t

omit [DecidableEq S] in
theorem channel?_new (layout : Layout) (kind : ChannelKind) (t : T) :
    (new layout kind : InProcessBroker T S C).channel? t = none := by
  cases layout with
  | concurrent => rfl
  | readWrite => rfl
  | sharded shards => exact ShardedBroker.channel?_new kind shards t

omit [DecidableEq S] in
theorem holds_new (layout : Layout) (kind : ChannelKind) :
    (new layout kind : InProcessBroker T S C).Holds .empty where
  occupied t channel found := by
    rw [channel?_new] at found
    contradiction
  placed := by
    cases layout with
    | concurrent => trivial
    | readWrite => trivial
    | sharded shards => exact ShardedBroker.placed_new kind shards
  subscribers t := by
    rw [InProcessBroker.subscribers, channel?_new]
    rfl

omit [DecidableEq S] in
/-- A missing channel counts as a new one. -/
theorem subscribers_getD (broker : InProcessBroker T S C) (t : T) (kind : ChannelKind) :
    ((broker.channel? t).getD (.new kind)).subscribers = broker.subscribers t := by
  rw [InProcessBroker.subscribers]
  cases broker.channel? t with
  | none => exact Channel.subscribers_new kind
  | some channel => rfl

namespace Holds

variable {broker : InProcessBroker T S C} {g : Registry T S C}

omit [DecidableEq S] in
theorem channel?_eq_some (holds : broker.Holds g) {t : T} {channel : Channel S C}
    (found : broker.channel? t = some channel) : channel.subscribers = g t := by
  rw [← holds.subscribers t, InProcessBroker.subscribers, found]
  rfl

omit [DecidableEq S] in
theorem channel?_eq_none (holds : broker.Holds g) {t : T} (missing : broker.channel? t = none) :
    g t = ∅ := by
  rw [← holds.subscribers t, InProcessBroker.subscribers, missing]
  rfl

omit [DecidableEq S] in
theorem hasTopic (holds : broker.Holds g) (t : T) : broker.hasTopic t = g.hasTopic t := by
  rw [InProcessBroker.hasTopic, Registry.hasTopic]
  cases found : broker.channel? t with
  | none =>
    rw [holds.channel?_eq_none found]
    rfl
  | some channel =>
    rw [← holds.channel?_eq_some found, ← Channel.isEmpty_eq, holds.occupied t channel found]
    rfl

omit [DecidableEq S] in
/-- The count of a broker's topics is the number of topics in the registry. -/
theorem topicCount (holds : broker.Holds g) : g.topics.encard = broker.topicCount := by
  have listed : g.topics = (broker.topicList.toFinset : Set T) := by
    ext t
    rw [List.coe_toFinset]
    change g.hasTopic t = true ↔ t ∈ broker.topicList
    rw [holds.placed.mem_topicList_iff, holds.hasTopic]
  rw [listed, Set.encard_coe_eq_coe_finsetCard, topicCount_eq,
    List.toFinset_card_of_nodup holds.placed.nodup_topicList]

theorem subscribe (holds : broker.Holds g) (t : T) (s : S) (callback : C) :
    (broker.subscribe t s callback).Holds (g.subscribe t s callback) where
  placed := holds.placed.subscribe t s callback
  occupied other channel found := by
    rw [channel?_subscribe] at found
    split at found
    · obtain rfl := Option.some.inj found
      rw [Channel.isEmpty_eq, Channel.subscribers_subscribe, Table.isEmpty_eq_false_iff]
      refine ⟨s, Option.isSome_iff_exists.mp ?_⟩
      rw [Table.get?_insertNew, if_pos rfl, Option.isSome_or, Option.isSome_some, Bool.or_true]
    · exact holds.occupied other channel found
  subscribers other := by
    rw [Registry.subscribe_apply, InProcessBroker.subscribers, channel?_subscribe]
    split
    · rw [Option.map_some, Option.getD_some, Channel.subscribers_subscribe, subscribers_getD,
        holds.subscribers]
    · exact holds.subscribers other

theorem unsubscribe (holds : broker.Holds g) (t : T) (s : S) :
    (broker.unsubscribe t s).Holds (g.unsubscribe t s) where
  placed := holds.placed.unsubscribe t s
  occupied other channel found := by
    rw [channel?_unsubscribe] at found
    split at found
    · simpa only [Bool.not_eq_true'] using (Option.filter_eq_some_iff.mp found).2
    · exact holds.occupied other channel found
  subscribers other := by
    rw [Registry.unsubscribe_apply, InProcessBroker.subscribers, channel?_unsubscribe]
    split
    · cases found : broker.channel? t with
      | none =>
        rw [holds.channel?_eq_none found]
        rfl
      | some channel =>
        rw [Option.map_some, ← holds.channel?_eq_some found, ← Channel.subscribers_unsubscribe,
          Option.filter_some]
        cases left : (channel.unsubscribe s).2.isEmpty with
        | false => simp
        | true =>
          rw [Channel.isEmpty_eq] at left
          rw [Table.eq_empty_of_isEmpty left]
          rfl
    · exact holds.subscribers other

omit [DecidableEq S] in
/-- Counting a publication moves no channel. -/
theorem record (holds : broker.Holds g) (report : Option DeliveryReport) :
    (broker.record report).Holds g := by
  cases broker <;> exact ⟨holds.occupied, holds.placed, holds.subscribers⟩

end Holds

/-! ## Counters -/

theorem stats_subscribe (broker : InProcessBroker T S C) (t : T) (s : S) (callback : C) :
    (broker.subscribe t s callback).stats = broker.stats := by
  cases broker with
  | concurrent broker => rfl
  | sharded broker => rfl
  | readWrite broker =>
    simp only [InProcessBroker.subscribe, ReadWriteBroker.subscribe, stats]
    split <;> rfl

theorem stats_unsubscribe (broker : InProcessBroker T S C) (t : T) (s : S) :
    (broker.unsubscribe t s).stats = broker.stats := by
  cases broker with
  | concurrent broker =>
    simp only [InProcessBroker.unsubscribe, ConcurrentBroker.unsubscribe, stats]
    split <;> rfl
  | sharded broker =>
    simp only [InProcessBroker.unsubscribe, ShardedBroker.unsubscribe, stats]
    split <;> rfl
  | readWrite broker =>
    simp only [InProcessBroker.unsubscribe, ReadWriteBroker.unsubscribe, stats]
    split <;> rfl

omit [DecidableEq T] [DecidableEq S] [Hashable T] in
theorem stats_record (broker : InProcessBroker T S C) (report : Option DeliveryReport) :
    (broker.record report).stats = broker.stats.recordPublish report := by
  cases broker <;> rfl

end InProcessBroker

end Vicinity

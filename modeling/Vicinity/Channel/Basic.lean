import Vicinity.Channel.Delivery
import Vicinity.Kind
import Vicinity.Table

/-! # Channels

A channel holds the subscribers of one topic, each with the callback it registered first. There are
three ways to store them. The concurrent channel takes a vacant entry or leaves an occupied one as
it is, and copies the callbacks out before it calls them. The read-write channel is one map, which a
publication reads in place; no one writes to it while it is being read. The snapshot channel never
changes a map that someone may be reading: a change makes a new map, and a publication calls the
callbacks of the map that was current when it began. All three are read through one view, the
callback of a subscriber.
-/

namespace Vicinity

/-- Subscribers in a map whose entries are taken one at a time. -/
structure ConcurrentChannel (S C : Type) where
  entries : Table S C

/-- Subscribers in one map that is either read or written. -/
structure ReadWriteChannel (S C : Type) where
  entries : Table S C

/-- Subscribers in a map that is replaced and never changed. -/
structure SnapshotChannel (S C : Type) where
  current : Table S C

variable {S C W : Type} [DecidableEq S]

namespace ConcurrentChannel

/-- Take the subscriber's entry if it is vacant. -/
def subscribe (channel : ConcurrentChannel S C) (s : S) (callback : C) :
    Bool × ConcurrentChannel S C :=
  match channel.entries.get? s with
  | some _ => (false, channel)
  | none => (true, ⟨channel.entries.insert s callback⟩)

/-- Remove the subscriber's entry; whether there was one is the answer. -/
def unsubscribe (channel : ConcurrentChannel S C) (s : S) : Bool × ConcurrentChannel S C :=
  ((channel.entries.get? s).isSome, ⟨channel.entries.erase s⟩)

/-- Copy the callbacks out, then call them. -/
def publish (channel : ConcurrentChannel S C) (call : C → W → Outcome × W) (world : W) :
    DeliveryReport × W :=
  let copied := channel.entries.entries.map Prod.snd
  deliverAll call copied world

end ConcurrentChannel

namespace ReadWriteChannel

def subscribe (channel : ReadWriteChannel S C) (s : S) (callback : C) :
    Bool × ReadWriteChannel S C :=
  (!channel.entries.contains s, ⟨channel.entries.insertNew s callback⟩)

def unsubscribe (channel : ReadWriteChannel S C) (s : S) : Bool × ReadWriteChannel S C :=
  (channel.entries.contains s, ⟨channel.entries.erase s⟩)

/-- Call the callbacks where they stand. -/
def publish (channel : ReadWriteChannel S C) (call : C → W → Outcome × W) (world : W) :
    DeliveryReport × W :=
  deliverAll (fun entry => call entry.2) channel.entries.entries world

end ReadWriteChannel

namespace SnapshotChannel

/-- Make a map with the subscriber in it, unless it is there already. -/
def subscribe (channel : SnapshotChannel S C) (s : S) (callback : C) :
    Bool × SnapshotChannel S C :=
  if channel.current.contains s then (false, channel)
  else (true, ⟨channel.current.insert s callback⟩)

/-- Make a map without the subscriber, unless it is missing already. -/
def unsubscribe (channel : SnapshotChannel S C) (s : S) : Bool × SnapshotChannel S C :=
  if channel.current.contains s then (true, ⟨channel.current.erase s⟩) else (false, channel)

/-- Call the callbacks of the current map. -/
def publish (channel : SnapshotChannel S C) (call : C → W → Outcome × W) (world : W) :
    DeliveryReport × W :=
  deliverAll call channel.current.values world

end SnapshotChannel

/-- The subscribers of one topic, stored in one of the three ways. -/
inductive Channel (S C : Type) where
  | concurrent (channel : ConcurrentChannel S C)
  | readWrite (channel : ReadWriteChannel S C)
  | snapshot (channel : SnapshotChannel S C)

namespace Channel

omit [DecidableEq S] in
/-- A channel without subscribers. -/
def new : ChannelKind → Channel S C
  | .concurrent => concurrent ⟨∅⟩
  | .readWrite => readWrite ⟨∅⟩
  | .snapshot => snapshot ⟨∅⟩

/-- The callback of a subscriber. -/
def get? : Channel S C → S → Option C
  | concurrent channel, s => channel.entries.get? s
  | readWrite channel, s => channel.entries.get? s
  | snapshot channel, s => channel.current.get? s

def isSubscribed (channel : Channel S C) (s : S) : Bool := (channel.get? s).isSome

omit [DecidableEq S] in
def size : Channel S C → Nat
  | concurrent channel => channel.entries.size
  | readWrite channel => channel.entries.size
  | snapshot channel => channel.current.size

omit [DecidableEq S] in
def isEmpty : Channel S C → Bool
  | concurrent channel => channel.entries.isEmpty
  | readWrite channel => channel.entries.isEmpty
  | snapshot channel => channel.current.isEmpty

/-- Register a subscriber; the answer is whether it was missing. One that is there keeps the
callback it has. -/
def subscribe : Channel S C → S → C → Bool × Channel S C
  | concurrent channel, s, callback => (channel.subscribe s callback).map id concurrent
  | readWrite channel, s, callback => (channel.subscribe s callback).map id readWrite
  | snapshot channel, s, callback => (channel.subscribe s callback).map id snapshot

/-- Remove a subscriber; the answer is whether it was there. -/
def unsubscribe : Channel S C → S → Bool × Channel S C
  | concurrent channel, s => (channel.unsubscribe s).map id concurrent
  | readWrite channel, s => (channel.unsubscribe s).map id readWrite
  | snapshot channel, s => (channel.unsubscribe s).map id snapshot

omit [DecidableEq S] in
/-- Call the callback of every subscriber. -/
def publish (call : C → W → Outcome × W) : Channel S C → W → DeliveryReport × W
  | concurrent channel, world => channel.publish call world
  | readWrite channel, world => channel.publish call world
  | snapshot channel, world => channel.publish call world

/-! ## What the operations do to the view -/

@[simp] theorem get?_new (kind : ChannelKind) (s : S) : (new kind : Channel S C).get? s = none := by
  cases kind <;> rfl

theorem get?_subscribe (channel : Channel S C) (s : S) (callback : C) (other : S) :
    (channel.subscribe s callback).2.get? other =
      (channel.get? other).or (if other = s then some callback else none) := by
  cases channel with
  | concurrent channel =>
    simp only [subscribe, get?, ConcurrentChannel.subscribe, Prod.map_snd]
    cases found : channel.entries.get? s with
    | some old => by_cases same : other = s <;> simp [same, found]
    | none =>
      simp only [Table.get?_insert]
      by_cases same : other = s <;> simp [same, found]
  | readWrite channel =>
    simp only [subscribe, get?, ReadWriteChannel.subscribe, Prod.map_snd, Table.get?_insertNew]
  | snapshot channel =>
    simp only [subscribe, get?, SnapshotChannel.subscribe, Prod.map_snd]
    by_cases present : channel.current.contains s
    · obtain ⟨old, found⟩ := Option.isSome_iff_exists.1 present
      by_cases same : other = s <;> simp [present, same, found]
    · have missing : channel.current.get? s = none := by simpa [Table.contains] using present
      by_cases same : other = s <;> simp [present, Table.get?_insert, same, missing]

theorem get?_unsubscribe (channel : Channel S C) (s other : S) :
    (channel.unsubscribe s).2.get? other = if other = s then none else channel.get? other := by
  cases channel with
  | concurrent channel =>
    simp only [unsubscribe, get?, ConcurrentChannel.unsubscribe, Prod.map_snd, Table.get?_erase]
  | readWrite channel =>
    simp only [unsubscribe, get?, ReadWriteChannel.unsubscribe, Prod.map_snd, Table.get?_erase]
  | snapshot channel =>
    simp only [unsubscribe, get?, SnapshotChannel.unsubscribe, Prod.map_snd]
    by_cases present : channel.current.contains s
    · simp [present, Table.get?_erase]
    · have missing : channel.current.get? s = none := by simpa [Table.contains] using present
      by_cases same : other = s <;> simp [present, same, missing]

theorem subscribe_fst (channel : Channel S C) (s : S) (callback : C) :
    (channel.subscribe s callback).1 = !channel.isSubscribed s := by
  cases channel with
  | concurrent channel =>
    simp only [subscribe, isSubscribed, get?, ConcurrentChannel.subscribe, Prod.map_fst]
    cases found : channel.entries.get? s <;> simp
  | readWrite channel => rfl
  | snapshot channel =>
    simp only [subscribe, isSubscribed, get?, SnapshotChannel.subscribe, Prod.map_fst]
    change _ = !channel.current.contains s
    by_cases present : channel.current.contains s <;> simp [present]

theorem unsubscribe_fst (channel : Channel S C) (s : S) :
    (channel.unsubscribe s).1 = channel.isSubscribed s := by
  cases channel with
  | concurrent channel => rfl
  | readWrite channel => rfl
  | snapshot channel =>
    simp only [unsubscribe, isSubscribed, get?, SnapshotChannel.unsubscribe, Prod.map_fst]
    change _ = channel.current.contains s
    by_cases present : channel.current.contains s <;> simp [present]

end Channel

end Vicinity

import Vicinity.Channel.Basic
import Vicinity.Proofs.Delivery
import Vicinity.Proofs.Table

/-! # Channels as tables

Whatever a channel is stored as, its subscribers and their callbacks are one table: subscribing takes
a vacant entry of that table, unsubscribing erases an entry, and publishing delivers to its values.
-/

namespace Vicinity.Channel

variable {S C W : Type}

/-- The subscribers of a channel with their callbacks. -/
def subscribers : Channel S C → Table S C
  | concurrent channel => channel.entries
  | readWrite channel => channel.entries
  | snapshot channel => channel.current

@[simp] theorem subscribers_new (kind : ChannelKind) : (new kind : Channel S C).subscribers = ∅ := by
  cases kind <;> rfl

theorem isEmpty_eq (channel : Channel S C) : channel.isEmpty = channel.subscribers.isEmpty := by
  cases channel <;> rfl

/-- A publication delivers to the callbacks of the table, in the table's order. -/
theorem publish_eq (call : C → W → Outcome × W) (channel : Channel S C) (world : W) :
    channel.publish call world = deliverAll call channel.subscribers.values world := by
  cases channel with
  | concurrent channel => rfl
  | readWrite channel => exact (deliverAll_map call Prod.snd channel.entries.entries world).symm
  | snapshot channel => rfl

variable [DecidableEq S]

theorem subscribers_subscribe (channel : Channel S C) (s : S) (callback : C) :
    (channel.subscribe s callback).2.subscribers = channel.subscribers.insertNew s callback := by
  cases channel with
  | concurrent channel =>
    simp only [subscribe, ConcurrentChannel.subscribe, Prod.map_snd, subscribers]
    cases found : channel.entries.get? s with
    | none => exact Table.insert_of_absent (by simp [Table.contains, found]) callback
    | some old => exact (Table.insertNew_of_present (by simp [Table.contains, found]) callback).symm
  | readWrite channel => rfl
  | snapshot channel =>
    simp only [subscribe, SnapshotChannel.subscribe, Prod.map_snd, subscribers]
    cases present : channel.current.contains s with
    | false => exact Table.insert_of_absent present callback
    | true => exact (Table.insertNew_of_present present callback).symm

theorem subscribers_unsubscribe (channel : Channel S C) (s : S) :
    (channel.unsubscribe s).2.subscribers = channel.subscribers.erase s := by
  cases channel with
  | concurrent channel => rfl
  | readWrite channel => rfl
  | snapshot channel =>
    simp only [unsubscribe, SnapshotChannel.unsubscribe, Prod.map_snd, subscribers]
    cases present : channel.current.contains s with
    | false => exact (Table.erase_of_absent present).symm
    | true => rfl

end Vicinity.Channel

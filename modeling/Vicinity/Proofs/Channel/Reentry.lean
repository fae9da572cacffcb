import Vicinity.Proofs.Channel.Register
import Vicinity.Proofs.Channel.Shared

/-! # Callbacks that change the channel they are called from

A callback may subscribe and unsubscribe whom it likes on the channel that is calling it, itself and
others that are yet to be called among them, and may panic in the end. The publication calls whoever
was registered when it began all the same, each once, and what the callbacks have asked for is what the
next publication finds. This holds for channels that copy their callbacks out before they call them, as
well as for those that lend the map they are calling from.
-/

namespace Vicinity

variable {X Y S C M J : Type}

/-- What a callback asks of the channel that calls it: anything but to publish, as there is nothing to
be published. -/
abbrev Change (S C : Type) := ChannelRequest S C Empty

/-- What callbacks do when they are called with a message. A callback finds out who is registered and
what callbacks have kept for themselves; it makes some changes, one after another, and ends. -/
abbrev Conduct (S C M J : Type) := C → M → (S → Option C) → J → List (Change S C) × Outcome × J

/-- A channel, in whatever form, while its callbacks are being called: what they keep for themselves,
the calls that were made with how they ended, and the changes that were asked for. -/
structure InUse (X S C J : Type) where
  channel : X
  journal : J
  calls : List (C × Outcome)
  changes : List (Change S C)

namespace InUse

def start (channel : X) (journal : J) : InUse X S C J := ⟨channel, journal, [], []⟩

/-- The same with the channel in another form. -/
def map (f : X → Y) (w : InUse X S C J) : InUse Y S C J :=
  ⟨f w.channel, w.journal, w.calls, w.changes⟩

variable (view : X → S → Option C) (ask : X → Change S C → X) (react : Conduct S C M J) (message : M)

/-- Call a callback. -/
def call (callback : C) (w : InUse X S C J) : Outcome × InUse X S C J :=
  let (changes, outcome, journal) := react callback message (view w.channel) w.journal
  (outcome, ⟨changes.foldl ask w.channel, journal, w.calls ++ [(callback, outcome)],
    w.changes ++ changes⟩)

/-- What a row of calls adds to the record, and what it makes of the channel. -/
theorem runAll_call (callbacks : List C) (w : InUse X S C J) :
    ∃ calls changes, calls.map Prod.fst = callbacks ∧
      calls.map Prod.snd = outcomes (call view ask react message) callbacks w ∧
      (runAll (call view ask react message) callbacks w).calls = w.calls ++ calls ∧
      (runAll (call view ask react message) callbacks w).changes = w.changes ++ changes ∧
      (runAll (call view ask react message) callbacks w).channel = changes.foldl ask w.channel := by
  induction callbacks generalizing w with
  | nil => exact ⟨[], [], rfl, rfl, (List.append_nil _).symm, (List.append_nil _).symm, rfl⟩
  | cons callback rest ih =>
    obtain ⟨calls, changes, called, ended, noted, asked, left⟩ :=
      ih (call view ask react message callback w).2
    refine ⟨(callback, (call view ask react message callback w).1) :: calls,
      (react callback message (view w.channel) w.journal).1 ++ changes, ?_, ?_, ?_, ?_, ?_⟩
    · rw [List.map_cons, called]
    · rw [List.map_cons, ended, outcomes]
    · exact noted.trans (List.append_assoc ..)
    · exact asked.trans (List.append_assoc ..)
    · rw [List.foldl_append]
      exact left

end InUse

namespace Channel

variable [DecidableEq S]

/-- Make a change. -/
def ask (channel : Channel S C) (change : Change S C) : Channel S C :=
  (channel.serve (fun _ message _ => nomatch message) () change).2.1

theorem get?_askAll (channel : Channel S C) (changes : List (Change S C)) :
    (changes.foldl ask channel).get? = changes.foldl register channel.get? := by
  induction changes generalizing channel with
  | nil => rfl
  | cons change rest ih =>
    rw [List.foldl_cons, ih, ask, get?_serve]
    rfl

/-- A publication whose callbacks make changes. -/
def publishTo (channel : Channel S C) (react : Conduct S C M J) (message : M) (journal : J) :
    DeliveryReport × InUse (Channel S C) S C J :=
  channel.publish (InUse.call get? ask react message) (.start channel journal)

/-- What a publication comes to: those who were registered when it began are called in some order, each
once, and all changes take effect one after another. -/
structure Reenters (channel : Channel S C) (order : List (S × C)) (report : DeliveryReport)
    (after : InUse (Channel S C) S C J) : Prop where
  once : (order.map Prod.fst).Nodup
  registered : ∀ s callback, (s, callback) ∈ order ↔ channel.get? s = some callback
  called : after.calls.map Prod.fst = order.map Prod.snd
  delivered : report.delivered = (after.calls.map Prod.snd).count .returned
  failed : report.failed = (after.calls.map Prod.snd).count .panicked
  total : report.delivered + report.failed = channel.size
  left : after.channel.get? = after.changes.foldl register channel.get?

theorem reenters_publishTo (channel : Channel S C) (react : Conduct S C M J) (message : M)
    (journal : J) :
    Reenters channel channel.subscribers.entries (channel.publishTo react message journal).1
      (channel.publishTo react message journal).2 := by
  obtain ⟨calls, changes, called, ended, noted, asked, left⟩ :=
    InUse.runAll_call get? ask react message channel.subscribers.values (.start channel journal)
  change _ = calls at noted
  change _ = changes at asked
  rw [publishTo, publish_eq]
  constructor
  case once => exact channel.subscribers.nodup
  case registered =>
    intro s callback
    rw [Table.mem_entries_iff, get?_eq]
  case called => rw [deliverAll_snd, noted, called, Table.values]
  case delivered => rw [deliverAll_delivered, deliverAll_snd, noted, ended]
  case failed => rw [deliverAll_failed, deliverAll_snd, noted, ended]
  case total => rw [deliverAll_total, Table.values, List.length_map, size_eq, Table.size]
  case left =>
    rw [deliverAll_snd, left, asked, get?_askAll]
    rfl

end Channel

namespace SharedTable

variable [DecidableEq S]

omit [DecidableEq S] in
/-- A snapshot channel with the current map. -/
def toChannel (m : SharedTable S C) : Channel S C := .snapshot m.snapshot

/-- Make a change. -/
def ask (m : SharedTable S C) : Change S C → SharedTable S C
  | .subscribe s callback => (m.subscribe s callback).2
  | .unsubscribe s => (m.unsubscribe s).2
  | .publish _ | .size | .isEmpty | .isSubscribed _ => m

theorem toChannel_ask (m : SharedTable S C) (change : Change S C) :
    (m.ask change).toChannel = m.toChannel.ask change := by
  cases change with
  | subscribe s callback =>
    exact congrArg (fun made => Channel.snapshot made.2) (m.snapshot_subscribe s callback)
  | unsubscribe s => exact congrArg (fun made => Channel.snapshot made.2) (m.snapshot_unsubscribe s)
  | _ => rfl

/-- A change is no change, or it is written. -/
theorem ask_cases (m : SharedTable S C) (change : Change S C) :
    m.ask change = m ∨ ∃ f, m.ask change = m.write f := by
  cases change with
  | subscribe s callback =>
    rw [ask, subscribe]
    split
    · exact .inl rfl
    · exact .inr ⟨fun t => t.insert s callback, rfl⟩
  | unsubscribe s =>
    rw [ask, unsubscribe]
    split
    · exact .inr ⟨fun t => t.erase s, rfl⟩
    · exact .inl rfl
  | _ => exact .inl rfl

/-- Publish from the current map, which is lent while its callbacks are called. -/
def publishTo (m : SharedTable S C) (react : Conduct S C M J) (message : M) (journal : J) :
    DeliveryReport × InUse (SharedTable S C) S C J :=
  let (report, after) := readFrom InUse.channel
    (InUse.call (fun m => m.table.get?) ask react message) m.current m.table.size 0 .none
    (.start m.lend journal)
  (report, { after with channel := after.channel.giveBack m.current })

/-- Changes do not reach a map that is lent, and leave what is lent alone. -/
theorem lends_askAll {m : SharedTable S C} {place : Nat} {t : Table S C} (lends : m.Lends place t)
    (changes : List (Change S C)) :
    (changes.foldl ask m).Lends place t ∧ (changes.foldl ask m).lent = m.lent ∧
      (changes.foldl ask m).toChannel = changes.foldl Channel.ask m.toChannel := by
  induction changes generalizing m with
  | nil => exact ⟨lends, rfl, rfl⟩
  | cons change rest ih =>
    have kept : (m.ask change).Lends place t ∧ (m.ask change).lent = m.lent := by
      obtain same | ⟨f, written⟩ := m.ask_cases change
      · rw [same]
        exact ⟨lends, rfl⟩
      · rw [written]
        exact ⟨lends.write f, m.lent_write f⟩
    obtain ⟨later, lent, channel⟩ := ih kept.1
    exact ⟨later, lent.trans kept.2, channel.trans (by rw [toChannel_ask]; rfl)⟩

/-- While a map is lent, shared maps in use show what a snapshot channel in use does. -/
structure Shows (place : Nat) (t : Table S C) (lent : List Nat) (w : InUse (SharedTable S C) S C J)
    (v : InUse (Channel S C) S C J) : Prop where
  lends : w.channel.Lends place t
  lent : w.channel.lent = lent
  same : w.map toChannel = v

theorem Shows.call {place : Nat} {t : Table S C} {lent : List Nat}
    {w : InUse (SharedTable S C) S C J} {v : InUse (Channel S C) S C J} (shows : Shows place t lent w v)
    (react : Conduct S C M J) (message : M) (callback : C) :
    let made := InUse.call (fun m => m.table.get?) ask react message callback w
    let other := InUse.call Channel.get? Channel.ask react message callback v
    made.1 = other.1 ∧ Shows place t lent made.2 other.2 := by
  obtain ⟨lends, unchanged, rfl⟩ := shows
  obtain ⟨later, kept, channel⟩ := lends_askAll lends
    (react callback message w.channel.table.get? w.journal).1
  refine ⟨rfl, later, kept.trans unchanged, ?_⟩
  simp only [InUse.call, InUse.map]
  rw [channel]
  rfl

/-- A publication from a map that is lent is one of the snapshot channel, and gives back what it was
lent. -/
theorem publishTo_eq (m : SharedTable S C) (react : Conduct S C M J) (message : M) (journal : J) :
    (m.publishTo react message journal).map id (InUse.map toChannel) =
        m.toChannel.publishTo react message journal ∧
      (m.publishTo react message journal).2.channel.lent = m.lent := by
  have read : readFrom InUse.channel (InUse.call (fun m => m.table.get?) ask react message) m.current
      m.table.size 0 .none (.start m.lend journal) = deliverAll _ m.table.values _ :=
    readFrom_eq (fun callback w lends => (lends_askAll lends _).1) [] m.table.entries rfl .none
      m.lends_lend
  have start : Shows m.current m.table m.lend.lent (.start m.lend journal)
      (.start m.toChannel journal) := ⟨m.lends_lend, rfl, rfl⟩
  have step : ∀ callback ∈ m.table.values, ∀ w v, Shows m.current m.table m.lend.lent w v → _ :=
    fun callback _ w v shows => shows.call react message callback
  obtain ⟨report, -, lent, same⟩ := deliverAll_related step start
  rw [publishTo, read]
  constructor
  · rw [Channel.publishTo, Channel.publish_eq]
    exact Prod.ext report same
  · dsimp only
    rw [giveBack, lent]
    exact List.erase_cons_head ..

end SharedTable

namespace Channel

variable [DecidableEq S]

/-- Whatever callbacks change on the channel while they are being called, and in whatever order they are
called: a publication calls those that were registered when it began, each once, and counts how each
of them ends. Afterwards the changes have been made in the order in which they were asked for, and a
subscriber that was there kept its callback. Reading the callbacks from a map that is lent comes to the
same as holding on to the map of that moment. -/
theorem publish_reentrant (table : Table S C) {order : List (S × C)}
    (arranged : order.Perm table.entries) (react : Conduct S C M J) (message : M) (journal : J) :
    let visited := table.arrange arranged
    (∀ channel, channel = .concurrent ⟨visited⟩ ∨ channel = .snapshot ⟨visited⟩ →
      channel.get? = table.get? ∧
      Reenters channel order (channel.publishTo react message journal).1
        (channel.publishTo react message journal).2) ∧
    ∀ shared : SharedTable S C, shared.table = visited →
      (shared.publishTo react message journal).map id (InUse.map SharedTable.toChannel) =
          (Channel.snapshot ⟨visited⟩).publishTo react message journal ∧
        (shared.publishTo react message journal).2.channel.lent = shared.lent := by
  intro visited
  constructor
  · rintro channel (rfl | rfl)
    · exact ⟨table.get?_arrange arranged, reenters_publishTo _ react message journal⟩
    · exact ⟨table.get?_arrange arranged, reenters_publishTo _ react message journal⟩
  · rintro shared same
    rw [← same]
    exact shared.publishTo_eq react message journal

/-- The one who is called first tries to replace the callback of the other, and panics; the other then
removes both and registers a third one, who is not called yet, twice. -/
theorem publish_reentrant_once :
    let table : Table String Nat := ⟨[("once", 0), ("beside", 1)], by decide⟩
    let order := [("beside", 1), ("once", 0)]
    let react : Conduct String Nat Unit Unit := fun callback _ _ _ =>
      if callback = 0 then
        ([.unsubscribe "once", .unsubscribe "beside", .subscribe "late" 2, .subscribe "late" 3],
          .returned, ())
      else ([.subscribe "once" 4], .panicked, ())
    ∃ arranged : order.Perm table.entries,
      let channel : Channel String Nat := .snapshot ⟨table.arrange arranged⟩
      let made := channel.publishTo react () ()
      Reenters channel order made.1 made.2 ∧ made.1 = ⟨1, 1⟩ ∧
        made.2.calls = [(1, .panicked), (0, .returned)] ∧
        ["once", "beside", "late"].map made.2.channel.get? = [none, none, some 2] := by
  intro table order react
  refine ⟨by decide, ?_, ?_, ?_, ?_⟩
  · exact ((publish_reentrant table _ react () ()).1 _ (.inr rfl)).2
  · decide +kernel
  · decide +kernel
  · decide +kernel

end Channel

end Vicinity

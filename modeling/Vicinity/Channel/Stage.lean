import Vicinity.Channel.Basic
import Vicinity.Channel.Reaction

/-! # One channel whose callbacks act

The channel, and the journal of the scripts that its callbacks run. A publication calls the
callbacks registered when it began, each once; what they change is seen by the next publication.
-/

namespace Vicinity

/-- A channel together with the scripts registered on it. -/
structure ChannelStage (S M : Type) where
  channel : Channel S Nat
  journal : Journal Unit Unit S M

namespace ChannelStage

variable {S M : Type} [DecidableEq S] [DecidableEq M]

omit [DecidableEq S] [DecidableEq M] in
def new (kind : ChannelKind) : ChannelStage S M := ⟨.new kind, .new⟩

omit [DecidableEq M] in
/-- How scripts act on the channel: there is one node and one topic, and nothing to close. -/
def stage : Stage (ChannelStage S M) Unit Unit S M where
  journal := journal
  withJournal w journal := { w with journal }
  subscribe _ _ s callback w := { w with channel := (w.channel.subscribe s callback).2 }
  unsubscribe _ _ s w := { w with channel := (w.channel.unsubscribe s).2 }
  publish call _ _ message w :=
    (w.channel.publish (fun callback => call callback message) w).2
  close _ w := w

omit [DecidableEq M] in
/-- Register a subscriber with a script. -/
def subscribe (w : ChannelStage S M) (s : S) (script : Script Unit Unit S M) :
    Bool × ChannelStage S M :=
  let (callback, journal) := w.journal.register s script
  let (added, channel) := w.channel.subscribe s callback
  (added, ⟨channel, journal⟩)

omit [DecidableEq M] in
def unsubscribe (w : ChannelStage S M) (s : S) : Bool × ChannelStage S M :=
  let (removed, channel) := w.channel.unsubscribe s
  (removed, { w with channel })

def publish (w : ChannelStage S M) (message : M) : DeliveryReport × ChannelStage S M :=
  w.channel.publish (fun callback => stage.callFully callback message) w

end ChannelStage

end Vicinity

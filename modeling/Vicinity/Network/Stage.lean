import Vicinity.Channel.Reaction
import Vicinity.Network.Basic

/-! # Networks whose callbacks act

The journal of such a network holds the scripts of its callbacks, which act on topics of its nodes.
Each request is followed by letting the dispatchers work until nothing is queued; the frames queued
and what the scripts can still run bound the steps that this takes.
-/

namespace Vicinity

/-- A network whose callbacks run scripts. -/
abbrev ScriptedNetwork (T S M : Type) := Network T S Nat (Journal Nat T S M)

namespace ScriptedNetwork

variable {T S M : Type} [DecidableEq T] [DecidableEq S] [DecidableEq M] [Hashable T]

omit [DecidableEq M] in
/-- How scripts act on the nodes; what goes wrong is not noticed by the script. -/
def stage (wire : Wire T M) : Stage (ScriptedNetwork T S M) Nat T S M where
  journal := Network.journal
  withJournal w journal := { w with journal }
  subscribe n t s callback w :=
    (w.request wire (fun _ _ w => (.returned, w)) n (.subscribe t s callback)).2
  unsubscribe n t s w :=
    (w.request wire (fun _ _ w => (.returned, w)) n (.unsubscribe t s)).2
  publish call n t message w := (w.request wire call n (.publish t message)).2
  close n w := (w.request wire (fun _ _ w => (.returned, w)) n .close).2

/-- The call of a callback by its number. -/
def call (wire : Wire T M) : Network.Call T S Nat (Journal Nat T S M) M :=
  (stage wire).callFully

omit [DecidableEq T] [DecidableEq S] [DecidableEq M] [Hashable T] in
/-- More dispatcher steps than can follow: what is queued and what scripts can still publish. -/
def patience (w : ScriptedNetwork T S M) : Nat := w.queued + w.journal.budget + 1

/-- Let the dispatchers work until nothing is queued. -/
def settle (wire : Wire T M) (w : ScriptedNetwork T S M) : ScriptedNetwork T S M :=
  Network.settle wire (call wire) (patience w) w

omit [DecidableEq M] in
/-- Register a script for a subscriber of a topic. -/
def subscribe (wire : Wire T M) (w : ScriptedNetwork T S M) (n : Nat) (t : T) (s : S)
    (script : Script Nat T S M) : ScriptedNetwork T S M :=
  (stage wire).perform (fun _ _ w => (.returned, w)) w (.subscribe n t s script)

/-- A request that registers no callback. -/
def request (wire : Wire T M) (w : ScriptedNetwork T S M) (n : Nat) (r : Request T S Nat M) :
    Except BrokerError Unit × ScriptedNetwork T S M :=
  Network.request wire (call wire) w n r

/-- Flush the hub of a node. -/
def flush (wire : Wire T M) (w : ScriptedNetwork T S M) (hub : String) :
    Except BrokerError Unit × ScriptedNetwork T S M :=
  Network.flush wire (call wire) (patience w) w hub

/-- Shut a hub down, if there is one of that name. -/
def shutdown (wire : Wire T M) (w : ScriptedNetwork T S M) (hub : String) :
    Option (ScriptedNetwork T S M) :=
  Network.shutdown wire (call wire) (patience w) w hub

end ScriptedNetwork

end Vicinity

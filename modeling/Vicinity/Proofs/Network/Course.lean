import Vicinity.Network.Stage
import Vicinity.Proofs.Broker.Fate
import Vicinity.Proofs.Network.Basic

/-! # Courses of networks

A course leads from one state of a network to a later one by requests to nodes, frames that reach
nodes, new nodes and whatever happens at the hubs, in any order. A callback may do all of this while
it is called: what it does is a course of its own, inside the one of the request or the frame that it
was called for. The log of a course tells of every publication what becomes of it, of every frame
that a node can decode how many subscribers it finds there, and of every call how it ends.
-/

namespace Vicinity

variable {T S C J M W : Type}

/-- What is logged of a course: what became of a publication on a node, how many subscribers a node
had for a frame, and how the call of a callback ended that a node made. -/
inductive Incident where
  | published (node : Nat) (fate : Fate)
  | handed (node : Nat) (audience : Nat)
  | ended (node : Nat) (outcome : Outcome)
deriving DecidableEq, Repr

/-- The logs of callbacks that are called one after another. -/
def callLogs (call : C → W → Outcome × W) (logs : C → W → List Incident) :
    List C → W → List Incident
  | [], _ => []
  | callback :: rest, world =>
    logs callback world ++ callLogs call logs rest (call callback world).2

/-- The log of a round of calls that a node makes: what the callbacks did, and how they ended. -/
def roundLog (n : Nat) (call : C → W → Outcome × W) (logs : C → W → List Incident)
    (callbacks : List C) (world : W) : List Incident :=
  callLogs call logs callbacks world ++ (outcomes call callbacks world).map (.ended n)

namespace Network

/-- The logs of calls, by the callback, the message and the network it is called in. -/
abbrev Logs (T S C J M : Type) := C → M → Network T S C J → List Incident

section Logging

variable [DecidableEq T]

/-- The log of a request. -/
def requestLog [Hashable T] (wire : Wire T M) (call : Call T S C J M) (logs : Logs T S C J M)
    (w : Network T S C J) (n : Nat) : Request T S C M → List Incident
  | .publish t message =>
    match w.node? n with
    | none => []
    | some (.inProcess broker) =>
      .published n (broker.fate t) ::
        roundLog n (fun callback => call callback message) (fun callback => logs callback message)
          (broker.subscribers t).values w
    | some (.middleware broker) =>
      [.published n (broker.fate wire.nameOf wire.codec (w.hub broker.link.connection.hub) t message)]
  | .subscribe .. | .unsubscribe .. | .close => []

/-- The log of a frame that reaches a node. -/
def receiveLog (wire : Wire T M) (call : Call T S C J M) (logs : Logs T S C J M)
    (payload : ByteArray) (w : Network T S C J) (inbound : Inbound T) : List Incident :=
  match wire.codec.decode payload, w.node? inbound.node with
  | .ok message, some (.middleware broker) =>
    let audience := (broker.subscribers inbound.topic).values
    .handed inbound.node audience.length ::
      roundLog inbound.node (fun callback => call callback message)
        (fun callback => logs callback message) audience w
  | _, _ => []

end Logging

variable [DecidableEq T] [DecidableEq S] [Hashable T]

/-- What can happen between two states of a network, with its log. Callbacks keep their journal, and
whatever else a call does to the network is a course as well. -/
inductive Course (wire : Wire T M) :
    Network T S C J → List Incident → Network T S C J → Prop
  | rest (w : Network T S C J) : Course wire w [] w
  | trans {w v u : Network T S C J} {log later : List Incident} :
      Course wire w log v → Course wire v later u → Course wire w (log ++ later) u
  | keep (w : Network T S C J) (journal : J) : Course wire w [] { w with journal }
  | hubs (w : Network T S C J) (connector : Connector (Inbound T)) :
      Course wire w [] { w with connector }
  | join {w v : Network T S C J} {plan : BrokerPlan} {refusals : Refusals} :
      w.addPlanned plan refusals = .ok v → Course wire w [] v
  | request (call : Call T S C J M) (logs : Logs T S C J M)
      (honest : ∀ callback message w,
        Course wire w (logs callback message w) (call callback message w).2)
      (w : Network T S C J) (n : Nat) (r : Request T S C M) :
      Course wire w (w.requestLog wire call logs n r) (w.request wire call n r).2
  | receive (call : Call T S C J M) (logs : Logs T S C J M)
      (honest : ∀ callback message w,
        Course wire w (logs callback message w) (call callback message w).2)
      (payload : ByteArray) (w : Network T S C J) (inbound : Inbound T) :
      Course wire w (w.receiveLog wire call logs payload inbound)
        (w.receive wire call payload inbound)

/-! ## Dispatchers -/

section Dispatching

omit [DecidableEq S] [Hashable T]

variable (wire : Wire T M) (call : Call T S C J M) (logs : Logs T S C J M)

/-- The log of a frame that reaches several nodes. -/
def receiveAllLog (payload : ByteArray) : List (Inbound T) → Network T S C J → List Incident
  | [], _ => []
  | inbound :: rest, w =>
    w.receiveLog wire call logs payload inbound ++
      receiveAllLog payload rest (w.receive wire call payload inbound)

/-- The log of a dispatcher's step. -/
def dispatchLog (w : Network T S C J) (name : String) : List Incident :=
  match (w.hub name).next? with
  | none | some (.marker _, _) => []
  | some (.message topic payload, next) =>
    receiveAllLog wire call logs payload (next.handlersFor topic) (w.withHub name next)

/-- The log of dispatchers that work until nothing is queued. -/
def settleLog : Nat → Network T S C J → List Incident
  | 0, _ => []
  | steps + 1, w =>
    match w.busy with
    | [] => []
    | name :: _ =>
      w.dispatchLog wire call logs name ++ settleLog steps (w.dispatch wire call name)

end Dispatching

namespace Course

section Dispatching

variable {wire : Wire T M} {call : Call T S C J M} {logs : Logs T S C J M}
  (honest : ∀ callback message w,
    Course wire w (logs callback message w) (call callback message w).2)

include honest

theorem receiveAll (payload : ByteArray) (handlers : List (Inbound T)) (w : Network T S C J) :
    Course wire w (receiveAllLog wire call logs payload handlers w)
      (handlers.foldl (Network.receive wire call payload) w) := by
  induction handlers generalizing w with
  | nil => exact .rest w
  | cons inbound rest ih => exact .trans (.receive call logs honest payload w inbound) (ih _)

theorem dispatch (w : Network T S C J) (name : String) :
    Course wire w (w.dispatchLog wire call logs name) (w.dispatch wire call name) := by
  rw [Network.dispatch, dispatchLog]
  rcases (w.hub name).next? with _ | ⟨⟨topic, payload⟩ | ticket, next⟩
  · exact .rest w
  · exact .trans (.hubs w _) (receiveAll honest payload _ (w.withHub name next))
  · exact .hubs w _

theorem settle (steps : Nat) (w : Network T S C J) :
    Course wire w (settleLog wire call logs steps w) (w.settle wire call steps) := by
  induction steps generalizing w with
  | zero => exact .rest w
  | succ steps ih =>
    rw [Network.settle, settleLog]
    cases w.busy with
    | nil => exact .rest w
    | cons name others => exact .trans (dispatch honest w name) (ih _)

/-- A flush is a course, whether it succeeds or not. -/
theorem flush (steps : Nat) (w : Network T S C J) (name : String) :
    ∃ log, Course wire w log (w.flush wire call steps name).2 := by
  rw [Network.flush]
  cases (w.hub name).requestFlush with
  | error e => exact ⟨_, .rest w⟩
  | ok marked => exact ⟨_, .trans (.hubs w _) (settle honest (steps + 1) _)⟩

theorem shutdown {steps : Nat} {w v : Network T S C J} {name : String}
    (shut : w.shutdown wire call steps name = some v) : ∃ log, Course wire w log v := by
  obtain ⟨hub, -, rfl⟩ := Option.map_eq_some_iff.mp shut
  exact ⟨_, .trans (.hubs w _) (settle honest steps _)⟩

end Dispatching

theorem sendRaw (wire : Wire T M) (w : Network T S C J) (uri topic : String) (payload : ByteArray) :
    Course wire w [] (w.sendRaw uri topic payload).2 := by
  rw [Network.sendRaw]
  split
  · exact .rest w
  · dsimp only
    split
    · exact .hubs w _
    · exact .hubs w _

end Course

end Network

/-! ## Scripts -/

namespace ScriptedNetwork

variable [DecidableEq T] [DecidableEq S] [Hashable T]

open Network

/-- A callback that only returns is honest with an empty log. -/
theorem course_of_return (wire : Wire T M) (callback : Nat) (message : M)
    (w : ScriptedNetwork T S M) :
    Course wire w [] ((fun _ _ w => (.returned, w) : Network.Call T S Nat (Journal Nat T S M) M)
      callback message w).2 :=
  .rest w

theorem exists_course_perform {wire : Wire T M} {call : Network.Call T S Nat (Journal Nat T S M) M}
    {logs : Logs T S Nat (Journal Nat T S M) M}
    (honest : ∀ callback message w,
      Course wire w (logs callback message w) (call callback message w).2)
    (w : ScriptedNetwork T S M) (step : ScriptStep Nat T S M) :
    ∃ log, Course wire w log ((stage wire).perform call w step) := by
  cases step with
  | subscribe n t s script =>
    exact ⟨_, .trans (.keep w _) (.request _ _ (course_of_return wire) _ n (.subscribe t s _))⟩
  | unsubscribe n t s => exact ⟨_, .request _ _ (course_of_return wire) w n (.unsubscribe t s)⟩
  | publish n t message => exact ⟨_, .request call logs honest w n (.publish t message)⟩
  | close n => exact ⟨_, .request _ _ (course_of_return wire) w n .close⟩

theorem exists_course_performAll {wire : Wire T M}
    {call : Network.Call T S Nat (Journal Nat T S M) M} {logs : Logs T S Nat (Journal Nat T S M) M}
    (honest : ∀ callback message w,
      Course wire w (logs callback message w) (call callback message w).2)
    (steps : List (ScriptStep Nat T S M)) (w : ScriptedNetwork T S M) :
    ∃ log, Course wire w log (steps.foldl ((stage wire).perform call) w) := by
  induction steps generalizing w with
  | nil => exact ⟨_, .rest w⟩
  | cons step rest ih =>
    obtain ⟨log, first⟩ := exists_course_perform honest w step
    obtain ⟨later, second⟩ := ih _
    exact ⟨_, .trans first second⟩

variable [DecidableEq M]

/-- A call of a script is a course, however deep the calls nest that it leads to. -/
theorem exists_course_call (wire : Wire T M) (depth : Nat) (callback : Nat) (message : M)
    (w : ScriptedNetwork T S M) :
    ∃ log, Course wire w log ((stage wire).call depth callback message w).2 := by
  induction depth generalizing callback message w with
  | zero =>
    rw [Stage.call]
    split
    · exact ⟨_, .rest w⟩
    · exact ⟨_, .keep w _⟩
  | succ depth ih =>
    choose logs honest using ih
    rw [Stage.call]
    split
    · exact ⟨_, .rest w⟩
    · next registration found =>
      dsimp only
      split
      · obtain ⟨log, taken⟩ := exists_course_performAll honest registration.script.steps _
        exact ⟨_, .trans (.keep w _) taken⟩
      · exact ⟨_, .keep w _⟩

/-- Whatever is done to a network whose callbacks run scripts is a course. -/
theorem exists_course (wire : Wire T M) (w : ScriptedNetwork T S M) :
    (∀ n t s script, ∃ log, Course wire w log (subscribe wire w n t s script)) ∧
    (∀ n r, ∃ log, Course wire w log (request wire w n r).2) ∧
    (∃ log, Course wire w log (settle wire w)) ∧
    (∀ hub, ∃ log, Course wire w log (flush wire w hub).2) ∧
    ∀ hub v, shutdown wire w hub = some v → ∃ log, Course wire w log v := by
  choose logs honest using fun callback message (w : ScriptedNetwork T S M) =>
    exists_course_call wire (w.journal.budget + 1) callback message w
  refine ⟨fun n t s script => ?_, fun n r => ?_, ?_, fun hub => ?_, fun hub v shut => ?_⟩
  · exact exists_course_perform (course_of_return wire) w (.subscribe n t s script)
  · exact ⟨_, .request (call wire) logs honest w n r⟩
  · exact ⟨_, .settle honest (patience w) w⟩
  · exact Course.flush honest (patience w) w hub
  · exact Course.shutdown honest shut

end ScriptedNetwork

end Vicinity

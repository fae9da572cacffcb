import Vicinity.Proofs.Delivery
import Vicinity.Proofs.Hub.Routes

/-! # A hub between threads

The threads that use a hub, and its dispatcher, take steps in any order. An act is what one of them
does without being interrupted. A flush is two acts: it puts its marker into the queue and later
finds that the marker has been reached. A shutdown is three: it makes the hub accept nothing more,
takes charge of the dispatcher unless another call has done so, and returns when the dispatcher has
come to its end; of several calls the first is the one that takes charge. The dispatcher takes an
entry from the queue, with the handlers that are routed at that moment, and calls those one after
another before it takes the next entry. Handlers do not panic; whatever they do with the hub are acts
of their own.

An act that has to wait leaves everything as it is. What has happened is written down in the order
in which it did, as events.
-/

namespace Vicinity

namespace Loopback

variable {H : Type}

/-- The call of a handler that a connection has routed for a topic. -/
structure Call (H : Type) where
  connection : Nat
  topic : String
  handler : H
  payload : ByteArray

/-- What a thread does with a hub. -/
inductive Act (H : Type) where
  | connect
  | subscribe (connection : Nat) (topic : String) (handler : H)
  | unsubscribe (connection : Nat) (topic : String)
  | close (connection : Nat)
  | publish (topic : String) (payload : ByteArray)
  | flush
  | finishFlush (ticket : Nat)
  | refuse
  | takeCharge
  | finishShutdown
  | dispatch

/-- What happens at an act. A flush that succeeds returns with `flushed`, and the first shutdown with
`stopped`. -/
inductive Event (H : Type) where
  | accepted (topic : String) (payload : ByteArray)
  | marked (ticket : Nat)
  | refused (error : BrokerError)
  | dispatched (topic : String) (payload : ByteArray) (calls : List (Call H))
  | reached (ticket : Nat)
  | called (call : Call H)
  | flushed (ticket : Nat)
  | stopped

/-- How far the first call of shutdown has come. -/
inductive Shutdown where
  | pending
  | waits
  | returned
deriving DecidableEq

end Loopback

/-- A hub, the calls that its dispatcher still has to make for the frame it has taken, and how far
the hub's shutdown has come. -/
structure Loopback (H : Type) where
  hub : Hub H
  due : List (Loopback.Call H)
  shutdown : Loopback.Shutdown

namespace Loopback

variable {H : Type}

def start (name : String) : Loopback H := ⟨.start name, [], .pending⟩

/-- The calls that hand a frame to the handlers that a hub has routed. -/
def callsFor (hub : Hub H) (topic : String) (payload : ByteArray) : List (Call H) :=
  (hub.listeners topic).entries.map fun entry => ⟨entry.1, topic, entry.2, payload⟩

/-- The dispatcher makes the next call that is due, or takes the next entry. -/
def dispatch (w : Loopback H) : List (Event H) × Loopback H :=
  match w.due with
  | call :: rest => ([.called call], { w with due := rest })
  | [] =>
    match w.hub.next? with
    | none => ([], w)
    | some (.marker ticket, hub) => ([.reached ticket], { w with hub })
    | some (.message topic payload, hub) =>
      let calls := callsFor w.hub topic payload
      ([.dispatched topic payload calls], { w with hub, due := calls })

/-- What the dispatcher can do when it gets its turn. -/
inductive Turn (w : Loopback H) : List (Event H) × Loopback H → Prop where
  | call {call : Call H} {rest : List (Call H)} (due : w.due = call :: rest) :
    Turn w ([.called call], { w with due := rest })
  | wait (due : w.due = []) (queue : w.hub.queue = []) : Turn w ([], w)
  | marker {ticket : Nat} {rest : List HubEntry} (due : w.due = [])
    (queue : w.hub.queue = .marker ticket :: rest) :
    Turn w ([.reached ticket],
      { w with hub := { w.hub with queue := rest, passed := w.hub.passed ++ [ticket] } })
  | message {topic : String} {payload : ByteArray} {rest : List HubEntry} (due : w.due = [])
    (queue : w.hub.queue = .message topic payload :: rest) :
    Turn w ([.dispatched topic payload (callsFor w.hub topic payload)],
      { w with hub := { w.hub with queue := rest }, due := callsFor w.hub topic payload })

theorem turn_dispatch (w : Loopback H) : w.Turn w.dispatch := by
  rw [dispatch]
  split
  · next call rest due => exact .call due
  · next due =>
    rw [Hub.next?]
    rcases queue : w.hub.queue with _ | ⟨⟨topic, payload⟩ | ticket, rest⟩
    · exact .wait due queue
    · exact .message due queue
    · exact .marker due queue

/-- What happens at an act, and what it leaves. -/
def step (w : Loopback H) : Act H → List (Event H) × Loopback H
  | .connect => ([], { w with hub := w.hub.connect.2 })
  | .subscribe connection topic handler =>
    ([], { w with hub := w.hub.subscribe connection topic handler })
  | .unsubscribe connection topic => ([], { w with hub := w.hub.unsubscribe connection topic })
  | .close connection => ([], { w with hub := w.hub.detach connection })
  | .publish topic payload =>
    match w.hub.publish topic payload with
    | .ok hub => ([.accepted topic payload], { w with hub })
    | .error error => ([.refused error], w)
  | .flush =>
    match w.hub.requestFlush with
    | .ok (ticket, hub) => ([.marked ticket], { w with hub })
    | .error error => ([.refused error], w)
  | .finishFlush ticket => (if ticket ∈ w.hub.passed then [.flushed ticket] else [], w)
  | .refuse => ([], { w with hub := w.hub.refuse })
  | .takeCharge =>
    if w.hub.accepting = false ∧ w.shutdown = .pending then ([], { w with shutdown := .waits })
    else ([], w)
  | .finishShutdown =>
    if w.shutdown = .waits ∧ w.hub.queue = [] ∧ w.due = [] then
      ([.stopped], { w with shutdown := .returned })
    else ([], w)
  | .dispatch => w.dispatch

/-- Acts one after another, with all that happens at them. -/
def run (w : Loopback H) : List (Act H) → List (Event H) × Loopback H
  | [] => ([], w)
  | act :: rest =>
    let (events, next) := w.step act
    let (later, last) := next.run rest
    (events ++ later, last)

/-- What has happened at acts, from the start of a hub on. -/
def history (name : String) (acts : List (Act H)) : List (Event H) := ((start name).run acts).1

/-- What acts have made of a hub. -/
def after (name : String) (acts : List (Act H)) : Loopback H := ((start name).run acts).2

theorem run_append (w : Loopback H) (before later : List (Act H)) :
    w.run (before ++ later) =
      ((w.run before).1 ++ ((w.run before).2.run later).1, ((w.run before).2.run later).2) := by
  induction before generalizing w with
  | nil => rfl
  | cons act rest ih => simp only [List.cons_append, run, ih, List.append_assoc]

theorem history_append (name : String) (before later : List (Act H)) :
    history name (before ++ later) = history name before ++ ((after name before).run later).1 :=
  congrArg Prod.fst (run_append (start name) before later)

theorem after_append (name : String) (before later : List (Act H)) :
    after name (before ++ later) = ((after name before).run later).2 := by
  rw [after, run_append, after]

theorem history_append_cons (name : String) (before : List (Act H)) (act : Act H)
    (later : List (Act H)) :
    history name (before ++ act :: later) = history name before ++
      (((after name before).step act).1 ++ (((after name before).step act).2.run later).1) :=
  history_append name before (act :: later)

theorem after_append_cons (name : String) (before : List (Act H)) (act : Act H)
    (later : List (Act H)) :
    after name (before ++ act :: later) = (((after name before).step act).2.run later).2 :=
  after_append name before (act :: later)

theorem history_concat (name : String) (before : List (Act H)) (act : Act H) :
    history name (before ++ [act]) = history name before ++ ((after name before).step act).1 := by
  rw [history_append_cons]
  exact congrArg _ (List.append_nil _)

theorem after_concat (name : String) (before : List (Act H)) (act : Act H) :
    after name (before ++ [act]) = ((after name before).step act).2 :=
  after_append_cons name before act []

/-! ## Reading a history -/

namespace Event

/-- The entry that an event puts into the queue. -/
def put? : Event H → Option HubEntry
  | accepted topic payload => some (.message topic payload)
  | marked ticket => some (.marker ticket)
  | _ => none

/-- The entry that an event takes from the queue. -/
def taken? : Event H → Option HubEntry
  | dispatched topic payload _ => some (.message topic payload)
  | reached ticket => some (.marker ticket)
  | _ => none

/-- The calls for which a frame is taken from the queue. -/
def calls : Event H → List (Call H)
  | dispatched _ _ calls => calls
  | _ => []

def called? : Event H → Option (Call H)
  | called call => some call
  | _ => none

end Event

/-- The frame in an entry. -/
def frame? : HubEntry → Option (String × ByteArray)
  | .message topic payload => some (topic, payload)
  | .marker _ => none

def ticket? : HubEntry → Option Nat
  | .message _ _ => none
  | .marker ticket => some ticket

def put (events : List (Event H)) : List HubEntry := events.filterMap Event.put?
def taken (events : List (Event H)) : List HubEntry := events.filterMap Event.taken?

/-- The frames whose publishing has succeeded. -/
def accepted (events : List (Event H)) : List (String × ByteArray) := (put events).filterMap frame?

def dispatched (events : List (Event H)) : List (String × ByteArray) :=
  (taken events).filterMap frame?

/-- The frames that wait in the queue. -/
def queued (w : Loopback H) : List (String × ByteArray) := w.hub.queue.filterMap frame?

/-- The calls that frames were dispatched to. -/
def recipients (events : List (Event H)) : List (Call H) := events.flatMap Event.calls

/-- The calls that were made. -/
def called (events : List (Event H)) : List (Call H) := events.filterMap Event.called?

section Reading

variable (first second : List (Event H))

@[simp] theorem put_append : put (first ++ second) = put first ++ put second :=
  List.filterMap_append

@[simp] theorem taken_append : taken (first ++ second) = taken first ++ taken second :=
  List.filterMap_append

@[simp] theorem dispatched_append :
    dispatched (first ++ second) = dispatched first ++ dispatched second := by
  simp only [dispatched, taken_append, List.filterMap_append]

@[simp] theorem recipients_append :
    recipients (first ++ second) = recipients first ++ recipients second :=
  List.flatMap_append

@[simp] theorem called_append : called (first ++ second) = called first ++ called second :=
  List.filterMap_append

/-- Calls become due only as frames are taken. -/
theorem recipients_of_taken {events : List (Event H)} (nothing : taken events = []) :
    recipients events = [] := by
  refine List.flatMap_eq_nil_iff.mpr fun event member => ?_
  have none := List.filterMap_eq_nil_iff.mp nothing event member
  cases event with
  | dispatched topic payload calls => contradiction
  | _ => rfl

end Reading

/-- The payloads of the frames of one topic. -/
def payloadsOn (topic : String) (frames : List (String × ByteArray)) : List ByteArray :=
  frames.filterMap fun frame => if frame.1 = topic then some frame.2 else none

/-- The calls that one connection gets for one topic. -/
def callsOf (connection : Nat) (topic : String) (calls : List (Call H)) : List (Call H) :=
  calls.filter fun call => call.connection = connection ∧ call.topic = topic

/-- What an act makes of the handlers that connections have for topics. -/
def reroute (routing : String → Nat → Option H) : Act H → String → Nat → Option H
  | .subscribe connection topic handler => fun other asked =>
    if other = topic ∧ asked = connection then some handler else routing other asked
  | .unsubscribe connection topic => fun other asked =>
    if other = topic ∧ asked = connection then none else routing other asked
  | .close connection => fun other asked => if asked = connection then none else routing other asked
  | _ => routing

/-- The handlers that connections have for topics after acts. -/
def routed (acts : List (Act H)) : String → Nat → Option H :=
  acts.foldl reroute fun _ _ => none

theorem routed_concat (before : List (Act H)) (act : Act H) :
    routed (before ++ [act]) = reroute (routed before) act :=
  List.foldl_concat ..

/-! ## The dispatcher alone -/

section Alone

variable {W : Type} {call : H → ByteArray → W → Outcome × W}

theorem runHandlers_eq {call : H → W → Outcome × W}
    (returns : ∀ handler world, (call handler world).1 = .returned) (handlers : List H) (world : W) :
    Hub.runHandlers call handlers world = (.returned, runAll call handlers world) := by
  induction handlers generalizing world with
  | nil => rfl
  | cons handler rest ih =>
    have first : call handler world = (.returned, (call handler world).2) :=
      Prod.ext (returns handler world) rfl
    rw [Hub.runHandlers, first]
    exact ih _

theorem run_due (hub : Hub H) (due : List (Call H)) (shutdown : Shutdown) :
    (⟨hub, due, shutdown⟩ : Loopback H).run (List.replicate due.length .dispatch) =
      (due.map .called, ⟨hub, [], shutdown⟩) := by
  induction due with
  | nil => rfl
  | cons call rest ih =>
    rw [List.length_cons, List.replicate_succ, run, step, dispatch]
    dsimp only
    rw [ih]
    rfl

theorem called_map (calls : List (Call H)) : called (calls.map .called) = calls := by
  rw [called, List.filterMap_map]
  exact List.filterMap_some

/-- A dispatcher whom nobody interrupts hands on one entry as `Hub.dispatch` does. -/
theorem run_dispatch (returns : ∀ handler payload world, (call handler payload world).1 = .returned)
    (hub : Hub H) (shutdown : Shutdown) (world : W) :
    ∃ turns events next,
      (⟨hub, [], shutdown⟩ : Loopback H).run (List.replicate turns .dispatch) =
        (events, ⟨next, [], shutdown⟩) ∧
      hub.dispatch call world =
        (next, runAll (fun made => call made.handler made.payload) (called events) world) := by
  rw [Hub.dispatch, Hub.next?]
  rcases queue : hub.queue with _ | ⟨⟨topic, payload⟩ | ticket, rest⟩
  · exact ⟨0, [], hub, rfl, rfl⟩
  · let calls := callsFor hub topic payload
    let next : Hub H := { hub with queue := rest }
    refine ⟨calls.length + 1, .dispatched topic payload calls :: calls.map .called, next, ?_, ?_⟩
    · have taken : (⟨hub, [], shutdown⟩ : Loopback H).step .dispatch =
          ([.dispatched topic payload calls], ⟨next, calls, shutdown⟩) := by
        simp only [step, dispatch, Hub.next?, queue, calls, next]
      rw [List.replicate_succ, run, taken]
      dsimp only
      rw [run_due]
      rfl
    · have made : called (.dispatched topic payload calls :: calls.map .called) = calls :=
        called_map calls
      rw [made]
      dsimp only [calls]
      rw [runHandlers_eq fun handler => returns handler payload, Hub.handlersFor_eq, Table.values,
        runAll_map, callsFor, runAll_map]
  · let next : Hub H := { hub with queue := rest, passed := hub.passed ++ [ticket] }
    refine ⟨1, [.reached ticket], next, ?_, rfl⟩
    simp only [List.replicate, run, step, dispatch, Hub.next?, queue]
    rfl

/-- A dispatcher whom nobody interrupts drains the queue as `Hub.dispatchMany` does. -/
theorem run_dispatchMany
    (returns : ∀ handler payload world, (call handler payload world).1 = .returned) (steps : Nat)
    (hub : Hub H) (shutdown : Shutdown) (world : W) :
    ∃ turns events next,
      (⟨hub, [], shutdown⟩ : Loopback H).run (List.replicate turns .dispatch) =
        (events, ⟨next, [], shutdown⟩) ∧
      Hub.dispatchMany call steps hub world =
        (next, runAll (fun made => call made.handler made.payload) (called events) world) := by
  induction steps generalizing hub world with
  | zero => exact ⟨0, [], hub, rfl, rfl⟩
  | succ steps ih =>
    obtain ⟨first, events, middle, ran, one⟩ := run_dispatch returns hub shutdown world
    obtain ⟨rest, later, last, reran, more⟩ := ih middle
      (runAll (fun made => call made.handler made.payload) (called events) world)
    refine ⟨first + rest, events ++ later, last, ?_, ?_⟩
    · rw [← List.replicate_append_replicate, run_append, ran]
      dsimp only
      rw [reran]
    · rw [Hub.dispatchMany, one]
      dsimp only
      rw [more, called_append, runAll_append]

end Alone

end Loopback

end Vicinity

import Vicinity.Proofs.Hub.Threads

/-! # Recipients of frames

Which handlers a hub has routed is read off the acts, as the map `routed`. The dispatcher alone takes
frames, and calls for each the handlers that this map has for its topic at that moment, one for each
connection. So a connection that keeps a handler for a topic gets every frame of it.
-/

namespace Vicinity.Loopback

variable {H : Type}

/-! ## Calls for a frame -/

theorem handler_callsFor (hub : Hub H) (topic : String) (payload : ByteArray) :
    (callsFor hub topic payload).map Call.handler = hub.handlersFor topic := by
  rw [Hub.handlersFor_eq, callsFor, List.map_map]
  rfl

theorem connection_callsFor (hub : Hub H) (topic : String) (payload : ByteArray) :
    ((callsFor hub topic payload).map Call.connection).Nodup := by
  rw [callsFor, List.map_map]
  exact (hub.listeners topic).nodup

theorem mem_callsFor {hub : Hub H} {topic : String} {payload : ByteArray} {call : Call H} :
    call ∈ callsFor hub topic payload ↔ call.topic = topic ∧ call.payload = payload ∧
      hub.route? topic call.connection = some call.handler := by
  obtain ⟨connection, other, handler, content⟩ := call
  simp only [callsFor, List.mem_map, Prod.exists, Table.mem_entries_iff, Hub.route?, Call.mk.injEq]
  constructor
  · rintro ⟨_, _, found, rfl, rfl, rfl, rfl⟩
    exact ⟨rfl, rfl, found⟩
  · rintro ⟨rfl, rfl, found⟩
    exact ⟨connection, handler, found, rfl, rfl, rfl, rfl⟩

/-- A connection that has a handler for a topic gets one call for a frame of that topic. -/
theorem callsOf_callsFor {hub : Hub H} {topic : String} {connection : Nat} {handler : H}
    (found : hub.route? topic connection = some handler) (payload : ByteArray) :
    callsOf connection topic (callsFor hub topic payload) =
      [⟨connection, topic, handler, payload⟩] := by
  obtain ⟨before, after, listed, others⟩ := Table.entries_split found
  have none {entries : List (Nat × H)} (apart : ∀ entry ∈ entries, entry.1 ≠ connection) :
      callsOf connection topic
        (entries.map fun entry => (⟨entry.1, topic, entry.2, payload⟩ : Call H)) = [] := by
    rw [callsOf, List.filter_map, List.map_eq_nil_iff, List.filter_eq_nil_iff]
    intro entry member
    simp [apart entry member]
  have first := none fun entry member => others entry (List.mem_append_left _ member)
  have last := none fun entry member => others entry (List.mem_append_right _ member)
  rw [callsOf] at first last ⊢
  rw [callsFor, listed, List.map_append, List.filter_append, first, List.map_cons, List.filter_cons,
    last]
  simp

theorem callsOf_other (hub : Hub H) {topic other : String} (apart : other ≠ topic)
    (connection : Nat) (payload : ByteArray) :
    callsOf connection topic (callsFor hub other payload) = [] := by
  refine List.filter_eq_nil_iff.mpr fun call member => ?_
  rw [(mem_callsFor.mp member).1]
  simp [apart]

/-! ## Single acts and stretches of them -/

/-- The connection that makes a call. -/
def Act.caller? : Act H → Option Nat
  | .subscribe connection _ _ | .unsubscribe connection _ | .close connection => some connection
  | _ => none

/-- What is no call of a connection leaves the routes as they are, and nothing but connecting opens a
connection. -/
theorem frame_step (w : Loopback H) {act : Act H} (silent : act.caller? = none) :
    (w.step act).2.hub.routes = w.hub.routes ∧
      (act ≠ .connect → (w.step act).2.hub.connections = w.hub.connections) := by
  cases act with
  | connect => exact ⟨rfl, fun other => absurd rfl other⟩
  | subscribe connection topic handler => contradiction
  | unsubscribe connection topic => contradiction
  | close connection => contradiction
  | publish topic payload =>
    simp only [step, Hub.publish]
    cases sent : w.hub.send (.message topic payload) with
    | error error => exact ⟨rfl, fun _ => rfl⟩
    | ok hub =>
      obtain ⟨-, rfl⟩ := Hub.eq_of_send sent
      exact ⟨rfl, fun _ => rfl⟩
  | flush =>
    simp only [step, Hub.requestFlush]
    cases sent : w.hub.send (.marker w.hub.tickets) with
    | error error => exact ⟨rfl, fun _ => rfl⟩
    | ok hub =>
      obtain ⟨-, rfl⟩ := Hub.eq_of_send sent
      exact ⟨rfl, fun _ => rfl⟩
  | takeCharge =>
    rw [step]
    split <;> exact ⟨rfl, fun _ => rfl⟩
  | finishShutdown =>
    rw [step]
    split <;> exact ⟨rfl, fun _ => rfl⟩
  | dispatch =>
    have turn := w.turn_dispatch
    rw [step]
    generalize w.dispatch = result at turn ⊢
    cases turn <;> exact ⟨rfl, fun _ => rfl⟩
  | _ => exact ⟨rfl, fun _ => rfl⟩

theorem route?_step (w : Loopback H) (act : Act H) :
    (w.step act).2.hub.route? = reroute w.hub.route? act := by
  cases act with
  | subscribe connection topic handler =>
    exact funext₂ fun other asked => Hub.route?_subscribe w.hub connection topic handler other asked
  | unsubscribe connection topic =>
    exact funext₂ fun other asked => Hub.route?_unsubscribe w.hub connection topic other asked
  | close connection =>
    exact funext₂ fun other asked => Hub.route?_detach w.hub connection other asked
  | _ => exact funext₂ fun topic asked => Hub.route?_of_routes (w.frame_step rfl).1 topic asked

/-- The handlers that a hub has routed are read off the acts. -/
theorem route?_after (name : String) (acts : List (Act H)) :
    (after name acts).hub.route? = routed acts := by
  induction acts using List.reverseRecOn with
  | nil => rfl
  | append_singleton acts act ih => rw [after_concat, route?_step, ih, routed_concat]

/-- Entries are taken by the dispatcher alone, and calls are due to it alone. -/
theorem taken_step (w : Loopback H) {act : Act H} (other : act ≠ .dispatch) :
    taken (w.step act).1 = [] ∧ (w.step act).2.due = w.due := by
  cases act with
  | dispatch => contradiction
  | publish topic payload =>
    rw [step]
    split <;> exact ⟨rfl, rfl⟩
  | flush =>
    rw [step]
    split <;> exact ⟨rfl, rfl⟩
  | finishFlush ticket =>
    rw [step]
    split <;> exact ⟨rfl, rfl⟩
  | takeCharge =>
    rw [step]
    split <;> exact ⟨rfl, rfl⟩
  | finishShutdown =>
    rw [step]
    split <;> exact ⟨rfl, rfl⟩
  | _ => exact ⟨rfl, rfl⟩

/-- While a connection has a handler for a topic, an act hands it the frames of that topic. -/
theorem callsOf_step {w : Loopback H} {topic : String} {connection : Nat} {handler : H}
    (found : w.hub.route? topic connection = some handler) (act : Act H) :
    callsOf connection topic (recipients (w.step act).1) =
      (payloadsOn topic (dispatched (w.step act).1)).map fun payload =>
        ⟨connection, topic, handler, payload⟩ := by
  by_cases own : act = .dispatch
  · subst own
    have turn := w.turn_dispatch
    rw [step]
    generalize w.dispatch = result at turn ⊢
    cases turn with
    | call due => rfl
    | wait due queue => rfl
    | marker due queue => rfl
    | @message other payload rest due queue =>
      have calls : recipients [Event.dispatched other payload (callsFor w.hub other payload)] =
          callsFor w.hub other payload := List.append_nil _
      have frames : dispatched [Event.dispatched other payload (callsFor w.hub other payload)] =
          [(other, payload)] := rfl
      rw [calls, frames, payloadsOn]
      by_cases same : other = topic
      · subst same
        simp [callsOf_callsFor found]
      · simp [callsOf_other w.hub same, same]
  · have nothing := (taken_step w own).1
    rw [recipients_of_taken nothing, dispatched, nothing]
    rfl

/-- A stretch of acts during which a connection keeps a handler for a topic. -/
theorem callsOf_run (name : String) (acts during : List (Act H)) {topic : String} {connection : Nat}
    {handler : H}
    (stays : ∀ part, part <+: during → routed (acts ++ part) topic connection = some handler) :
    callsOf connection topic (recipients ((after name acts).run during).1) =
      (payloadsOn topic (dispatched ((after name acts).run during).1)).map fun payload =>
        ⟨connection, topic, handler, payload⟩ := by
  induction during generalizing acts with
  | nil => rfl
  | cons act rest ih =>
    have found : (after name acts).hub.route? topic connection = some handler := by
      rw [route?_after]
      simpa using stays [] List.nil_prefix
    have later := ih (acts ++ [act]) fun part within => by
      rw [List.append_assoc]
      exact stays (act :: part) (List.cons_prefix_cons.mpr ⟨rfl, within⟩)
    rw [after_concat] at later
    have first := callsOf_step found act
    rw [callsOf] at first later ⊢
    rw [run, recipients_append, dispatched_append, List.filter_append, first, later, payloadsOn,
      payloadsOn, payloadsOn, List.filterMap_append, List.map_append]

end Vicinity.Loopback

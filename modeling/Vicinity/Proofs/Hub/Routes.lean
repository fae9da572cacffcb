import Vicinity.Hub.Basic
import Vicinity.Proofs.Table

/-! # Routes of a hub

A hub keeps its routes topic by topic and drops a topic with its last route. Through the view
`listeners`, which is empty for a topic that is not there, that makes no difference: every change is
one of a single table of handlers. `Beside` is the frame of all changes that one connection makes.
-/

namespace Vicinity.Hub

variable {H : Type}

/-- The handlers for a topic under the connections they belong to. -/
def listeners (hub : Hub H) (topic : String) : Table Nat H := (hub.routes.get? topic).getD ∅

/-- The handler that a connection has for a topic. -/
def route? (hub : Hub H) (topic : String) (connection : Nat) : Option H :=
  (hub.listeners topic).get? connection

theorem route?_of_routes {hub after : Hub H} (same : after.routes = hub.routes) (topic : String)
    (connection : Nat) : after.route? topic connection = hub.route? topic connection := by
  rw [route?, route?, listeners, listeners, same]

theorem handlersFor_eq (hub : Hub H) (topic : String) :
    hub.handlersFor topic = (hub.listeners topic).values := by
  rw [handlersFor, listeners]
  cases hub.routes.get? topic <;> rfl

theorem listeners_subscribe (hub : Hub H) (connection : Nat) (topic : String) (handler : H)
    (other : String) :
    (hub.subscribe connection topic handler).listeners other =
      if other = topic then (hub.listeners topic).insert connection handler
      else hub.listeners other := by
  simp only [listeners, subscribe, Table.get?_insert]
  split <;> rfl

theorem listeners_unsubscribe (hub : Hub H) (connection : Nat) (topic other : String) :
    (hub.unsubscribe connection topic).listeners other =
      if other = topic then (hub.listeners topic).erase connection else hub.listeners other := by
  by_cases same : other = topic
  · subst same
    rw [if_pos rfl, unsubscribe, listeners]
    cases found : hub.routes.get? other with
    | none =>
      simp only [listeners, found, Option.getD_none]
      rfl
    | some routed =>
      cases blank : (routed.erase connection).isEmpty with
      | false => simp [listeners, found, blank, Table.get?_insert]
      | true =>
        simp only [listeners, found, blank, ↓reduceIte, Table.get?_erase, Option.getD_none,
          Option.getD_some]
        exact (Table.eq_empty_of_isEmpty blank).symm
  · rw [if_neg same, unsubscribe]
    cases hub.routes.get? topic with
    | none => rfl
    | some routed =>
      simp only [listeners]
      split <;> simp [Table.get?_erase, Table.get?_insert, same]

theorem listeners_detach (hub : Hub H) (connection : Nat) (topic : String) :
    (hub.detach connection).listeners topic = (hub.listeners topic).erase connection := by
  simp only [listeners, detach, Table.get?_filter, Table.get?_map]
  cases hub.routes.get? topic with
  | none => rfl
  | some routed =>
    cases blank : (routed.erase connection).isEmpty with
    | false => simp [blank, Option.filter_some]
    | true =>
      simp only [Option.map_some, Option.filter_some, blank, Bool.not_true, Bool.false_eq_true,
        ↓reduceIte, Option.getD_none, Option.getD_some]
      exact (Table.eq_empty_of_isEmpty blank).symm

/-! ## Single routes -/

theorem route?_subscribe (hub : Hub H) (connection : Nat) (topic : String) (handler : H)
    (other : String) (asked : Nat) :
    (hub.subscribe connection topic handler).route? other asked =
      if other = topic ∧ asked = connection then some handler else hub.route? other asked := by
  rw [route?, listeners_subscribe]
  by_cases same : other = topic
  · subst same
    simp only [↓reduceIte, true_and, Table.get?_insert, route?]
  · simp only [same, ↓reduceIte, false_and, route?]

theorem route?_unsubscribe (hub : Hub H) (connection : Nat) (topic other : String) (asked : Nat) :
    (hub.unsubscribe connection topic).route? other asked =
      if other = topic ∧ asked = connection then none else hub.route? other asked := by
  rw [route?, listeners_unsubscribe]
  by_cases same : other = topic
  · subst same
    simp only [↓reduceIte, true_and, Table.get?_erase, route?]
  · simp only [same, ↓reduceIte, false_and, route?]

theorem route?_detach (hub : Hub H) (connection : Nat) (topic : String) (asked : Nat) :
    (hub.detach connection).route? topic asked =
      if asked = connection then none else hub.route? topic asked := by
  rw [route?, listeners_detach, Table.get?_erase, route?]

/-! ## Frames -/

/-- One hub is what another becomes when nothing changes but routes of one connection and the
queue. -/
structure Beside (connection : Nat) (before after : Hub H) : Prop where
  connections : after.connections = before.connections
  accepting : after.accepting = before.accepting
  alive : after.alive = before.alive
  route? : ∀ topic other, other ≠ connection → after.route? topic other = before.route? topic other

theorem beside_refl (hub : Hub H) (connection : Nat) : hub.Beside connection hub :=
  ⟨rfl, rfl, rfl, fun _ _ _ => rfl⟩

theorem Beside.trans {connection : Nat} {hub between after : Hub H}
    (first : hub.Beside connection between) (second : between.Beside connection after) :
    hub.Beside connection after where
  connections := second.connections.trans first.connections
  accepting := second.accepting.trans first.accepting
  alive := second.alive.trans first.alive
  route? topic other different :=
    (second.route? topic other different).trans (first.route? topic other different)

theorem beside_subscribe (hub : Hub H) (connection : Nat) (topic : String) (handler : H) :
    hub.Beside connection (hub.subscribe connection topic handler) := by
  refine ⟨rfl, rfl, rfl, fun t other different => ?_⟩
  rw [route?_subscribe, if_neg fun both => different both.2]

theorem beside_unsubscribe (hub : Hub H) (connection : Nat) (topic : String) :
    hub.Beside connection (hub.unsubscribe connection topic) where
  connections := by
    rw [unsubscribe]
    split <;> rfl
  accepting := by
    rw [unsubscribe]
    split <;> rfl
  alive := by
    rw [unsubscribe]
    split <;> rfl
  route? t other different := by rw [route?_unsubscribe, if_neg fun both => different both.2]

theorem queue_unsubscribe (hub : Hub H) (connection : Nat) (topic : String) :
    (hub.unsubscribe connection topic).queue = hub.queue := by
  rw [unsubscribe]
  split <;> rfl

theorem beside_detach (hub : Hub H) (connection : Nat) :
    hub.Beside connection (hub.detach connection) := by
  refine ⟨rfl, rfl, rfl, fun t other different => ?_⟩
  rw [route?_detach, if_neg different]

/-! ## Passing entries on -/

/-- One hub is what another becomes when entries come to its queue or leave it. -/
structure Passes (before after : Hub H) : Prop where
  routes : after.routes = before.routes
  connections : after.connections = before.connections
  accepting : after.accepting = before.accepting
  alive : after.alive = before.alive

/-- A hub that accepts an entry has it at the end of its queue. -/
theorem eq_of_send {hub next : Hub H} {entry : HubEntry} (sent : hub.send entry = .ok next) :
    hub.accepting = true ∧ next = { hub with queue := hub.queue ++ [entry] } := by
  rw [send] at sent
  split at sent
  · next accepts =>
    cases sent
    exact ⟨(Bool.and_eq_true_iff.mp accepts).1, rfl⟩
  · contradiction

/-- Whether a marker has been reached or will be. -/
def Awaits (hub : Hub H) (ticket : Nat) : Prop :=
  ticket ∈ hub.passed ∨ .marker ticket ∈ hub.queue

/-- The dispatcher takes the oldest entry, and forgets no marker. -/
theorem next?_of_queue {hub : Hub H} {entry : HubEntry} {rest : List HubEntry}
    (queued : hub.queue = entry :: rest) :
    ∃ next, hub.next? = some (entry, next) ∧ hub.Passes next ∧ next.queue = rest ∧
      ∀ ticket, hub.Awaits ticket → next.Awaits ticket := by
  rw [next?, queued]
  cases entry with
  | message topic payload =>
    refine ⟨_, rfl, ⟨rfl, rfl, rfl, rfl⟩, rfl, fun ticket awaits => ?_⟩
    rw [Awaits, queued, List.mem_cons] at awaits
    obtain passed | first | later := awaits
    · exact .inl passed
    · contradiction
    · exact .inr later
  | marker own =>
    refine ⟨_, rfl, ⟨rfl, rfl, rfl, rfl⟩, rfl, fun ticket awaits => ?_⟩
    rw [Awaits, queued, List.mem_cons] at awaits
    obtain passed | first | later := awaits
    · exact .inl (List.mem_append_left _ passed)
    · obtain rfl : ticket = own := HubEntry.marker.inj first
      exact .inl (List.mem_append_right _ (List.mem_singleton.mpr rfl))
    · exact .inr later

theorem passes_of_next? {hub next : Hub H} {entry : HubEntry}
    (taken : hub.next? = some (entry, next)) : hub.Passes next := by
  rw [next?] at taken
  split at taken
  · contradiction
  · cases taken
    exact ⟨rfl, rfl, rfl, rfl⟩
  · cases taken
    exact ⟨rfl, rfl, rfl, rfl⟩

/-- The hub with a new marker at the end of its queue. -/
def mark (hub : Hub H) : Hub H :=
  { hub with queue := hub.queue ++ [.marker hub.tickets], tickets := hub.tickets + 1 }

/-- A hub that is in order accepts a marker. -/
theorem requestFlush_eq {hub : Hub H} (accepting : hub.accepting = true) (alive : hub.alive = true) :
    hub.requestFlush = .ok (hub.tickets, hub.mark) := by
  have accepts : (hub.accepting && hub.alive) = true := by rw [accepting, alive]; rfl
  rw [requestFlush, send, if_pos accepts]
  rfl

/-- A flush that is accepted begins with a marker. -/
theorem eq_of_requestFlush {hub marked : Hub H} {ticket : Nat}
    (asked : hub.requestFlush = .ok (ticket, marked)) : marked = hub.mark := by
  rw [requestFlush] at asked
  cases sent : hub.send (.marker hub.tickets) with
  | error e =>
    rw [sent] at asked
    contradiction
  | ok next =>
    rw [sent, (eq_of_send sent).2] at asked
    cases asked
    rfl

theorem passes_mark (hub : Hub H) : hub.Passes hub.mark := ⟨rfl, rfl, rfl, rfl⟩

theorem awaits_mark (hub : Hub H) : hub.mark.Awaits hub.tickets :=
  .inr (List.mem_append_right _ (List.mem_singleton.mpr rfl))

end Vicinity.Hub

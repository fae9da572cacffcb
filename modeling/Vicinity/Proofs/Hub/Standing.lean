import Vicinity.Proofs.Hub.Recipients
import Vicinity.Proofs.Latest

/-! # Who is routed for what

Only the calls of connections change the routes of a hub. What a connection has for a topic is settled
by the last of its own calls that concerns the topic, and no call of another connection has a part in
it. A hub is `Occupied` when it keeps no topic without a route: then its topics are those for which
some connection is routed, and their number is the size of its table.
-/

namespace Vicinity

variable {H : Type}

namespace Hub

/-! ## Topics of a hub -/

/-- Every topic that is kept has a route. -/
def Occupied (hub : Hub H) : Prop :=
  ∀ topic listeners, hub.routes.get? topic = some listeners → listeners.isEmpty = false

theorem occupied_start (name : String) : (start name : Hub H).Occupied := nofun

theorem Occupied.of_routes {hub after : Hub H} (occupied : hub.Occupied)
    (same : after.routes = hub.routes) : after.Occupied := by
  rw [Occupied, same]
  exact occupied

theorem Occupied.subscribe {hub : Hub H} (occupied : hub.Occupied) (connection : Nat)
    (topic : String) (handler : H) : (hub.subscribe connection topic handler).Occupied := by
  intro other listeners found
  simp only [Hub.subscribe, Table.get?_insert] at found
  split at found
  · cases found
    refine (Table.isEmpty_eq_false_iff _).mpr ⟨connection, handler, ?_⟩
    rw [Table.get?_insert, if_pos rfl]
  · exact occupied other listeners found

/-- A topic goes with its last route. -/
theorem Occupied.unsubscribe {hub : Hub H} (occupied : hub.Occupied) (connection : Nat)
    (topic : String) : (hub.unsubscribe connection topic).Occupied := by
  intro other listeners found
  rw [Hub.unsubscribe] at found
  split at found
  · exact occupied other listeners found
  · next routed _ =>
    dsimp only at found
    cases blank : (routed.erase connection).isEmpty with
    | true =>
      rw [blank, if_pos rfl, Table.get?_erase] at found
      split at found
      · contradiction
      · exact occupied other listeners found
    | false =>
      rw [blank, if_neg Bool.false_ne_true, Table.get?_insert] at found
      split at found
      · cases found
        exact blank
      · exact occupied other listeners found

/-- Whatever a connection leaves behind when it goes, topics without a route are not kept. -/
theorem occupied_detach (hub : Hub H) (connection : Nat) : (hub.detach connection).Occupied := by
  intro topic listeners found
  simp only [detach, Table.get?_filter, Option.filter_eq_some_iff] at found
  simpa using found.2

theorem Occupied.contains_iff {hub : Hub H} (occupied : hub.Occupied) (topic : String) :
    hub.routes.contains topic = true ↔
      ∃ connection handler, hub.route? topic connection = some handler := by
  rw [Table.contains, Option.isSome_iff_exists]
  simp only [route?, listeners]
  constructor
  · rintro ⟨routed, found⟩
    rw [found]
    exact (Table.isEmpty_eq_false_iff routed).mp (occupied topic routed found)
  · rintro ⟨connection, handler, found⟩
    cases kept : hub.routes.get? topic with
    | some routed => exact ⟨routed, rfl⟩
    | none =>
      rw [kept] at found
      contradiction

theorem Occupied.encard_topics {hub : Hub H} (occupied : hub.Occupied) :
    {topic | ∃ connection handler, hub.route? topic connection = some handler}.encard =
      hub.topicCount := by
  rw [topicCount, ← Table.encard_keys]
  exact congrArg Set.encard (Set.ext fun topic => (occupied.contains_iff topic).symm)

end Hub

namespace Loopback

/-! ## The calls of a connection -/

/-- Whether an act concerns what a connection has for a topic. -/
def Act.concerns (connection : Nat) (topic : String) : Act H → Bool
  | .subscribe caller name _ | .unsubscribe caller name => topic = name ∧ connection = caller
  | .close caller => connection = caller
  | _ => false

/-- The last act that concerns what a connection has for a topic. -/
def latest? (acts : List (Act H)) (connection : Nat) (topic : String) : Option (Act H) :=
  (acts.filter (Act.concerns connection topic)).getLast?

theorem latest?_concat (acts : List (Act H)) (act : Act H) (connection : Nat) (topic : String) :
    latest? (acts ++ [act]) connection topic =
      if act.concerns connection topic then some act else latest? acts connection topic :=
  getLast?_filter_concat (Act.concerns connection topic) acts act

/-- The handler that an act gives to the routes it concerns. -/
def Act.handler? : Act H → Option H
  | .subscribe _ _ handler => some handler
  | _ => none

/-- An act settles the routes that it concerns, and leaves the others as they are. -/
theorem reroute_apply (routing : String → Nat → Option H) (act : Act H) (topic : String)
    (connection : Nat) :
    reroute routing act topic connection =
      if act.concerns connection topic then act.handler? else routing topic connection := by
  cases act with
  | subscribe caller name handler =>
    simp only [reroute, Act.concerns, Act.handler?, decide_eq_true_eq]
  | unsubscribe caller name =>
    simp only [reroute, Act.concerns, Act.handler?, decide_eq_true_eq]
  | close caller => simp only [reroute, Act.concerns, Act.handler?, decide_eq_true_eq]
  | _ => rfl

/-- Among the acts that concern a route, one subscription gives one handler. -/
theorem Act.handler?_eq_some_iff {act : Act H} {connection : Nat} {topic : String}
    (concerned : act.concerns connection topic = true) (handler : H) :
    act.handler? = some handler ↔ act = .subscribe connection topic handler := by
  cases act with
  | subscribe caller name given =>
    obtain ⟨rfl, rfl⟩ : topic = name ∧ connection = caller := of_decide_eq_true concerned
    simp [Act.handler?]
  | _ => exact ⟨nofun, nofun⟩

/-- What a connection has for a topic is what the last act that concerns it has left. -/
theorem routed_eq_some_iff (acts : List (Act H)) (topic : String) (connection : Nat) (handler : H) :
    routed acts topic connection = some handler ↔
      latest? acts connection topic = some (.subscribe connection topic handler) := by
  induction acts using List.reverseRecOn with
  | nil => exact ⟨nofun, nofun⟩
  | append_singleton acts act ih =>
    rw [routed_concat, reroute_apply, latest?_concat]
    split
    · next concerned =>
      rw [Option.some.injEq]
      exact act.handler?_eq_some_iff concerned handler
    · exact ih

/-! ## Acts on the table of routes -/

theorem occupied_step {w : Loopback H} (occupied : w.hub.Occupied) (act : Act H) :
    (w.step act).2.hub.Occupied := by
  cases act with
  | subscribe connection topic handler => exact occupied.subscribe connection topic handler
  | unsubscribe connection topic => exact occupied.unsubscribe connection topic
  | close connection => exact w.hub.occupied_detach connection
  | _ => exact occupied.of_routes (w.frame_step rfl).1

theorem occupied_after (name : String) (acts : List (Act H)) :
    (after name acts).hub.Occupied := by
  induction acts using List.reverseRecOn with
  | nil => exact Hub.occupied_start name
  | append_singleton acts act ih =>
    rw [after_concat]
    exact occupied_step ih act

/-- A call changes no route but the caller's own. -/
theorem route?_step_of_ne (w : Loopback H) {act : Act H} {other : Nat}
    (stranger : act.caller? ≠ some other) (topic : String) :
    (w.step act).2.hub.route? topic other = w.hub.route? topic other := by
  cases act with
  | subscribe connection name handler =>
    exact (w.hub.beside_subscribe connection name handler).route? topic other
      fun same => stranger (congrArg some same.symm)
  | unsubscribe connection name =>
    exact (w.hub.beside_unsubscribe connection name).route? topic other
      fun same => stranger (congrArg some same.symm)
  | close connection =>
    exact (w.hub.beside_detach connection).route? topic other
      fun same => stranger (congrArg some same.symm)
  | _ => exact Hub.route?_of_routes (w.frame_step rfl).1 topic other

/-! ## Connections -/

/-- The identity that a connection gets if an act opens one. -/
def identity? (w : Loopback H) : Act H → Option Nat
  | .connect => some w.hub.connect.1
  | _ => none

/-- The identities of the connections that acts open, one after another. -/
def opened (w : Loopback H) : List (Act H) → List Nat
  | [] => []
  | act :: rest => (w.identity? act).toList ++ (w.step act).2.opened rest

theorem connections_step (w : Loopback H) {act : Act H} (other : act ≠ .connect) :
    (w.step act).2.hub.connections = w.hub.connections := by
  cases act with
  | subscribe connection topic handler => rfl
  | unsubscribe connection topic => exact (w.hub.beside_unsubscribe connection topic).connections
  | close connection => rfl
  | _ => exact (w.frame_step rfl).2 other

/-- Connections are numbered on from those that were open before. -/
theorem opened_eq_range' (w : Loopback H) (acts : List (Act H)) :
    ∃ count, w.opened acts = List.range' w.hub.connections count := by
  induction acts generalizing w with
  | nil => exact ⟨0, rfl⟩
  | cons act rest ih =>
    obtain ⟨count, later⟩ := ih (w.step act).2
    by_cases opens : act = .connect
    · subst opens
      refine ⟨count + 1, ?_⟩
      rw [opened, later]
      rfl
    · refine ⟨count, ?_⟩
      have silent : w.identity? act = none := by
        cases act with
        | connect => contradiction
        | _ => rfl
      rw [opened, silent, later, w.connections_step opens]
      rfl

/-! ## The table of routes -/

/-- Who is routed for what after acts on a new hub. -/
structure KeepsRoutes (name : String) (acts : List (Act H)) : Prop where
  /-- No two connections have one identity. -/
  identities : (opened (start name) acts).Nodup
  /-- A connection has a handler for a topic if its last call that concerns the topic subscribed with
  that handler. -/
  routed : ∀ topic connection handler,
    (after name acts).hub.route? topic connection = some handler ↔
      latest? acts connection topic = some (.subscribe connection topic handler)
  /-- Whatever is done next, nobody but the one who does it gets or loses a route. -/
  others : ∀ (act : Act H) other, act.caller? ≠ some other → ∀ topic,
    ((after name acts).step act).2.hub.route? topic other = (after name acts).hub.route? topic other
  occupied : ∀ topic listeners, (after name acts).hub.routes.get? topic = some listeners →
    listeners.isEmpty = false
  topicCount : {topic | ∃ connection handler,
    (after name acts).hub.route? topic connection = some handler}.encard =
      (after name acts).hub.topicCount

/-- However the calls of connections follow one another, and whatever else happens between them, the
routes of a hub are those that the last calls have left, and no topic is kept without one. -/
theorem keepsRoutes_after (name : String) (acts : List (Act H)) : KeepsRoutes name acts := by
  have occupied := occupied_after name acts
  constructor
  case identities =>
    obtain ⟨count, numbered⟩ := opened_eq_range' (start name) acts
    rw [numbered]
    exact List.nodup_range'
  case routed =>
    intro topic connection handler
    rw [route?_after]
    exact routed_eq_some_iff acts topic connection handler
  case others => exact fun act other stranger topic => route?_step_of_ne _ stranger topic
  case occupied => exact occupied
  case topicCount => exact occupied.encard_topics

/-- A topic stays while another connection has a route for it, and goes with the last one. -/
example :
    let acts : List (Act Char) := [.connect, .subscribe 0 "town" 'a', .connect,
      .subscribe 1 "town" 'b', .subscribe 1 "wood" 'b', .subscribe 0 "town" 'c', .close 1]
    (after "hub" acts).hub.route? "town" 0 = some 'c' ∧ (after "hub" acts).hub.topicCount = 1 ∧
      (after "hub" (acts ++ [.unsubscribe 0 "town"])).hub.topicCount = 0 := by
  decide

end Loopback

end Vicinity

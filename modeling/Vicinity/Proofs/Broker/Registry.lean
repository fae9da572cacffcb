import Mathlib.Data.Set.Card
import Mathlib.Logic.Function.Basic
import Vicinity.Network.Basic
import Vicinity.Proofs.Delivery
import Vicinity.Proofs.Table

/-! # Registries

A registry is what any arrangement of topics and channels comes to: for each topic a table of its
subscribers, each with the callback that it registered first. There is nothing to make or to evict,
since a topic exists exactly while its table has an entry. A plain broker serves requests with one
registry and its counters, and is the broker against which the others are measured.
-/

namespace Vicinity

variable {T S C J M W : Type}

/-- For each topic, its subscribers with their callbacks. -/
abbrev Registry (T S C : Type) := T → Table S C

namespace Registry

def empty : Registry T S C := fun _ => ∅

/-- A topic exists while it has a subscriber. -/
def hasTopic (g : Registry T S C) (t : T) : Bool := !(g t).isEmpty

def topics (g : Registry T S C) : Set T := {t | g.hasTopic t = true}

variable [DecidableEq T] [DecidableEq S]

/-- A subscriber that is registered already keeps its callback. -/
def subscribe (g : Registry T S C) (t : T) (s : S) (callback : C) : Registry T S C :=
  Function.update g t ((g t).insertNew s callback)

def unsubscribe (g : Registry T S C) (t : T) (s : S) : Registry T S C :=
  Function.update g t ((g t).erase s)

theorem subscribe_apply (g : Registry T S C) (t : T) (s : S) (callback : C) (other : T) :
    g.subscribe t s callback other = if other = t then (g t).insertNew s callback else g other :=
  Function.update_apply g t _ other

theorem unsubscribe_apply (g : Registry T S C) (t : T) (s : S) (other : T) :
    g.unsubscribe t s other = if other = t then (g t).erase s else g other :=
  Function.update_apply g t _ other

theorem get?_subscribe (g : Registry T S C) (t : T) (s : S) (callback : C) (other : T) (asked : S) :
    (g.subscribe t s callback other).get? asked =
      ((g other).get? asked).or (if other = t ∧ asked = s then some callback else none) := by
  rw [subscribe_apply]
  by_cases same : other = t
  · rw [if_pos same, Table.get?_insertNew, same]
    simp only [true_and]
  · rw [if_neg same, if_neg fun both => same both.1, Option.or_none]

theorem get?_unsubscribe (g : Registry T S C) (t : T) (s : S) (other : T) (asked : S) :
    (g.unsubscribe t s other).get? asked =
      if other = t ∧ asked = s then none else (g other).get? asked := by
  rw [unsubscribe_apply]
  by_cases same : other = t
  · rw [if_pos same, Table.get?_erase, same]
    simp only [true_and]
  · rw [if_neg same, if_neg fun both => same both.1]

/-- What a request does to the registrations. -/
def serve (g : Registry T S C) : Request T S C M → Registry T S C
  | .subscribe t s callback => g.subscribe t s callback
  | .unsubscribe t s => g.unsubscribe t s
  | .publish _ _ | .close => g

omit [DecidableEq T] in
theorem hasTopic_iff (g : Registry T S C) (t : T) :
    g.hasTopic t = true ↔ ∃ s callback, (g t).get? s = some callback := by
  rw [hasTopic, Bool.not_eq_true', Table.isEmpty_eq_false_iff]

end Registry

/-- A broker that is one registry and counters. -/
structure PlainBroker (T S C : Type) where
  registry : Registry T S C
  metrics : BrokerMetrics

namespace PlainBroker

def new : PlainBroker T S C := ⟨.empty, .zero⟩

/-- Deliver to the subscribers of a topic, and count the publication. -/
def publish (call : C → W → Outcome × W) (p : PlainBroker T S C) (t : T) (world : W) :
    PlainBroker T S C × W :=
  if p.registry.hasTopic t then
    let (report, after) := deliverAll call (p.registry t).values world
    ({ p with metrics := p.metrics.recordPublish (some report) }, after)
  else ({ p with metrics := p.metrics.recordPublish none }, world)

/-- A publication calls the callbacks of its topic once each. -/
theorem publish_snd (call : C → W → Outcome × W) (p : PlainBroker T S C) (t : T) (world : W) :
    (p.publish call t world).2 = runAll call (p.registry t).values world := by
  rw [publish]
  cases there : p.registry.hasTopic t with
  | true => exact deliverAll_snd call _ world
  | false =>
    rw [Registry.hasTopic, Bool.not_eq_false'] at there
    rw [Table.eq_empty_of_isEmpty there]
    rfl

theorem publish_registry (call : C → W → Outcome × W) (p : PlainBroker T S C) (t : T) (world : W) :
    (p.publish call t world).1.registry = p.registry := by
  rw [publish]
  split <;> rfl

variable [DecidableEq T] [DecidableEq S]

/-- Serve one request, with callbacks that act on a journal. -/
def serve (run : C → M → J → Outcome × J) (state : PlainBroker T S C × J) :
    Request T S C M → PlainBroker T S C × J
  | .subscribe t s callback =>
    ({ state.1 with registry := state.1.registry.subscribe t s callback }, state.2)
  | .unsubscribe t s => ({ state.1 with registry := state.1.registry.unsubscribe t s }, state.2)
  | .publish t message => state.1.publish (fun callback => run callback message) t state.2
  | .close => state

/-- Serve requests one after another. -/
def serveAll (run : C → M → J → Outcome × J) (state : PlainBroker T S C × J)
    (requests : List (Request T S C M)) : PlainBroker T S C × J :=
  requests.foldl (serve run) state

theorem serveAll_append (run : C → M → J → Outcome × J) (state : PlainBroker T S C × J)
    (first second : List (Request T S C M)) :
    serveAll run state (first ++ second) = serveAll run (serveAll run state first) second :=
  List.foldl_append

theorem serveAll_unsubscribe (run : C → M → J → Outcome × J) (state : PlainBroker T S C × J)
    (topics : List T) (s : S) (t : T) (other : S) :
    ((serveAll run state (topics.map fun t => .unsubscribe t s)).1.registry t).get? other =
      if other = s ∧ t ∈ topics then none else (state.1.registry t).get? other := by
  induction topics generalizing state with
  | nil => simp [serveAll]
  | cons head rest ih =>
    rw [List.map_cons, serveAll, List.foldl_cons, ← serveAll, ih]
    simp only [serve, Registry.get?_unsubscribe, List.mem_cons]
    by_cases own : other = s <;> by_cases first : t = head <;> by_cases listed : t ∈ rest <;>
      simp [own, first, listed]

theorem serveAll_subscribe (run : C → M → J → Outcome × J) (state : PlainBroker T S C × J)
    (topics : List T) (s : S) (callback : C) (t : T) (other : S) :
    ((serveAll run state (topics.map fun t => .subscribe t s callback)).1.registry t).get? other =
      ((state.1.registry t).get? other).or
        (if other = s ∧ t ∈ topics then some callback else none) := by
  induction topics generalizing state with
  | nil => simp [serveAll]
  | cons head rest ih =>
    rw [List.map_cons, serveAll, List.foldl_cons, ← serveAll, ih]
    simp only [serve, Registry.get?_subscribe, List.mem_cons]
    by_cases own : other = s <;> by_cases first : t = head <;> by_cases listed : t ∈ rest <;>
      simp [own, first, listed]

/-- Publications leave the registry alone and call the callbacks of each topic in turn. -/
theorem serveAll_publish (run : C → M → J → Outcome × J) (state : PlainBroker T S C × J)
    (topics : List T) (message : M) :
    (serveAll run state (topics.map fun t => .publish t message)).1.registry = state.1.registry ∧
    (serveAll run state (topics.map fun t => .publish t message)).2 =
      runAll (fun callback => run callback message)
        (topics.flatMap fun t => (state.1.registry t).values) state.2 := by
  induction topics generalizing state with
  | nil => exact ⟨rfl, rfl⟩
  | cons head rest ih =>
    rw [List.map_cons, serveAll, List.foldl_cons, ← serveAll, List.flatMap_cons, runAll_append]
    obtain ⟨registry, journal⟩ := ih (serve run state (.publish head message))
    have same := publish_registry (fun callback => run callback message) state.1 head state.2
    refine ⟨registry.trans same, journal.trans ?_⟩
    rw [← publish_snd (fun callback => run callback message) state.1 head state.2]
    simp only [serve, same]

end PlainBroker

end Vicinity

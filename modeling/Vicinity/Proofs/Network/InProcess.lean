import Vicinity.Proofs.Network.Basic

/-! # In-process nodes serve as plain brokers do

With callbacks that act on the journal alone, an in-process node of any layout, with channels of any
kind, serves every request as a plain broker does: `Mirrors` relates the two, one request preserves
it, and so does a run. What can be observed of the node follows from the relation, for every layout
alike.
-/

namespace Vicinity

variable {T S C J M : Type}

namespace Network

variable [DecidableEq T] [DecidableEq S] [Hashable T]

/-- Ask a node for requests, one after another. -/
def requestAll (wire : Wire T M) (call : Call T S C J M) (w : Network T S C J) (n : Nat)
    (requests : List (Request T S C M)) : Network T S C J :=
  requests.foldl (fun w r => (w.request wire call n r).2) w

/-- A node is in-process and shows what a plain broker does, and the journals are the same. -/
structure Mirrors (w : Network T S C J) (n : Nat) (state : PlainBroker T S C × J) : Prop where
  node : ∃ broker, w.node? n = some (.inProcess broker) ∧ broker.Holds state.1.registry ∧
    broker.stats = state.1.metrics
  journal : w.journal = state.2

omit [DecidableEq S] in
theorem mirrors_new (layout : Layout) (kind : ChannelKind) (journal : J) :
    ((new journal : Network T S C J).addInProcess layout kind).Mirrors 0 (.new, journal) :=
  ⟨⟨.new layout kind, rfl, InProcessBroker.holds_new layout kind, by cases layout <;> rfl⟩, rfl⟩

omit [DecidableEq T] [DecidableEq S] [Hashable T] in
theorem recordPublish_eq {w : Network T S C J} {n : Nat} {broker : InProcessBroker T S C}
    (there : w.node? n = some (.inProcess broker)) (report : Option DeliveryReport) :
    w.recordPublish n report = w.withNode n (.inProcess (broker.record report)) := by
  simp only [recordPublish, there]

/-- A publication on a mirrored node is one on the plain broker. -/
theorem Mirrors.publish {w : Network T S C J} {n : Nat} {state : PlainBroker T S C × J}
    (mirrors : w.Mirrors n state) (wire : Wire T M) (run : C → M → J → Outcome × J) (t : T)
    (message : M) :
    (w.request wire (onJournal run) n (.publish t message)).2.Mirrors n
      (state.1.publish (fun callback => run callback message) t state.2) := by
  obtain ⟨⟨broker, there, holds, counted⟩, same⟩ := mirrors
  have exists_eq : (broker.channel? t).isSome = state.1.registry.hasTopic t := holds.hasTopic t
  simp only [Network.request, there, requestInProcess, PlainBroker.publish]
  cases found : broker.channel? t with
  | none =>
    rw [found, Option.isSome_none] at exists_eq
    rw [if_neg (by rw [← exists_eq]; decide)]
    dsimp only
    rw [recordPublish_eq there]
    refine ⟨⟨_, node?_withNode there _, holds.record none, ?_⟩, same⟩
    rw [InProcessBroker.stats_record, counted]
  | some channel =>
    rw [found, Option.isSome_some] at exists_eq
    rw [if_pos exists_eq.symm]
    dsimp only
    rw [publish_onJournal, holds.channel?_eq_some found, ← same]
    dsimp only [Prod.map]
    have kept : (w.withJournal (deliverAll (fun callback => run callback message)
        (state.1.registry t).values w.journal).2).node? n = some (.inProcess broker) := there
    rw [recordPublish_eq kept]
    refine ⟨⟨_, node?_withNode kept _, holds.record _, ?_⟩, rfl⟩
    rw [InProcessBroker.stats_record, counted]
    rfl

/-- One request keeps a node and its plain broker together. -/
theorem Mirrors.request {w : Network T S C J} {n : Nat} {state : PlainBroker T S C × J}
    (mirrors : w.Mirrors n state) (wire : Wire T M) (run : C → M → J → Outcome × J)
    (r : Request T S C M) :
    (w.request wire (onJournal run) n r).2.Mirrors n (PlainBroker.serve run state r) := by
  cases r with
  | publish t message => exact mirrors.publish wire run t message
  | subscribe t s callback =>
    obtain ⟨⟨broker, there, holds, counted⟩, same⟩ := mirrors
    simp only [Network.request, there]
    refine ⟨⟨_, node?_withNode there _, holds.subscribe t s callback, ?_⟩, same⟩
    exact (broker.stats_subscribe t s callback).trans counted
  | unsubscribe t s =>
    obtain ⟨⟨broker, there, holds, counted⟩, same⟩ := mirrors
    simp only [Network.request, there]
    refine ⟨⟨_, node?_withNode there _, holds.unsubscribe t s, ?_⟩, same⟩
    exact (broker.stats_unsubscribe t s).trans counted
  | close =>
    obtain ⟨⟨broker, there, holds, counted⟩, same⟩ := mirrors
    simp only [Network.request, there]
    exact ⟨⟨broker, there, holds, counted⟩, same⟩

/-- A run of requests keeps a node and its plain broker together. -/
theorem Mirrors.requestAll {w : Network T S C J} {n : Nat} {state : PlainBroker T S C × J}
    (mirrors : w.Mirrors n state) (wire : Wire T M) (run : C → M → J → Outcome × J)
    (requests : List (Request T S C M)) :
    (w.requestAll wire (onJournal run) n requests).Mirrors n
      (PlainBroker.serveAll run state requests) := by
  induction requests generalizing w state with
  | nil => exact mirrors
  | cons r rest ih => exact ih (mirrors.request wire run r)

/-- Whatever requests it has served, an in-process broker of any layout shows what a plain broker
shows that has served the same: the calls it has made, its topics and their number, its counters, and
the callbacks that the next publication calls. The number of shards, of which there is at least one,
and the hash that spreads topics over them make no difference, and callbacks may return or panic as
they like. -/
theorem inProcess_serves_as_plain (layout : Layout) (kind : ChannelKind) (wire : Wire T M)
    (run : C → M → J → Outcome × J) (journal : J) (requests : List (Request T S C M)) :
    let w := ((new journal : Network T S C J).addInProcess layout kind).requestAll wire
      (onJournal run) 0 requests
    let plain := PlainBroker.serveAll run (PlainBroker.new, journal) requests
    w.journal = plain.2 ∧
    (∃ node, w.node? 0 = some node ∧
      (∀ t, node.hasTopic t = plain.1.registry.hasTopic t) ∧
      plain.1.registry.topics.encard = node.topicCount ∧
      node.stats = plain.1.metrics) ∧
    (∀ t message, ∃ calls : List (S × C), calls.Perm (plain.1.registry t).entries ∧
      (w.request wire (onJournal run) 0 (.publish t message)).2.journal =
        runAll (fun call => run call.2 message) calls w.journal) ∧
    ∀ shards, (ShardedBroker.new kind shards : ShardedBroker T S C).shardCount = max shards 1 := by
  intro w plain
  have mirrors : w.Mirrors 0 plain := (mirrors_new layout kind journal).requestAll wire run requests
  obtain ⟨broker, there, holds, counted⟩ := mirrors.node
  refine ⟨mirrors.journal, ⟨_, there, holds.hasTopic, holds.topicCount, counted⟩, ?_,
    ShardedBroker.shardCount_new kind⟩
  intro t message
  refine ⟨_, .refl _, (mirrors.publish wire run t message).journal.trans ?_⟩
  rw [PlainBroker.publish_snd, Table.values, runAll_map, mirrors.journal]

end Network

end Vicinity

import Vicinity.Proofs.Network.Acts

/-! # Acts that spare a node

An act spares a node when it asks it for nothing. Such an act neither changes the node nor depends on
what is counted there: done to the network and to the same network without those counts, it leaves the
one and the same without the counts.
-/

namespace Vicinity

variable {T S C M J : Type}

/-- A node with nothing counted at it. -/
def Node.uncounted : Node T S C → Node T S C
  | inProcess broker => inProcess broker
  | middleware broker => middleware { broker with metrics := .zero }

/-- Whether an act asks a node for nothing. -/
def Act.spares (n : Nat) : Act T S C M → Bool
  | request m _ => m != n
  | join _ _ => true
  | frame _ _ _ => true

/-- Whether an event is no request to a node. -/
def NetworkEvent.spares (n : Nat) : NetworkEvent T S C M → Bool
  | act own => own.spares n
  | turn _ _ => true
  | dispatch _ => true
  | handle _ _ => true

/-- What a callback does but for its requests to a node. -/
def Reaction.sparing (n : Nat) (reaction : Reaction T S C M J) : Reaction T S C M J :=
  { reaction with acts := reaction.acts.filter (Act.spares n) }

theorem Reaction.sparing_sparing (n : Nat) (reaction : Reaction T S C M J) :
    (reaction.sparing n).sparing n = reaction.sparing n := by
  simp [sparing]

/-- Callbacks that ask a node for nothing and else do what others do. -/
def sparing (n : Nat) (react : C → M → J → Reaction T S C M J) : C → M → J → Reaction T S C M J :=
  fun callback message kept => (react callback message kept).sparing n

namespace Network

/-- A network with nothing counted at a node. -/
def uncounted (n : Nat) (w : Network T S C J) : Network T S C J :=
  { w with nodes := w.nodes.modify n Node.uncounted }

theorem eq_of_node? {v w : Network T S C J} (nodes : ∀ m, v.node? m = w.node? m)
    (connector : v.connector = w.connector) (journal : v.journal = w.journal) : v = w := by
  obtain ⟨list, _, _⟩ := v
  obtain ⟨other, _, _⟩ := w
  obtain rfl : list = other := List.ext_getElem? nodes
  cases connector
  cases journal
  rfl

variable {w : Network T S C J} {n : Nat}

theorem node?_uncounted : (w.uncounted n).node? n = (w.node? n).map Node.uncounted := by
  simp [uncounted, node?]

theorem node?_uncounted_of_ne {m : Nat} (different : m ≠ n) : (w.uncounted n).node? m = w.node? m := by
  simp [uncounted, node?, Ne.symm different]

/-- What is counted at the node makes no difference. -/
theorem uncounted_recount {broker : MiddlewareBroker T S C}
    (there : w.node? n = some (.middleware broker)) (metrics : BrokerMetrics) :
    (w.withNode n (.middleware { broker with metrics })).uncounted n = w.uncounted n := by
  refine eq_of_node? (fun m => ?_) rfl rfl
  by_cases own : m = n
  · subst own
    rw [node?_uncounted, node?_uncounted, node?_withNode there, there]
    rfl
  · rw [node?_uncounted_of_ne own, node?_uncounted_of_ne own, node?_withNode_of_ne w own]

theorem uncounted_withNode {m : Nat} {old : Node T S C} (there : w.node? m = some old)
    (different : m ≠ n) (node : Node T S C) :
    (w.withNode m node).uncounted n = (w.uncounted n).withNode m node := by
  refine eq_of_node? (fun k => ?_) rfl rfl
  have still : (w.uncounted n).node? m = some old := (node?_uncounted_of_ne different).trans there
  by_cases own : k = m
  · subst own
    rw [node?_uncounted_of_ne different, node?_withNode there, node?_withNode still]
  · rw [node?_withNode_of_ne _ own]
    by_cases counted : k = n
    · subst counted
      rw [node?_uncounted, node?_uncounted, node?_withNode_of_ne _ own]
    · rw [node?_uncounted_of_ne counted, node?_uncounted_of_ne counted, node?_withNode_of_ne _ own]

theorem length_uncounted (w : Network T S C J) (n : Nat) :
    (w.uncounted n).nodes.length = w.nodes.length :=
  List.length_modify ..

theorem uncounted_concat (known : n < w.nodes.length) (node : Node T S C) :
    { w with nodes := w.nodes ++ [node] }.uncounted n =
      { w.uncounted n with nodes := (w.uncounted n).nodes ++ [node] } := by
  refine eq_of_node? (fun m => ?_) rfl rfl
  rw [node?_concat, length_uncounted]
  by_cases own : m = n
  · subst own
    rw [node?_uncounted, node?_uncounted, node?_concat, if_neg known.ne, if_neg known.ne]
  · rw [node?_uncounted_of_ne own, node?_uncounted_of_ne own, node?_concat]

end Network

namespace ActingNetwork

variable {w : ActingNetwork T S C M J} {n : Nat}

/-- What a frame does to the hubs, and that is all it does, has nothing to do with the nodes. -/
theorem exists_sendRaw (connector : Connector (Inbound T)) (uri topic : String) (payload : ByteArray) :
    ∃ sent, ∀ w : ActingNetwork T S C M J, w.connector = connector →
      (w.sendRaw uri topic payload).2 = { w with connector := sent } := by
  cases connected : connector.connect uri with
  | error e =>
    refine ⟨connector, ?_⟩
    rintro w rfl
    rw [Network.sendRaw, connected]
  | ok opened =>
    obtain ⟨connection, opened⟩ := opened
    cases sent : ((opened.hub? connection.hub).getD (.start connection.hub)).publish topic payload with
    | error e =>
      refine ⟨opened, ?_⟩
      rintro w rfl
      rw [Network.sendRaw, connected]
      simp only [Network.hub, sent]
    | ok hub =>
      refine ⟨⟨opened.hubs.insert connection.hub hub⟩, ?_⟩
      rintro w rfl
      rw [Network.sendRaw, connected]
      simp only [Network.hub, sent, Network.withHub]

/-- Whether and where a node is added has nothing to do with the nodes there are. -/
theorem join_cases (connector : Connector (Inbound T)) (uri : String) (kind : ChannelKind) :
    (∃ e, ∀ w : ActingNetwork T S C M J, w.connector = connector →
      w.addMiddleware uri kind {} = .error e) ∨
    ∃ link connected, ∀ w : ActingNetwork T S C M J, w.connector = connector →
      w.addMiddleware uri kind {} = .ok { w with
        nodes := w.nodes ++ [.middleware (.new w.nodes.length uri kind link)]
        connector := connected } := by
  cases connected : connector.connect uri with
  | error e =>
    refine .inl ⟨e, ?_⟩
    rintro w rfl
    rw [Network.addMiddleware, connected]
    rfl
  | ok opened =>
    refine .inr ⟨⟨opened.1, {}⟩, opened.2, ?_⟩
    rintro w rfl
    rw [Network.addMiddleware, connected]
    rfl

variable [DecidableEq T] [DecidableEq S] [Hashable T]

/-- An act that asks a node for nothing leaves it as it is, keeps what is kept and noted of callbacks,
and does alike whatever is counted at the node. -/
theorem perform_sparing (sound : w.Sound) {node : Node T S (Owned C)} (there : w.node? n = some node)
    (wire : Wire T M) {act : Act T S C M} (spares : act.spares n = true) :
    (perform wire w act).node? n = some node ∧ (perform wire w act).journal = w.journal ∧
      perform wire (w.uncounted n) act = (perform wire w act).uncounted n := by
  cases act with
  | join uri kind =>
    rw [perform, perform]
    obtain ⟨e, refused⟩ | ⟨link, connector, joined⟩ := join_cases w.connector uri kind
    · rw [refused w rfl, refused (w.uncounted n) rfl]
      exact ⟨there, rfl, rfl⟩
    · have known : n < w.nodes.length := (List.getElem?_eq_some_iff.mp there).1
      rw [joined w rfl, joined (w.uncounted n) rfl, Network.length_uncounted]
      refine ⟨?_, rfl, ?_⟩
      · exact (Network.node?_concat w _ n).trans ((if_neg known.ne).trans there)
      · exact (Network.uncounted_concat (w := { w with connector }) known _).symm
  | frame uri topic payload =>
    obtain ⟨sent, eq⟩ := exists_sendRaw w.connector uri topic payload
    rw [perform, perform, eq w rfl, eq (w.uncounted n) rfl]
    exact ⟨there, rfl, rfl⟩
  | request m r =>
    have different : m ≠ n := bne_iff_ne.mp spares
    have same : (w.uncounted n).node? m = w.node? m := Network.node?_uncounted_of_ne different
    rw [perform, perform]
    cases found : w.node? m with
    | none =>
      rw [Network.request, Network.request, same, found]
      exact ⟨there, rfl, rfl⟩
    | some old =>
      obtain ⟨other, hub, rfl, -⟩ := sound.hosted m old found
      rw [request_middleware found, request_middleware (same.trans found)]
      refine ⟨(Network.node?_withNode_of_ne w different.symm _).trans there, rfl, ?_⟩
      rw [Network.withMiddleware, Network.withMiddleware, ← Network.uncounted_withNode found different]
      rfl

end ActingNetwork

end Vicinity

import Vicinity.Network.Basic
import Vicinity.Proofs.Broker.InProcess
import Vicinity.Proofs.Broker.Middleware

/-! # Nodes and journals

A node of either sort has, for every topic, a table of its subscribers. Callbacks that act on the
journal alone leave every node as it is, so a publication on a channel is a delivery on the journal.
-/

namespace Vicinity

variable {T S C J M : Type}

/-- The subscribers of a topic of a node, with their callbacks. -/
def Node.subscribers [DecidableEq T] [Hashable T] : Node T S C → T → Table S C
  | inProcess broker, t => broker.subscribers t
  | middleware broker, t => broker.subscribers t

namespace Network

theorem node?_withNode {w : Network T S C J} {n : Nat} {old : Node T S C}
    (there : w.node? n = some old) (node : Node T S C) : (w.withNode n node).node? n = some node := by
  have bound := (List.getElem?_eq_some_iff.mp there).1
  simp only [node?, withNode, List.getElem?_set_self bound]

theorem node?_withNode_of_ne (w : Network T S C J) {n other : Nat} (different : other ≠ n)
    (node : Node T S C) : (w.withNode n node).node? other = w.node? other :=
  List.getElem?_set_ne (Ne.symm different)

/-- A node that is put back as it was changes nothing. -/
theorem withNode_self {w : Network T S C J} {n : Nat} {node : Node T S C}
    (there : w.node? n = some node) : w.withNode n node = w := by
  obtain ⟨bound, rfl⟩ := List.getElem?_eq_some_iff.mp there
  rw [withNode, List.set_getElem_self]

theorem hub?_withHub (w : Network T S C J) (name : String) (hub : Hub (Inbound T)) (other : String) :
    (w.withHub name hub).connector.hub? other =
      if other = name then some hub else w.connector.hub? other :=
  Table.get?_insert ..

theorem hub_of_hub? {w : Network T S C J} {name : String} {hub : Hub (Inbound T)}
    (found : w.connector.hub? name = some hub) : w.hub name = hub := by
  rw [Network.hub, found]
  rfl

/-- A hub that is put back as it was changes nothing. -/
theorem withHub_self {w : Network T S C J} {name : String} {hub : Hub (Inbound T)}
    (found : w.connector.hub? name = some hub) : w.withHub name hub = w := by
  rw [withHub, Table.insert_of_get? found]

theorem node?_concat (w : Network T S C J) (node : Node T S C) (n : Nat) :
    { w with nodes := w.nodes ++ [node] }.node? n =
      if n = w.nodes.length then some node else w.node? n := by
  rw [node?, node?, List.getElem?_append]
  split
  · next less => rw [if_neg (by omega)]
  · next beyond =>
    split
    · next last => simp [last]
    · next further =>
      rw [List.getElem?_eq_none (by simp; omega), List.getElem?_eq_none (by omega)]

/-- The subscribers of a topic of the node of a number, of which a missing node has none. -/
def subscribers [DecidableEq T] [Hashable T] (w : Network T S C J) (n : Nat) (t : T) : Table S C :=
  ((w.node? n).map (·.subscribers t)).getD ∅

theorem subscribers_of_node? [DecidableEq T] [Hashable T] {w : Network T S C J} {n : Nat}
    {node : Node T S C} (there : w.node? n = some node) (t : T) :
    w.subscribers n t = node.subscribers t := by
  rw [subscribers, there]
  rfl

/-- What a frame for a node comes to: nothing, or a delivery to the subscribers of one of its topics. -/
theorem receive_cases [DecidableEq T] (wire : Wire T M) (payload : ByteArray) (inbound : Inbound T)
    (node : Option (Node T S C)) :
    (∀ call (w : Network T S C J), w.node? inbound.node = node →
      w.receive wire call payload inbound = w) ∨
    ∃ message broker route, node = some (.middleware broker) ∧
      broker.routes.get? inbound.topic = some route ∧
      ∀ call (w : Network T S C J), w.node? inbound.node = node →
        w.receive wire call payload inbound =
          let delivery := deliverAll (fun callback => call callback message)
            (broker.subscribers inbound.topic).values w
          delivery.2.recordDelivery inbound.node delivery.1 := by
  cases decoded : wire.codec.decode payload with
  | error e =>
    refine .inl fun call w there => ?_
    simp only [receive, decoded]
  | ok message =>
    rcases node with _ | broker | broker
    · refine .inl fun call w there => ?_
      simp only [receive, decoded, there]
    · refine .inl fun call w there => ?_
      simp only [receive, decoded, there]
    cases found : broker.routes.get? inbound.topic with
    | none =>
      refine .inl fun call w there => ?_
      simp only [receive, decoded, there, found]
    | some route =>
      refine .inr ⟨message, broker, route, rfl, found, fun call w there => ?_⟩
      simp only [receive, decoded, there, found, Channel.publish_eq,
        MiddlewareBroker.subscribers_of_some found]

def withJournal (w : Network T S C J) (journal : J) : Network T S C J := { w with journal }

/-- The call of callbacks that act on the journal alone. -/
def onJournal (run : C → M → J → Outcome × J) : Call T S C J M := fun callback message w =>
  (run callback message w.journal).map id w.withJournal

/-- Publishing on a channel with such callbacks is a delivery on the journal. -/
theorem publish_onJournal (run : C → M → J → Outcome × J) (channel : Channel S C) (message : M)
    (w : Network T S C J) :
    channel.publish (fun callback => onJournal run callback message) w =
      (deliverAll (fun callback => run callback message) channel.subscribers.values w.journal).map id
        w.withJournal := by
  rw [Channel.publish_eq]
  exact deliverAll_embed _ _ w.withJournal (fun _ _ => rfl) _ w.journal

end Network

end Vicinity

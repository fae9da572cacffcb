import Vicinity.Proofs.Broker.Registry

/-! # Exchanges

An exchange is one registry for the subscribers of all nodes, with the messages that are under way.
A message is delivered when its turn comes, to whoever is registered then, and a node that closes
leaves the registry for good. There is nothing to encode, to attach or to route. It is what nodes on
one hub are measured against.
-/

namespace Vicinity

variable {S C M : Type}

/-- What happens around one hub: a node joins, a node is asked for something, some other connection
sends a frame, or the dispatcher takes a step. -/
inductive HubEvent (S C M : Type) where
  | join (kind : ChannelKind)
  | request (node : Nat) (r : Request String S C M)
  | frame (topic : String) (payload : ByteArray)
  | dispatch

/-- One registry for all nodes. A message under way stands with its topic, and without content where
the frame says nothing. -/
structure Exchange (S C M : Type) where
  registry : Registry String (Nat × S) C
  inFlight : List (String × Option M)
  /-- Whether each node that has joined is still open. -/
  nodes : List Bool

namespace Exchange

def new : Exchange S C M := ⟨.empty, [], []⟩

def isOpen (x : Exchange S C M) (n : Nat) : Bool := x.nodes[n]?.getD false

/-- What a node is heard to publish: nothing when it is closed, or the message cannot be encoded. -/
def publications (codec : Codec M) (x : Exchange S C M) (n : Nat) (t : String) (message : M) :
    List (String × Option M) :=
  if x.isOpen n then
    match codec.encode message with
    | .error _ => []
    | .ok _ => [(t, some message)]
  else []

variable [DecidableEq S]

def request (codec : Codec M) (x : Exchange S C M) (n : Nat) :
    Request String S C M → Exchange S C M
  | .subscribe t s callback =>
    if x.isOpen n then { x with registry := x.registry.subscribe t (n, s) callback } else x
  | .unsubscribe t s => { x with registry := x.registry.unsubscribe t (n, s) }
  | .publish t message => { x with inFlight := x.inFlight ++ x.publications codec n t message }
  | .close =>
    { x with
      registry := fun t => (x.registry t).filter fun key _ => key.1 ≠ n
      nodes := x.nodes.set n false }

def step (codec : Codec M) (x : Exchange S C M) : HubEvent S C M → Exchange S C M
  | .join _ => { x with nodes := x.nodes ++ [true] }
  | .request n r => x.request codec n r
  | .frame t payload => { x with inFlight := x.inFlight ++ [(t, (codec.decode payload).toOption)] }
  | .dispatch => { x with inFlight := x.inFlight.tail }

/-- Two exchanges are the same but for one node, and for messages that the second has under way after
those of the first. -/
structure Beside (n : Nat) (x y : Exchange S C M) (sent : List (String × Option M)) : Prop where
  size : y.nodes.length = x.nodes.length
  isOpen : ∀ m, m ≠ n → y.isOpen m = x.isOpen m
  inFlight : y.inFlight = x.inFlight ++ sent
  registry : ∀ m, m ≠ n → ∀ t s, (y.registry t).get? (m, s) = (x.registry t).get? (m, s)

/-- What a node says when it is asked for something. -/
def sends (codec : Codec M) (x : Exchange S C M) (n : Nat) :
    Request String S C M → List (String × Option M)
  | .publish t message => x.publications codec n t message
  | _ => []

/-- A request to one node leaves the others alone. -/
theorem beside_request (codec : Codec M) (x : Exchange S C M) (n : Nat) (r : Request String S C M) :
    Beside n x (x.request codec n r) (x.sends codec n r) := by
  have elsewhere {m : Nat} (different : m ≠ n) (s key : S) : (m, key) ≠ (n, s) :=
    fun same => different (congrArg Prod.fst same)
  cases r with
  | publish t message => exact ⟨rfl, fun _ _ => rfl, rfl, fun _ _ _ _ => rfl⟩
  | subscribe t s callback =>
    dsimp only [request, sends]
    split
    · refine ⟨rfl, fun _ _ => rfl, (List.append_nil _).symm, fun m different other key => ?_⟩
      rw [Registry.get?_subscribe, if_neg fun both => elsewhere different s key both.2,
        Option.or_none]
    · exact ⟨rfl, fun _ _ => rfl, (List.append_nil _).symm, fun _ _ _ _ => rfl⟩
  | unsubscribe t s =>
    refine ⟨rfl, fun _ _ => rfl, (List.append_nil _).symm, fun m different other key => ?_⟩
    dsimp only [request]
    rw [Registry.get?_unsubscribe, if_neg fun both => elsewhere different s key both.2]
  | close =>
    refine ⟨List.length_set, fun m different => ?_, (List.append_nil _).symm,
      fun m different other key => ?_⟩
    · simp only [isOpen, request, List.getElem?_set_ne (Ne.symm different)]
    · dsimp only [request]
      rw [Table.get?_filter]
      cases (x.registry other).get? (m, key) <;> simp [different]

end Exchange

end Vicinity

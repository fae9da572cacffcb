import Vicinity.Interest.Policy
import Vicinity.Table
import Vicinity.Text.Quoted

/-! # Bounded inconsistency

A dyconit is a named group of updates that may lag behind by a bounded amount: by so many ticks, and
by so much accumulated weight. A dyconit policy answers for each subscriber with a list of commands;
carried out in order they give the subscriber's dyconits with their bounds. The adapter turns such a
policy into an interest policy whose topics are the names of dyconits.
-/

namespace Vicinity

/-- How far a dyconit may lag: in ticks, and in accumulated weight. -/
structure Bounds where
  staleness : UInt32
  numerical : UInt32
deriving DecidableEq, Repr, Inhabited

namespace Bounds

/-- The largest bound of either sort. -/
def unlimited : UInt32 := .ofNat (UInt32.size - 1)

def zero : Bounds := ⟨0, 0⟩
def infinite : Bounds := ⟨unlimited, unlimited⟩

def isZero (b : Bounds) : Bool := b == zero

end Bounds

namespace Dyconit

/-- One change of a subscriber's dyconits. -/
inductive Command where
  | subscribe (name : String) (bounds : Bounds)
  | unsubscribe (name : String)
deriving DecidableEq, Repr, Inhabited

/-- The dyconit that a command is about. -/
def Command.name : Command → String
  | subscribe name _ => name
  | unsubscribe name => name

/-- Carry out one command. -/
def Command.apply (held : Table String Bounds) : Command → Table String Bounds
  | subscribe name bounds => held.insert name bounds
  | unsubscribe name => held.erase name

/-- The dyconits that a list of commands leaves, carried out in order from none. -/
def applyAll (commands : List Command) : Table String Bounds :=
  commands.foldl Command.apply ∅

/-- How subscribers of type `V` are divided among dyconits, and what messages of type `M` weigh. -/
structure Policy (V M : Type) where
  name : String
  affected : Publisher → Except UnsupportedPublisher String
  update : V → List Command
  weigh : M → UInt32

/-- A dyconit policy in use, which may be exchanged for another at any time. -/
structure Adapter (V M : Type) where
  policy : Policy V M

namespace Adapter

variable {V M : Type}

/-- Use another policy from now on; the one used before is returned. -/
def exchange (adapter : Adapter V M) (policy : Policy V M) : Policy V M × Adapter V M :=
  (adapter.policy, ⟨policy⟩)

/-- A subscriber's dyconits with their bounds. -/
def bounds (adapter : Adapter V M) (subscriber : V) : Table String Bounds :=
  applyAll (adapter.policy.update subscriber)

def interest (adapter : Adapter V M) (subscriber : V) : TopicSet String :=
  ⟨(adapter.bounds subscriber).keys, (adapter.bounds subscriber).nodup⟩

def targets (adapter : Adapter V M) (publisher : Publisher) :
    Except UnsupportedPublisher (List String) :=
  (adapter.policy.affected publisher).map fun name => [name]

def weigh (adapter : Adapter V M) (message : M) : UInt32 := adapter.policy.weigh message

/-- The interest policy whose topics are the names of dyconits. -/
def toPolicy (adapter : Adapter V M) : Vicinity.Policy V String where
  interest := adapter.interest
  targets := adapter.targets

/-- The adapter as diagnostics show it: by the name of its policy. -/
def describe (adapter : Adapter V M) : String :=
  "DyconitPolicyAdapter \x7b policy: " ++ Text.quoted adapter.policy.name ++ " \x7d"

end Adapter

end Dyconit

end Vicinity

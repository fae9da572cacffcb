import Vicinity.System.Basic

/-! # Callbacks that take notes

The simplest callbacks of a messaging system note each message they are called with and then return
or panic, always in the same way. Their journal is the list of the notes, the oldest first.
-/

namespace Vicinity

/-- A callback that notes messages under a tag. -/
structure NoteTaker where
  tag : String
  outcome : Outcome
deriving DecidableEq, Repr, Inhabited

/-- That a subscriber's callback was called with a message. -/
structure Note (S M : Type) where
  subscriber : S
  tag : String
  message : M
deriving DecidableEq, Repr, Inhabited

/-- Note a call for a subscriber. -/
def NoteTaker.call {V S M : Type} (keyOf : V → S) (owner : V) (taker : NoteTaker) (message : M)
    (notes : List (Note S M)) : Outcome × List (Note S M) :=
  (taker.outcome, notes ++ [⟨keyOf owner, taker.tag, message⟩])

/-- A system whose callbacks take notes. -/
abbrev NotedSystem (V S T M : Type) := MessagingSystem V S T NoteTaker (List (Note S M))

/-- The fixed parts of a system whose callbacks take notes. -/
def Deployment.noting {V S T M : Type} (wire : Wire T M) (keyOf : V → S) (filter : Filter V M) :
    Deployment V S T M NoteTaker (List (Note S M)) :=
  ⟨wire, keyOf, filter, NoteTaker.call keyOf⟩

end Vicinity

import Vicinity.Proofs.Queue.Basic

/-! # Requests to a queue

A queue serves its requests one at a time, so a run of it is a row of requests, whoever makes them. A
transaction is a request with a body, which is a row of steps of its own; tests and changes that are
handed in may remember what they were shown. Waiting for an element is a row of attempts to take
one, of which the last succeeds, or finds the queue closed and empty, or comes when the time has
expired.

What a request does to the queue is `serve`, with the elements that come back from it. Beside that
stands what it does to the insertions: `arrivals` are the elements that it puts in, and `gone` the
slots that it takes out, which are `handed` to whoever makes the request or `discarded`.
-/

namespace Vicinity

variable {E S A : Type}

/-- What a transaction can do with a queue. A look is any view of the queue. -/
inductive QueueStep (E : Type) : Type 1 where
  | add (e : E)
  | addAll (elements : List E)
  | removeIf {S : Type} (test : Test E S) (s : S)
  | changeAll {S : Type} (change : E → S → E × S) (s : S)
  | sort
  | look {A : Type} (view : Queue E → A)

/-- What can be asked of a queue. A look is any view of the queue. -/
inductive QueueRequest (E : Type) : Type 1 where
  | add (e : E)
  | addAll (elements : List E)
  | poll
  | take
  | takeWithin (expired : Bool)
  | drain (limit : Nat)
  | drainAll
  | remove (e : E)
  | removeAll (elements : List E)
  | removeIf {S : Type} (test : Test E S) (s : S)
  | retain {S : Type} (test : Test E S) (s : S)
  | update (additions removals : List E)
  | clear
  | sort
  | close
  | look {A : Type} (view : Queue E → A)
  | transaction (body : List (QueueStep E))

namespace QueueStep

def arrivals : QueueStep E → List E
  | add e => [e]
  | addAll elements => elements
  | _ => []

/-- Whether a step only looks at the elements, changes them in place or puts them in order. -/
def isStill : QueueStep E → Bool
  | changeAll _ _ | sort | look _ => true
  | _ => false

/-- The changes that a step may make to an element in place. -/
def Alters : QueueStep E → E → E → Prop
  | changeAll change _, old, new => ∃ s, new = (change old s).1
  | _, _, _ => False

end QueueStep

namespace QueueRequest

/-- The transaction that an update is, but for what becomes of the elements it removes. -/
def updating [DecidableEq E] (additions removals : List E) : List (QueueStep E) :=
  [.removeIf (.plain removals.contains) (), .addAll additions, .sort]

/-- The elements that a request puts into the queue, in the order in which it does. -/
def arrivals : QueueRequest E → List E
  | add e => [e]
  | addAll elements => elements
  | update additions _ => additions
  | transaction body => body.flatMap QueueStep.arrivals
  | _ => []

/-- Whether a request gives up the elements that it takes out. -/
def discards : QueueRequest E → Bool
  | remove _ | removeAll _ | retain _ _ | update _ _ | clear => true
  | _ => false

/-- Whether a request only looks at the elements, changes them in place or puts them in order. -/
def isStill : QueueRequest E → Bool
  | sort | close | look _ => true
  | transaction body => body.all QueueStep.isStill
  | _ => false

/-- The changes that a request may make to an element in place. -/
def Alters : QueueRequest E → E → E → Prop
  | transaction body, old, new => ∃ step ∈ body, step.Alters old new
  | _, _, _ => False

end QueueRequest

/-- The element that was taken, if there is one. -/
def Taken.toList : Taken E → List E
  | element e => [e]
  | _ => []

namespace Queue

/-- The slots of a queue that are not in another any more. -/
def left (q after : Queue E) : List (Slot E) :=
  q.slots.filter fun slot => slot.number ∉ after.slots.map Slot.number

variable (compare : E → E → Ordering)

/-- The elements that come back from a step, and the queue after it. -/
def step (q : Queue E) : QueueStep E → List E × Queue E
  | .add e => ([], q.add e)
  | .addAll elements => ([], q.addAll elements)
  | .removeIf test s => q.removeIf test s
  | .changeAll change s => ([], q.changeAll change s)
  | .sort => ([], q.sort compare)
  | .look _ => ([], q)

/-- The elements that come back from the steps of a transaction, and the queue after them. -/
def transact (q : Queue E) : List (QueueStep E) → List E × Queue E
  | [] => ([], q)
  | step :: rest =>
    let (back, next) := q.step compare step
    let (later, last) := next.transact rest
    (back ++ later, last)

/-- The slots that the steps of a transaction take out. -/
def goneInSteps (q : Queue E) : List (QueueStep E) → List (Slot E)
  | [] => []
  | step :: rest =>
    q.left (q.step compare step).2 ++ (q.step compare step).2.goneInSteps rest

variable [DecidableEq E]

/-- The elements that come back from a request, and the queue after it. -/
def serve (q : Queue E) : QueueRequest E → List E × Queue E
  | .add e => ([], q.add e)
  | .addAll elements => ([], q.addAll elements)
  | .poll => q.poll.elim ([], q) fun handed => ([handed.1], handed.2)
  | .take => q.take.map Taken.toList id
  | .takeWithin expired => (q.takeWithin expired).map Taken.toList id
  | .drain limit => q.drain limit
  | .drainAll => q.drainAll
  | .remove e => ([], (q.remove e).2)
  | .removeAll elements => ([], (q.removeAll elements).2)
  | .removeIf test s => q.removeIf test s
  | .retain test s => ([], (q.retain test s).2)
  | .update additions removals => ([], q.update compare additions removals)
  | .clear => ([], q.clear)
  | .sort => ([], q.sort compare)
  | .close => ([], q.close)
  | .look _ => ([], q)
  | .transaction body => q.transact compare body

/-- The slots that a request takes out. -/
def gone (q : Queue E) : QueueRequest E → List (Slot E)
  | .update additions removals => q.goneInSteps compare (QueueRequest.updating additions removals)
  | .transaction body => q.goneInSteps compare body
  | request => q.left (q.serve compare request).2

def handed (q : Queue E) (request : QueueRequest E) : List (Slot E) :=
  if request.discards then [] else q.gone compare request

def discarded (q : Queue E) (request : QueueRequest E) : List (Slot E) :=
  if request.discards then q.gone compare request else []

/-- Serve requests one after another. -/
def run (q : Queue E) (requests : List (QueueRequest E)) : Queue E :=
  requests.foldl (fun q request => (q.serve compare request).2) q

/-- What is found at the requests of a run, one after another. -/
def gather (find : Queue E → QueueRequest E → List A) (q : Queue E) :
    List (QueueRequest E) → List A
  | [] => []
  | request :: rest => find q request ++ (q.serve compare request).2.gather find rest

end Queue

end Vicinity

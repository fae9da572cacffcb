import Vicinity.Queue.Basic

/-! # How queues are kept

The slots of a queue are kept in an array, the other way round: the last one is handed out next, so
neither adding an element nor handing one out moves any other. What goes through the elements in the
order in which they will be handed out goes through the array from its end. Searching for an element
to remove and changing elements in place begin at the other end.
-/

namespace Vicinity

structure QueueStore (E : Type) where
  /-- The slots, of which the last one will be handed out next. -/
  slots : Array (Slot E)
  /-- The number of the next addition. -/
  next : Nat
  closed : Bool
deriving DecidableEq, Repr

namespace QueueStore

variable {E S A : Type}

def empty : QueueStore E := ⟨#[], 0, false⟩

instance : EmptyCollection (QueueStore E) := ⟨empty⟩
instance : Inhabited (QueueStore E) := ⟨empty⟩

def size (q : QueueStore E) : Nat := q.slots.size
def isEmpty (q : QueueStore E) : Bool := q.slots.isEmpty

/-- There is room for as many elements as a 64-bit word can count, whatever the queue holds. -/
def remainingCapacity (_ : QueueStore E) : Nat := UInt64.size - 1

/-! ## Looking -/

/-- A copy of the elements in the order in which they will be handed out. -/
def toList (q : QueueStore E) : List E := (q.slots.reverse.map Slot.element).toList

/-- Show the elements to a visitor in the order in which they will be handed out. -/
def forEach (visit : E → A → A) (q : QueueStore E) (a : A) : A :=
  q.slots.foldr (fun slot a => visit slot.element a) a

/-- The element that will be handed out next. -/
def peek (q : QueueStore E) : Option E := q.slots.back?.map Slot.element

/-! ## Putting in and handing out -/

def add (q : QueueStore E) (e : E) : QueueStore E :=
  { q with slots := q.slots.push ⟨q.next, e⟩, next := q.next + 1 }

/-- Add elements one after another. -/
def addAll (q : QueueStore E) (elements : List E) : QueueStore E := elements.foldl add q

/-- The queue without the slot at the end. -/
def pop (q : QueueStore E) : QueueStore E := { q with slots := q.slots.pop }

/-- Hand out the next element, if there is one. -/
def poll (q : QueueStore E) : Option (E × QueueStore E) :=
  q.slots.back?.map fun slot => (slot.element, q.pop)

/-- Take the next element; a closed and empty queue has ended, an open one lets wait. -/
def take (q : QueueStore E) : Taken E × QueueStore E :=
  match q.poll with
  | some (e, rest) => (.element e, rest)
  | none => (if q.closed then .ended else .waits, q)

/-- Take the next element, or wait for one until the time has expired. -/
def takeWithin (q : QueueStore E) (expired : Bool) : Taken E × QueueStore E :=
  match q.poll with
  | some (e, rest) => (.element e, rest)
  | none => (if q.closed || expired then .ended else .waits, q)

/-- Move at most so many elements to the end of a sink, one after another; how many it were comes
with the sink. -/
def drainInto (q : QueueStore E) (sink : List E) : Nat → Nat × List E × QueueStore E
  | 0 => (0, sink, q)
  | limit + 1 =>
    match q.poll with
    | none => (0, sink, q)
    | some (e, rest) =>
      let (count, filled, left) := rest.drainInto (sink ++ [e]) limit
      (count + 1, filled, left)

/-- Move all elements to the end of a sink. -/
def drainAllInto (q : QueueStore E) (sink : List E) : Nat × List E × QueueStore E :=
  q.drainInto sink q.size

def clear (q : QueueStore E) : QueueStore E := { q with slots := #[] }

/-- Close the queue; what it holds stays. -/
def close (q : QueueStore E) : QueueStore E := { q with closed := true }

/-! ## Tests and changes -/

/-- Show one more element to a test, and put it to the removed ones or its slot to the kept ones. -/
def siftOne (test : Test E S) (slot : Slot E) :
    Array E × Array (Slot E) × S → Array E × Array (Slot E) × S
  | (removed, kept, s) =>
    let (accepted, next) := test slot.element s
    if accepted then (removed.push slot.element, kept, next) else (removed, kept.push slot, next)

/-- Show the elements to a test in the order in which they will be handed out: those it accepts, the
slots it leaves, both in this order, and what the test remembers. -/
def sift (test : Test E S) (q : QueueStore E) (s : S) : Array E × Array (Slot E) × S :=
  q.slots.foldr (siftOne test) (#[], #[], s)

/-- Remove what a test accepts, and turn what it leaves round again. -/
def removeIf (q : QueueStore E) (test : Test E S) (s : S) : List E × QueueStore E :=
  let (removed, kept, _) := q.sift test s
  (removed.toList, { q with slots := kept.reverse })

/-- What the test of a removal remembers in the end. -/
def remembered (q : QueueStore E) (test : Test E S) (s : S) : S := (q.sift test s).2.2

/-- Keep what a test accepts; whether something was removed is the answer. -/
def retain (q : QueueStore E) (test : Test E S) (s : S) : Bool × QueueStore E :=
  let (removed, left) := q.removeIf test.negated s
  (!removed.isEmpty, left)

/-- Change one more element, and put it behind those that have been changed. -/
def changeOne (change : E → S → E × S) : Array (Slot E) × S → Slot E → Array (Slot E) × S
  | (changed, s), slot =>
    let (element, next) := change slot.element s
    (changed.push ⟨slot.number, element⟩, next)

/-- Change every element in place, the one that would be handed out last first. -/
def changeAll (q : QueueStore E) (change : E → S → E × S) (s : S) : QueueStore E :=
  { q with slots := (q.slots.foldl (changeOne change) (#[], s)).1 }

/-- Put the slots in descending order, so that they will be handed out in ascending order, ties in
the order of their addition. -/
def sort (compare : E → E → Ordering) (q : QueueStore E) : QueueStore E :=
  { q with slots := (q.slots.toList.mergeSort fun a b => Slot.ordered compare b a).toArray }

variable [DecidableEq E]

def contains (q : QueueStore E) (e : E) : Bool := q.slots.any fun slot => slot.element = e

/-- Remove the first occurrence of an element in the array, the one that would be handed out last;
whether there was one is the answer. -/
def remove (q : QueueStore E) (e : E) : Bool × QueueStore E :=
  match q.slots.findFinIdx? fun slot => slot.element = e with
  | some i => (true, { q with slots := q.slots.eraseIdx i })
  | none => (false, q)

/-- Remove every occurrence of the given elements; whether there was one is the answer. -/
def removeAll (q : QueueStore E) (elements : List E) : Bool × QueueStore E :=
  let (removed, left) := q.removeIf (.plain elements.contains) ()
  (!removed.isEmpty, left)

/-- Remove every occurrence of some elements, add others and sort, as one step. -/
def update (compare : E → E → Ordering) (q : QueueStore E) (additions removals : List E) :
    QueueStore E :=
  ((q.removeIf (.plain removals.contains) ()).2.addAll additions).sort compare

end QueueStore

end Vicinity

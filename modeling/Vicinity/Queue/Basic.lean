import Vicinity.Queue.Test

/-! # Sortable queues

A queue hands its elements out from the front. An element that is added goes to the front, so a
queue that is never sorted is a stack; sorting puts the elements in ascending order, and of two that
compare equal the one added earlier in front. Every element carries the number of its addition,
which no removal, change or sort alters, and by which such ties are broken.

A queue that is closed still takes and hands out elements. Taking waits while the queue is empty,
unless it is closed: then there is nothing to wait for.

`toList` is the view: the elements in the order in which they will be handed out.

Additions are counted without bound here. Where their numbers are 64-bit words, everything is the same
as long as fewer than 2 ^ 64 elements have been added.
-/

namespace Vicinity

/-- An element with the number of its addition. -/
structure Slot (E : Type) where
  number : Nat
  element : E
deriving DecidableEq, Repr, Inhabited

namespace Slot

variable {E S : Type}

/-- Show the elements to a test, the first one first: those it accepts, and the slots it leaves. -/
def sift (test : Test E S) : List (Slot E) → S → List E × List (Slot E) × S
  | [], s => ([], [], s)
  | slot :: rest, s =>
    let (accepted, next) := test slot.element s
    let (removed, kept, last) := sift test rest next
    if accepted then (slot.element :: removed, kept, last) else (removed, slot :: kept, last)

/-- Change every element in place, the last one first. -/
def changeAll (change : E → S → E × S) : List (Slot E) → S → List (Slot E) × S
  | [], s => ([], s)
  | slot :: rest, s =>
    let (changed, next) := changeAll change rest s
    let (element, last) := change slot.element next
    (⟨slot.number, element⟩ :: changed, last)

/-- Whether one slot may stand before another in sorted order. -/
def ordered (compare : E → E → Ordering) (a b : Slot E) : Bool :=
  match compare a.element b.element with
  | .lt => true
  | .eq => a.number ≤ b.number
  | .gt => false

/-- Drop the last slot that holds an element. -/
def dropLast [DecidableEq E] (slots : List (Slot E)) (e : E) : List (Slot E) :=
  (slots.reverse.eraseP fun slot => slot.element = e).reverse

theorem sift_sublist (test : Test E S) (slots : List (Slot E)) (s : S) :
    (sift test slots s).2.1.Sublist slots := by
  induction slots generalizing s with
  | nil => exact List.Sublist.refl _
  | cons slot rest ih =>
    simp only [sift]
    split
    · exact (ih _).cons _
    · exact (ih _).cons_cons _

theorem map_number_changeAll (change : E → S → E × S) (slots : List (Slot E)) (s : S) :
    (changeAll change slots s).1.map number = slots.map number := by
  induction slots with
  | nil => rfl
  | cons slot rest ih => rw [changeAll, List.map_cons, List.map_cons, ih]

theorem dropLast_sublist [DecidableEq E] (slots : List (Slot E)) (e : E) :
    (dropLast slots e).Sublist slots := by
  have inner := (List.eraseP_sublist (p := fun slot : Slot E => slot.element = e)
    (l := slots.reverse)).reverse
  rwa [List.reverse_reverse] at inner

end Slot

structure Queue (E : Type) where
  /-- The slots in the order in which they will be handed out. -/
  slots : List (Slot E)
  /-- The number of the next addition. -/
  next : Nat
  closed : Bool
  distinct : (slots.map Slot.number).Nodup
  below : ∀ number ∈ slots.map Slot.number, number < next

/-- What taking from a queue comes to: an element, the end of a closed queue, or a wait. -/
inductive Taken (E : Type) where
  | element (e : E)
  | ended
  | waits
deriving DecidableEq, Repr, Inhabited

namespace Queue

variable {E S : Type}

def empty : Queue E where
  slots := []
  next := 0
  closed := false
  distinct := List.nodup_nil
  below := by simp

instance : EmptyCollection (Queue E) := ⟨empty⟩
instance : Inhabited (Queue E) := ⟨empty⟩

/-- The elements in the order in which they will be handed out. -/
def toList (q : Queue E) : List E := q.slots.map Slot.element

def size (q : Queue E) : Nat := q.slots.length
def isEmpty (q : Queue E) : Bool := q.slots.isEmpty

/-- There is room for as many elements as a 64-bit word can count, whatever the queue holds. -/
def remainingCapacity (_ : Queue E) : Nat := UInt64.size - 1

/-- Keep only some slots, in the order they have. -/
def restrict (q : Queue E) (slots : List (Slot E)) (part : slots.Sublist q.slots) : Queue E where
  slots := slots
  next := q.next
  closed := q.closed
  distinct := q.distinct.sublist (part.map Slot.number)
  below number there := q.below number ((part.map Slot.number).subset there)

/-- Put an element at the front. -/
def add (q : Queue E) (e : E) : Queue E where
  slots := ⟨q.next, e⟩ :: q.slots
  next := q.next + 1
  closed := q.closed
  distinct := by
    rw [List.map_cons, List.nodup_cons]
    exact ⟨fun there => Nat.lt_irrefl _ (q.below _ there), q.distinct⟩
  below := by
    intro number there
    rcases List.mem_cons.1 there with rfl | older
    · exact Nat.lt_succ_self _
    · exact Nat.lt_succ_of_lt (q.below number older)

/-- Add elements one after another. -/
def addAll (q : Queue E) (elements : List E) : Queue E := elements.foldl add q

/-- The element at the front. -/
def peek (q : Queue E) : Option E := q.slots.head?.map Slot.element

/-- Hand out the element at the front, if there is one. -/
def poll (q : Queue E) : Option (E × Queue E) :=
  match found : q.slots with
  | [] => none
  | slot :: rest => some (slot.element, q.restrict rest (found ▸ List.sublist_cons_self slot rest))

/-- Take the element at the front; a closed and empty queue has ended, an open one lets wait. -/
def take (q : Queue E) : Taken E × Queue E :=
  match q.poll with
  | some (e, rest) => (.element e, rest)
  | none => (if q.closed then .ended else .waits, q)

/-- Take the element at the front, or wait for one until the time has expired. -/
def takeWithin (q : Queue E) (expired : Bool) : Taken E × Queue E :=
  match q.poll with
  | some (e, rest) => (.element e, rest)
  | none => (if q.closed || expired then .ended else .waits, q)

/-- Hand out at most so many elements from the front. -/
def drain (q : Queue E) (limit : Nat) : List E × Queue E :=
  (q.toList.take limit, q.restrict (q.slots.drop limit) (List.drop_sublist limit q.slots))

/-- Hand out all elements. -/
def drainAll (q : Queue E) : List E × Queue E := q.drain q.size

def clear (q : Queue E) : Queue E := q.restrict [] (List.nil_sublist _)

/-- Close the queue; what it holds stays. -/
def close (q : Queue E) : Queue E := { q with closed := true }

/-- Remove what a test accepts. The elements are shown to it in the order in which they would be
handed out, and the removed ones are listed in that order. -/
def removeIf (q : Queue E) (test : Test E S) (s : S) : List E × Queue E :=
  ((Slot.sift test q.slots s).1,
    q.restrict (Slot.sift test q.slots s).2.1 (Slot.sift_sublist test q.slots s))

/-- What the test of a removal remembers in the end. -/
def remembered (q : Queue E) (test : Test E S) (s : S) : S := (Slot.sift test q.slots s).2.2

/-- Keep what a test accepts; whether something was removed is the answer. -/
def retain (q : Queue E) (test : Test E S) (s : S) : Bool × Queue E :=
  let (removed, left) := q.removeIf test.negated s
  (!removed.isEmpty, left)

/-- Change every element in place, the one that would be handed out last first. -/
def changeAll (q : Queue E) (change : E → S → E × S) (s : S) : Queue E where
  slots := (Slot.changeAll change q.slots s).1
  next := q.next
  closed := q.closed
  distinct := by rw [Slot.map_number_changeAll]; exact q.distinct
  below := by rw [Slot.map_number_changeAll]; exact q.below

/-- Put the elements in ascending order, ties in the order of their addition. -/
def sort (compare : E → E → Ordering) (q : Queue E) : Queue E where
  slots := q.slots.mergeSort (Slot.ordered compare)
  next := q.next
  closed := q.closed
  distinct := ((List.mergeSort_perm _ _).map Slot.number).nodup_iff.2 q.distinct
  below number there :=
    q.below number (((List.mergeSort_perm _ _).map Slot.number).mem_iff.1 there)

variable [DecidableEq E]

def contains (q : Queue E) (e : E) : Bool := q.toList.contains e

/-- Remove one occurrence of an element, the one that would be handed out last; whether there was
one is the answer. -/
def remove (q : Queue E) (e : E) : Bool × Queue E :=
  (q.contains e, q.restrict (Slot.dropLast q.slots e) (Slot.dropLast_sublist q.slots e))

/-- Remove every occurrence of the given elements; whether there was one is the answer. -/
def removeAll (q : Queue E) (elements : List E) : Bool × Queue E :=
  let (removed, left) := q.removeIf (.plain elements.contains) ()
  (!removed.isEmpty, left)

/-- Remove every occurrence of some elements, add others and sort, as one step. -/
def update (compare : E → E → Ordering) (q : Queue E) (additions removals : List E) : Queue E :=
  (((q.removeAll removals).2).addAll additions).sort compare

end Queue

end Vicinity

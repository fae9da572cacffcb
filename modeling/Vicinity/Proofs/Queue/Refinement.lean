import Vicinity.Proofs.Queue.Store

/-! # Stores serve as queues do

A store represents a queue if it has the queue's slots, read from the end of its array. Each request
gets the same answer from both, and leaves a store that represents the queue that is left. A sort has
to be by a comparison that is an order, for otherwise it says nothing of where the slots go.
-/

namespace Vicinity

variable {E S A : Type} (compare : E → E → Ordering)

namespace QueueStore

/-! ## Requests -/

/-- The elements that come back from a step, and the store after it. -/
def step (s : QueueStore E) : QueueStep E → List E × QueueStore E
  | .add e => ([], s.add e)
  | .addAll elements => ([], s.addAll elements)
  | .removeIf test memory => s.removeIf test memory
  | .changeAll change memory => ([], s.changeAll change memory)
  | .sort => ([], s.sort compare)
  | .look _ => ([], s)

/-- The elements that come back from the steps of a transaction, and the store after them. -/
def transact (s : QueueStore E) : List (QueueStep E) → List E × QueueStore E
  | [] => ([], s)
  | step :: rest =>
    let (back, next) := s.step compare step
    let (later, last) := next.transact rest
    (back ++ later, last)

variable [DecidableEq E]

/-- The elements that come back from a request, and the store after it. -/
def serve (s : QueueStore E) : QueueRequest E → List E × QueueStore E
  | .add e => ([], s.add e)
  | .addAll elements => ([], s.addAll elements)
  | .poll => s.poll.elim ([], s) fun handed => ([handed.1], handed.2)
  | .take => s.take.map Taken.toList id
  | .takeWithin expired => (s.takeWithin expired).map Taken.toList id
  | .drain limit => (s.drainInto [] limit).2
  | .drainAll => (s.drainAllInto []).2
  | .remove e => ([], (s.remove e).2)
  | .removeAll elements => ([], (s.removeAll elements).2)
  | .removeIf test memory => s.removeIf test memory
  | .retain test memory => ([], (s.retain test memory).2)
  | .update additions removals => ([], s.update compare additions removals)
  | .clear => ([], s.clear)
  | .sort => ([], s.sort compare)
  | .close => ([], s.close)
  | .look _ => ([], s)
  | .transaction body => s.transact compare body

/-- Serve requests one after another. -/
def run (s : QueueStore E) (requests : List (QueueRequest E)) : QueueStore E :=
  requests.foldl (fun s request => (s.serve compare request).2) s

omit [DecidableEq E]

/-! ## Handing out -/

/-- Polling is draining one element at most. -/
theorem poll_eq_drain (s : QueueStore E) :
    (s.poll.elim ([], s) fun handed => ([handed.1], handed.2)) = (s.drainInto [] 1).2 := by
  rw [drainInto]
  cases s.poll <;> rfl

theorem takeWithin_eq_drain (s : QueueStore E) (expired : Bool) :
    (s.takeWithin expired).map Taken.toList id = (s.drainInto [] 1).2 := by
  rw [← poll_eq_drain, takeWithin]
  cases s.poll with
  | none => cases (s.closed || expired) <;> rfl
  | some handed => rfl

theorem take_eq_drain (s : QueueStore E) :
    s.take.map Taken.toList id = (s.drainInto [] 1).2 := by
  rw [← s.takeWithin_eq_drain false, takeWithin, take, Bool.or_false]

/-! ## Representation -/

/-- A store has the slots of a queue, the other way round. -/
structure Represents (s : QueueStore E) (q : Queue E) : Prop where
  slots : s.inOrder = q.slots
  next : s.next = q.next
  closed : s.closed = q.closed

theorem represents_empty : (∅ : QueueStore E).Represents ∅ := ⟨rfl, rfl, rfl⟩

variable {s : QueueStore E} {q : Queue E}

theorem Represents.toList (represents : s.Represents q) : s.toList = q.toList := by
  rw [toList_eq, represents.slots, Queue.toList]

theorem Represents.holding (represents : s.Represents q) {slots : List (Slot E)} {after : Queue E}
    (shape : after.slots = slots) (next : after.next = q.next) (closed : after.closed = q.closed) :
    (s.holding slots).Represents after :=
  ⟨(s.inOrder_holding slots).trans shape.symm, represents.next.trans next.symm,
    represents.closed.trans closed.symm⟩

theorem Represents.add (represents : s.Represents q) (e : E) : (s.add e).Represents (q.add e) := by
  refine ⟨?_, congrArg (· + 1) represents.next, represents.closed⟩
  rw [inOrder_add, represents.slots, represents.next]
  rfl

theorem Represents.addAll (represents : s.Represents q) (elements : List E) :
    (s.addAll elements).Represents (q.addAll elements) := by
  induction elements generalizing s q with
  | nil => exact represents
  | cons e rest ih => exact ih (represents.add e)

/-- A store and a queue give the same answer and stay together. -/
def Agree (store : List E × QueueStore E) (queue : List E × Queue E) : Prop :=
  store.1 = queue.1 ∧ store.2.Represents queue.2

theorem Represents.drain (represents : s.Represents q) (limit : Nat) :
    Agree (s.drainInto [] limit).2 (q.drain limit) := by
  rw [drainInto_eq, List.nil_append, represents.toList, represents.slots]
  exact ⟨rfl, represents.holding rfl rfl rfl⟩

theorem Represents.removeIf (represents : s.Represents q) (test : Test E S) (memory : S) :
    Agree (s.removeIf test memory) (q.removeIf test memory) := by
  rw [removeIf_eq, represents.slots]
  exact ⟨rfl, represents.holding rfl rfl rfl⟩

theorem Represents.changeAll (represents : s.Represents q) (change : E → S → E × S) (memory : S) :
    (s.changeAll change memory).Represents (q.changeAll change memory) := by
  rw [changeAll_eq, represents.slots]
  exact represents.holding rfl rfl rfl

theorem Represents.remove [DecidableEq E] (represents : s.Represents q) (e : E) :
    (s.remove e).1 = (q.remove e).1 ∧ (s.remove e).2.Represents (q.remove e).2 := by
  rw [remove_eq, contains_eq, represents.toList, represents.slots]
  exact ⟨rfl, represents.holding rfl rfl rfl⟩

variable [Std.TransCmp compare]

theorem Represents.sort (represents : s.Represents q) :
    (s.sort compare).Represents (q.sort compare) := by
  rw [sort_eq s (represents.slots ▸ q.distinct), represents.slots]
  exact represents.holding rfl rfl rfl

theorem Represents.step (represents : s.Represents q) (step : QueueStep E) :
    Agree (s.step compare step) (q.step compare step) := by
  cases step with
  | add e => exact ⟨rfl, represents.add e⟩
  | addAll elements => exact ⟨rfl, represents.addAll elements⟩
  | removeIf test memory => exact represents.removeIf test memory
  | changeAll change memory => exact ⟨rfl, represents.changeAll change memory⟩
  | sort => exact ⟨rfl, represents.sort compare⟩
  | look view => exact ⟨rfl, represents⟩

theorem Represents.transact (represents : s.Represents q) (body : List (QueueStep E)) :
    Agree (s.transact compare body) (q.transact compare body) := by
  induction body generalizing s q with
  | nil => exact ⟨rfl, represents⟩
  | cons step rest ih =>
    obtain ⟨same, next⟩ := represents.step compare step
    obtain ⟨later, last⟩ := ih next
    exact ⟨congrArg₂ (· ++ ·) same later, last⟩

variable [DecidableEq E]

/-- A request has the same answer, and what is left is represented. -/
theorem Represents.serve (represents : s.Represents q) (request : QueueRequest E) :
    Agree (s.serve compare request) (q.serve compare request) := by
  have silent {store : List E × QueueStore E} {queue : List E × Queue E}
      (agree : Agree store queue) : Agree ([], store.2) ([], queue.2) := ⟨rfl, agree.2⟩
  have one : Agree (s.drainInto [] 1).2 (q.drain 1) := represents.drain 1
  cases request with
  | add e => exact ⟨rfl, represents.add e⟩
  | addAll elements => exact ⟨rfl, represents.addAll elements⟩
  | poll =>
    rw [← poll_eq_drain, ← Queue.poll_eq] at one
    exact one
  | take =>
    rw [← take_eq_drain, ← Queue.take_eq] at one
    exact one
  | takeWithin expired =>
    rw [← takeWithin_eq_drain s expired, ← Queue.takeWithin_eq q expired] at one
    exact one
  | drain limit => exact represents.drain limit
  | drainAll =>
    have same : s.size = q.size := by rw [size_eq, represents.slots, Queue.size]
    have all := represents.drain s.size
    rw [same] at all
    rw [QueueStore.serve, Queue.serve, drainAllInto, Queue.drainAll, same]
    exact all
  | remove e => exact ⟨rfl, (represents.remove e).2⟩
  | removeAll elements => exact silent (represents.removeIf (.plain elements.contains) ())
  | removeIf test memory => exact represents.removeIf test memory
  | retain test memory => exact silent (represents.removeIf test.negated memory)
  | update additions removals =>
    obtain ⟨-, left⟩ := represents.removeIf (.plain removals.contains) ()
    exact ⟨rfl, (left.addAll additions).sort compare⟩
  | clear => exact ⟨rfl, rfl, represents.next, represents.closed⟩
  | sort => exact ⟨rfl, represents.sort compare⟩
  | close => exact ⟨rfl, represents.slots, represents.next, rfl⟩
  | look view => exact ⟨rfl, represents⟩
  | transaction body => exact represents.transact compare body

theorem Represents.run (represents : s.Represents q) (requests : List (QueueRequest E)) :
    (s.run compare requests).Represents (q.run compare requests) := by
  induction requests generalizing s q with
  | nil => exact represents
  | cons request rest ih => exact ih (represents.serve compare request).2

end QueueStore

end Vicinity

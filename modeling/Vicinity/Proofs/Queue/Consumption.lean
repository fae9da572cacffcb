import Vicinity.Proofs.Queue.Refinement

/-! # Handing out

Five calls hand elements out of a store, each with a loop or a look at the array of its own: `poll`,
`take`, `takeWithin`, `drainInto` and `drainAllInto`. Every one of them hands out the first elements of
the view and leaves the others, and all that can be seen of a store without changing it is seen in the
view as well. So whichever calls follow one another, they hand out the view from the front on.
-/

namespace Vicinity

variable {E A : Type}

/-- The calls that hand elements out, and closing, which may come between them. -/
inductive Consumer (E : Type) where
  | poll
  | take
  | takeWithin (expired : Bool)
  | drainInto (sink : List E) (limit : Nat)
  | drainAllInto (sink : List E)
  | close

namespace QueueStore

/-- How many elements a call asks for. -/
def demand (s : QueueStore E) : Consumer E → Nat
  | .poll | .take | .takeWithin _ => 1
  | .drainInto _ limit => limit
  | .drainAllInto _ => s.size
  | .close => 0

/-- The elements that a call hands out, and the store after it. What a drain hands out is what its
sink has not held before. -/
def hand (s : QueueStore E) : Consumer E → List E × QueueStore E
  | .poll => s.poll.elim ([], s) fun handed => ([handed.1], handed.2)
  | .take => s.take.map Taken.toList id
  | .takeWithin expired => (s.takeWithin expired).map Taken.toList id
  | .drainInto sink limit => (s.drainInto sink limit).2.map (List.drop sink.length) id
  | .drainAllInto sink => (s.drainAllInto sink).2.map (List.drop sink.length) id
  | .close => ([], s.close)

/-- The elements that calls hand out one after another, and the store after them. -/
def handAll (s : QueueStore E) : List (Consumer E) → List E × QueueStore E
  | [] => ([], s)
  | call :: rest =>
    let (handed, next) := s.hand call
    let (later, last) := next.handAll rest
    (handed ++ later, last)

theorem toList_holding_drop (s : QueueStore E) (n : Nat) :
    (s.holding (s.inOrder.drop n)).toList = s.toList.drop n := by
  rw [toList_eq, inOrder_holding, toList_eq, List.map_drop]

theorem length_toList (s : QueueStore E) : s.toList.length = s.size := by
  rw [toList_eq, List.length_map, size_eq]

/-- What a drain puts into its sink does not depend on what the sink holds. -/
theorem hand_drainInto (s : QueueStore E) (sink : List E) (limit : Nat) :
    (s.drainInto sink limit).2.map (List.drop sink.length) id =
      (s.toList.take limit, s.holding (s.inOrder.drop limit)) := by
  rw [drainInto_eq]
  exact Prod.ext List.drop_left rfl

/-- A call hands out as many of the first elements as it asks for and leaves the rest. -/
theorem hand_spec (s : QueueStore E) (call : Consumer E) :
    (s.hand call).1 = s.toList.take (s.demand call) ∧
      (s.hand call).2.toList = s.toList.drop (s.demand call) := by
  have drained {n : Nat} {result : List E × QueueStore E}
      (same : result = (s.toList.take n, s.holding (s.inOrder.drop n))) :
      result.1 = s.toList.take n ∧ result.2.toList = s.toList.drop n := by
    rw [same]
    exact ⟨rfl, s.toList_holding_drop n⟩
  have one : (s.drainInto [] 1).2 = (s.toList.take 1, s.holding (s.inOrder.drop 1)) :=
    congrArg Prod.snd (s.drainInto_eq [] 1)
  cases call with
  | poll => exact drained (s.poll_eq_drain.trans one)
  | take => exact drained (s.take_eq_drain.trans one)
  | takeWithin expired => exact drained ((s.takeWithin_eq_drain expired).trans one)
  | drainInto sink limit => exact drained (s.hand_drainInto sink limit)
  | drainAllInto sink => exact drained (s.hand_drainInto sink s.size)
  | close => exact ⟨rfl, rfl⟩

/-- What calls hand out one after another and what they leave are together what was there. -/
theorem handAll_append (s : QueueStore E) (calls : List (Consumer E)) :
    (s.handAll calls).1 ++ (s.handAll calls).2.toList = s.toList := by
  induction calls generalizing s with
  | nil => rfl
  | cons call rest ih =>
    obtain ⟨handed, left⟩ := s.hand_spec call
    rw [handAll, List.append_assoc, ih, handed, left, List.take_append_drop]

/-! ## Attempts to take an element -/

/-- What an attempt comes to is told by the front of the view. -/
theorem fst_takeWithin (s : QueueStore E) (expired : Bool) :
    (s.takeWithin expired).1 =
      (s.toList.head?.map Taken.element).getD (if s.closed || expired then .ended else .waits) := by
  rw [takeWithin, poll_eq, toList_eq, List.head?_map]
  cases s.inOrder.head? <;> rfl

theorem takeWithin_false (s : QueueStore E) : s.takeWithin false = s.take := by
  rw [takeWithin, take, Bool.or_false]

theorem takeWithin_eq_element (s : QueueStore E) (expired : Bool) (e : E) :
    (s.takeWithin expired).1 = .element e ↔ s.toList.head? = some e := by
  rw [fst_takeWithin]
  cases s.toList with
  | nil => cases (s.closed || expired) <;> simp
  | cons first rest => simp

theorem takeWithin_eq_ended (s : QueueStore E) (expired : Bool) :
    (s.takeWithin expired).1 = .ended ↔ (s.closed || expired) = true ∧ s.toList = [] := by
  rw [fst_takeWithin]
  cases s.toList with
  | nil => cases (s.closed || expired) <;> simp
  | cons first rest => simp

theorem takeWithin_eq_waits (s : QueueStore E) (expired : Bool) :
    (s.takeWithin expired).1 = .waits ↔ (s.closed || expired) = false ∧ s.toList = [] := by
  rw [fst_takeWithin]
  cases s.toList with
  | nil => cases (s.closed || expired) <;> simp
  | cons first rest => simp

/-! ## All calls and looks -/

variable [DecidableEq E]

/-- What the calls of a store come to, told by its view. -/
structure Consumes (s : QueueStore E) (view : List E) : Prop where
  size : s.size = view.length
  isEmpty : s.isEmpty = view.isEmpty
  peek : s.peek = view.head?
  contains : ∀ e, s.contains e = true ↔ e ∈ view
  /-- A visitor is shown each element once, from the front on. -/
  forEach : ∀ {A : Type} (visit : E → A → A) a,
    s.forEach visit a = view.foldl (fun a e => visit e a) a
  poll : s.poll.map Prod.fst = view.head?
  take : ∀ e, s.take.1 = .element e ↔ view.head? = some e
  /-- Taking comes to an end only where the store is closed and empty. -/
  ended : s.take.1 = .ended ↔ s.closed = true ∧ view = []
  /-- It waits only where elements may still come. -/
  waits : s.take.1 = .waits ↔ s.closed = false ∧ view = []
  takeWithin : ∀ expired e, (s.takeWithin expired).1 = .element e ↔ view.head? = some e
  expires : ∀ expired,
    (s.takeWithin expired).1 = .ended ↔ (s.closed || expired) = true ∧ view = []
  drainInto : ∀ sink limit, ∃ left,
    s.drainInto sink limit = (min limit view.length, sink ++ view.take limit, left) ∧
      left.toList = view.drop limit
  drainAllInto : ∀ sink, ∃ left,
    s.drainAllInto sink = (view.length, sink ++ view, left) ∧ left.toList = []
  hand : ∀ call, (s.hand call).1 = view.take (s.demand call) ∧
    (s.hand call).2.toList = view.drop (s.demand call)
  /-- Whatever calls follow one another, they hand out a first part of the view and leave the rest. -/
  handAll : ∀ calls, (s.handAll calls).1 ++ (s.handAll calls).2.toList = view
  close : s.close.closed = true ∧ s.close.inOrder = s.inOrder

/-- However a store has been filled and arranged, all that looks at it and all that takes elements out
of it agrees on the one order of its view. -/
theorem consumes_toList (s : QueueStore E) : Consumes s s.toList := by
  constructor
  case size => exact s.length_toList.symm
  case isEmpty => rw [isEmpty_eq, toList_eq, List.isEmpty_map]
  case peek => rw [QueueStore.peek, back?_eq, toList_eq, List.head?_map]
  case contains =>
    intro e
    rw [contains_eq, List.contains_iff_mem]
  case forEach =>
    intro A visit a
    rw [QueueStore.forEach, foldr_eq, toList_eq, List.foldl_map]
  case poll =>
    rw [poll_eq, toList_eq, List.head?_map, Option.map_map]
    rfl
  case take => exact fun e => s.takeWithin_false ▸ s.takeWithin_eq_element false e
  case ended =>
    have ended := s.takeWithin_eq_ended false
    rwa [takeWithin_false, Bool.or_false] at ended
  case waits =>
    have waits := s.takeWithin_eq_waits false
    rwa [takeWithin_false, Bool.or_false] at waits
  case takeWithin => exact s.takeWithin_eq_element
  case expires => exact s.takeWithin_eq_ended
  case drainInto =>
    intro sink limit
    rw [drainInto_eq, length_toList]
    exact ⟨_, rfl, s.toList_holding_drop limit⟩
  case drainAllInto =>
    intro sink
    have all : s.toList.take s.size = s.toList := by rw [← length_toList, List.take_length]
    have none : s.toList.drop s.size = [] := by rw [← length_toList, List.drop_length]
    rw [drainAllInto, drainInto_eq, Nat.min_self, all, length_toList]
    exact ⟨_, rfl, (s.toList_holding_drop s.size).trans none⟩
  case hand => exact s.hand_spec
  case handAll => exact s.handAll_append
  case close => exact ⟨rfl, rfl⟩

/-- Three elements are sorted and two are added in front of them; closing makes no difference to the
calls on both sides of it. -/
example :
    let s := (((∅ : QueueStore Nat).addAll [5, 1, 4]).sort compare).addAll [9, 2]
    s.toList = [2, 9, 1, 4, 5] ∧ s.drainInto [7] 3 = (3, [7, 2, 9, 1], s.pop.pop.pop) ∧
      (s.handAll [.take, .close, .drainInto [7] 2, .poll]).1 = [2, 9, 1, 4] := by
  cbv

end QueueStore

end Vicinity

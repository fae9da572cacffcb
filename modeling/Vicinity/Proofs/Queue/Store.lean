import Vicinity.Proofs.Queue.Sort
import Vicinity.Queue.Store

/-! # What a store stands for

Read from the end of its array, a store is a row of slots in the order in which they will be handed
out. In this order each of its operations comes to what the operation of a queue does to its slots,
so a store stands for a queue, and goes on doing so whatever is asked of it.
-/

namespace Vicinity

variable {E S A : Type}

namespace QueueStore

/-- The slots in the order in which they will be handed out. -/
def inOrder (q : QueueStore E) : List (Slot E) := q.slots.toList.reverse

/-- The same store with other slots, given in the order in which they will be handed out. -/
def holding (q : QueueStore E) (slots : List (Slot E)) : QueueStore E :=
  { q with slots := slots.reverse.toArray }

@[simp] theorem inOrder_holding (q : QueueStore E) (slots : List (Slot E)) :
    (q.holding slots).inOrder = slots := List.reverse_reverse slots

theorem eq_holding {p q : QueueStore E} (next : p.next = q.next) (closed : p.closed = q.closed) :
    p = q.holding p.inOrder := by
  rw [holding, inOrder, List.reverse_reverse, ← next, ← closed]

theorem holding_inOrder (q : QueueStore E) : q.holding q.inOrder = q := (eq_holding rfl rfl).symm

/-! ## Looking -/

theorem toList_eq (q : QueueStore E) : q.toList = q.inOrder.map Slot.element := by
  simp [toList, inOrder]

theorem size_eq (q : QueueStore E) : q.size = q.inOrder.length := by
  simp [size, inOrder]

theorem isEmpty_eq (q : QueueStore E) : q.isEmpty = q.inOrder.isEmpty := by
  simp [isEmpty, inOrder]

theorem back?_eq (q : QueueStore E) : q.slots.back? = q.inOrder.head? := by
  rw [inOrder, List.head?_reverse, Array.getLast?_toList]

theorem foldr_eq (f : Slot E → A → A) (q : QueueStore E) (a : A) :
    q.slots.foldr f a = q.inOrder.foldl (fun a slot => f slot a) a := by
  rw [inOrder, List.foldl_reverse, Array.foldr_toList]

theorem contains_eq [DecidableEq E] (q : QueueStore E) (e : E) :
    q.contains e = q.toList.contains e := by
  rw [Bool.eq_iff_iff, contains, ← Array.any_toList, List.any_eq_true, List.contains_iff_mem, toList_eq,
    inOrder, List.mem_map]
  simp

/-! ## Putting in and handing out -/

theorem inOrder_add (q : QueueStore E) (e : E) : (q.add e).inOrder = ⟨q.next, e⟩ :: q.inOrder := by
  simp [add, inOrder]

theorem pop_eq (q : QueueStore E) : q.pop = q.holding (q.inOrder.drop 1) := by
  have popped : q.pop.inOrder = q.inOrder.drop 1 := by
    simp [pop, inOrder]
  rw [← popped]
  exact eq_holding rfl rfl

theorem poll_eq (q : QueueStore E) :
    q.poll = q.inOrder.head?.map fun slot => (slot.element, q.holding (q.inOrder.drop 1)) := by
  rw [poll, back?_eq, pop_eq]

/-- A drain hands out the first elements, as many as there are and as the limit allows. -/
theorem drainInto_eq (q : QueueStore E) (sink : List E) (limit : Nat) :
    q.drainInto sink limit =
      (min limit q.size, sink ++ q.toList.take limit, q.holding (q.inOrder.drop limit)) := by
  induction limit generalizing q sink with
  | zero =>
    rw [drainInto, Nat.zero_min, List.take_zero, List.append_nil, List.drop_zero, holding_inOrder]
  | succ limit ih =>
    rw [drainInto, poll_eq, size_eq, toList_eq]
    cases shape : q.inOrder with
    | nil =>
      have same := q.holding_inOrder
      rw [shape] at same
      simp [same]
    | cons slot rest =>
      dsimp only [List.head?_cons, Option.map_some, List.drop_succ_cons, List.drop_zero]
      rw [ih, size_eq, toList_eq, inOrder_holding]
      simp [holding]

/-! ## Tests and changes -/

theorem foldl_siftOne (test : Test E S) (slots : List (Slot E)) (removed : Array E)
    (kept : Array (Slot E)) (s : S) :
    slots.foldl (fun parts slot => siftOne test slot parts) (removed, kept, s) =
      (removed ++ (Slot.sift test slots s).1.toArray, kept ++ (Slot.sift test slots s).2.1.toArray,
        (Slot.sift test slots s).2.2) := by
  induction slots generalizing removed kept s with
  | nil => simp [Slot.sift]
  | cons slot rest ih =>
    rw [List.foldl_cons, siftOne, Slot.sift]
    dsimp only
    cases (test slot.element s).1 <;> simp [ih]

theorem sift_eq (q : QueueStore E) (test : Test E S) (s : S) :
    q.sift test s = ((Slot.sift test q.inOrder s).1.toArray,
      (Slot.sift test q.inOrder s).2.1.toArray, (Slot.sift test q.inOrder s).2.2) := by
  rw [sift, foldr_eq, foldl_siftOne, Array.empty_append, Array.empty_append]

theorem removeIf_eq (q : QueueStore E) (test : Test E S) (s : S) :
    q.removeIf test s =
      ((Slot.sift test q.inOrder s).1, q.holding (Slot.sift test q.inOrder s).2.1) := by
  rw [removeIf, sift_eq]
  simp [holding]

theorem remembered_eq (q : QueueStore E) (test : Test E S) (s : S) :
    q.remembered test s = (Slot.sift test q.inOrder s).2.2 := by
  rw [remembered, sift_eq]

theorem foldl_changeOne (change : E → S → E × S) (slots : List (Slot E)) (s : S) :
    slots.reverse.foldl (changeOne change) (#[], s) =
      ((Slot.changeAll change slots s).1.reverse.toArray, (Slot.changeAll change slots s).2) := by
  induction slots with
  | nil => rfl
  | cons slot rest ih =>
    rw [List.reverse_cons, List.foldl_append, ih, Slot.changeAll]
    simp [changeOne]

theorem changeAll_eq (q : QueueStore E) (change : E → S → E × S) (s : S) :
    q.changeAll change s = q.holding (Slot.changeAll change q.inOrder s).1 := by
  have reversed : q.inOrder.reverse = q.slots.toList := List.reverse_reverse _
  rw [changeAll, ← Array.foldl_toList, ← reversed, foldl_changeOne]
  rfl

theorem remove_eq [DecidableEq E] (q : QueueStore E) (e : E) :
    q.remove e = (q.contains e, q.holding (Slot.dropLast q.inOrder e)) := by
  have erased : q.holding (Slot.dropLast q.inOrder e) =
      { q with slots := q.slots.eraseP fun slot => slot.element = e } := by
    have reversed : q.inOrder.reverse = q.slots.toList := List.reverse_reverse _
    rw [Slot.dropLast, reversed, holding, List.reverse_reverse, ← List.eraseP_toArray]
  rw [erased, remove, contains, ← Array.isSome_findFinIdx?, Array.eraseP]
  cases q.slots.findFinIdx? fun slot => slot.element = e <;> rfl

/-- A descending array is ascending from its end on, and slots of different numbers can be so in one
way only. -/
theorem sort_eq {compare : E → E → Ordering} [Std.TransCmp compare] (q : QueueStore E)
    (distinct : (q.inOrder.map Slot.number).Nodup) :
    q.sort compare = q.holding (q.inOrder.mergeSort (Slot.ordered compare)) := by
  let descending := q.slots.toList.mergeSort fun a b => Slot.ordered compare b a
  have sorted : q.sort compare = q.holding descending.reverse := by
    rw [holding, List.reverse_reverse]
    rfl
  have ascending : descending.reverse.Pairwise fun front later =>
      Slot.ordered compare front later = true := by
    refine List.pairwise_reverse.mpr (List.pairwise_mergeSort ?_ ?_ _)
    · exact fun a b c first second => Slot.ordered_trans second first
    · exact fun a b => Bool.or_eq_true_iff.mpr (Slot.ordered_total b a)
  have kept : descending.reverse.Perm q.inOrder :=
    (List.reverse_perm _).trans ((List.mergeSort_perm _ _).trans (List.reverse_perm _).symm)
  have same := List.mergeSort_perm q.inOrder (Slot.ordered compare)
  rw [sorted, Slot.eq_of_ordered ((same.map Slot.number).nodup_iff.mpr distinct)
    (kept.trans same.symm) ascending (Slot.pairwise_mergeSort _)]

end QueueStore

end Vicinity

import Vicinity.Proofs.Queue.Refinement
import Vicinity.Proofs.Queue.Shown

/-! # Removing what a test accepts

A removal goes through the array from its end, with a test that may remember what it was shown,
collects what is accepted and what is not, and turns the latter round again. `retain`, `removeAll` and
`update` are made from it. What each of them leaves is told by its slots, so by the numbers of the
elements as well: these are what a later sort breaks ties by.
-/

namespace Vicinity

variable {E S : Type} (compare : E → E → Ordering)

namespace QueueStore

/-! ## What is left -/

/-- A removal leaves a part of the slots and nothing else is changed. Whenever what is left comes to be
sorted, it is in the order in which it would have been sorted with the others. -/
structure Leaves (s left : QueueStore E) (part : List (Slot E)) : Prop where
  slots : left.inOrder = part
  next : left.next = s.next
  closed : left.closed = s.closed
  sorted : (left.sort compare).inOrder.Sublist (s.sort compare).inOrder
  ties : (left.sort compare).inOrder.Pairwise (Slot.Before compare)

variable {s : QueueStore E}

variable {compare} in
theorem pairwise_sort [Std.TransCmp compare] (distinct : (s.inOrder.map Slot.number).Nodup) :
    (s.sort compare).inOrder.Pairwise (Slot.Before compare) := by
  rw [sort_eq s distinct, inOrder_holding]
  exact Slot.pairwise_before_mergeSort distinct

theorem leaves_holding [Std.TransCmp compare] (distinct : (s.inOrder.map Slot.number).Nodup)
    {part : List (Slot E)} (within : part.Sublist s.inOrder) :
    Leaves compare s (s.holding part) part := by
  have slots := s.inOrder_holding part
  have once : ((s.holding part).inOrder.map Slot.number).Nodup := by
    rw [slots]
    exact distinct.sublist (within.map Slot.number)
  refine ⟨slots, rfl, rfl, ?_, pairwise_sort once⟩
  rw [sort_eq _ once, sort_eq s distinct, slots, inOrder_holding, inOrder_holding]
  exact Slot.mergeSort_sublist within distinct

theorem leaves_removeIf [Std.TransCmp compare] (distinct : (s.inOrder.map Slot.number).Nodup)
    (test : Test E S) (memory : S) :
    Leaves compare s (s.removeIf test memory).2
      (Slot.answered false s.inOrder (test.answers s.toList memory)) := by
  rw [removeIf_eq, toList_eq, ← Slot.sift_left]
  exact leaves_holding compare distinct (Slot.sift_sublist test s.inOrder memory)

theorem fst_removeIf (s : QueueStore E) (test : Test E S) (memory : S) :
    (s.removeIf test memory).1 =
      ((test.answers s.toList memory).filter fun shown => shown.2).map Prod.fst := by
  rw [removeIf_eq, toList_eq]
  exact Slot.sift_removed test s.inOrder memory

/-- A test that logs what another one answers leads to the same, and its log has the elements in the
order in which they would have been handed out, each once. -/
theorem removeIf_logging (test asked : Test E S) {logging : Test E (S × List (E × Bool))}
    (remembers : ∀ e s, (asked e s).2 = (test e s).2)
    (logs : ∀ e s before, logging e (s, before) =
      ((asked e s).1, (asked e s).2, before ++ [(e, (test e s).1)]))
    (s : QueueStore E) (memory : S) :
    s.removeIf logging (memory, []) = s.removeIf asked memory ∧
      s.remembered logging (memory, []) =
        (s.remembered asked memory, test.answers s.toList memory) := by
  have sifted := Slot.sift_logging remembers logs s.inOrder memory []
  rw [removeIf_eq, removeIf_eq, remembered_eq, remembered_eq, sifted, toList_eq]
  exact ⟨rfl, rfl⟩

theorem removeIf_noting (s : QueueStore E) (test : Test E S) (memory : S) :
    s.removeIf test.noting (memory, []) = s.removeIf test memory ∧
      s.remembered test.noting (memory, []) =
        (s.remembered test memory, test.answers s.toList memory) :=
  removeIf_logging test test (fun _ _ => rfl) (fun _ _ _ => rfl) s memory

theorem removeIf_noting_negated (s : QueueStore E) (test : Test E S) (memory : S) :
    s.removeIf test.noting.negated (memory, []) = s.removeIf test.negated memory ∧
      s.remembered test.noting.negated (memory, []) =
        (s.remembered test.negated memory, test.answers s.toList memory) :=
  removeIf_logging test test.negated (fun _ _ => rfl) (fun _ _ _ => rfl) s memory

theorem inOrder_addAll (s : QueueStore E) (elements : List E) :
    (s.addAll elements).inOrder = (Slot.numbered s.next elements).reverse ++ s.inOrder ∧
      (s.addAll elements).next = s.next + elements.length ∧
      (s.addAll elements).closed = s.closed := by
  induction elements generalizing s with
  | nil => exact ⟨rfl, rfl, rfl⟩
  | cons e rest ih =>
    obtain ⟨slots, next, closed⟩ := ih (s.add e)
    refine ⟨?_, ?_, closed⟩
    · rw [addAll, List.foldl_cons, ← addAll, slots, inOrder_add, Slot.numbered, List.reverse_cons,
        List.append_assoc]
      rfl
    · rw [addAll, List.foldl_cons, ← addAll, next, List.length_cons]
      exact Nat.succ_add_eq_add_succ s.next rest.length

/-! ## Removals in a run -/

variable [DecidableEq E]

/-- What the removals of a store come to that requests have left. -/
structure Removes (requests : List (QueueRequest E)) (s : QueueStore E) : Prop where
  /-- The number of a slot is the place of its element in the row of all insertions. -/
  inserted : ∀ slot ∈ s.inOrder, ∃ e, (Queue.arrivals requests)[slot.number]? = some e ∧
    Relation.ReflTransGen (fun old new => ∃ request ∈ requests, request.Alters old new) e
      slot.element
  /-- The test is shown every element once, in the order of handing out. -/
  shown : ∀ {S : Type} (test : Test E S) memory,
    s.removeIf test.noting (memory, []) = s.removeIf test memory ∧
      s.remembered test.noting (memory, []) =
        (s.remembered test memory, test.answers s.toList memory) ∧
      (test.answers s.toList memory).map Prod.fst = s.toList
  /-- So is the test of what is to be kept. -/
  retain_shown : ∀ {S : Type} (test : Test E S) memory,
    s.retain test.noting (memory, []) = s.retain test memory ∧
      s.remembered test.noting.negated (memory, []) =
        (s.remembered test.negated memory, test.answers s.toList memory)
  removeIf : ∀ {S : Type} (test : Test E S) memory,
    (s.removeIf test memory).1 =
      ((test.answers s.toList memory).filter fun shown => shown.2).map Prod.fst ∧
    Leaves compare s (s.removeIf test memory).2
      (Slot.answered false s.inOrder (test.answers s.toList memory))
  retain : ∀ {S : Type} (test : Test E S) memory,
    (s.retain test memory).1 = (test.answers s.toList memory).any (fun shown => !shown.2) ∧
    Leaves compare s (s.retain test memory).2
      (Slot.answered true s.inOrder (test.answers s.toList memory))
  removeAll : ∀ elements,
    (s.removeAll elements).1 = s.toList.any (fun e => e ∈ elements) ∧
    Leaves compare s (s.removeAll elements).2
      (s.inOrder.filter fun slot => slot.element ∉ elements)
  /-- An update sorts what is left together with all additions, which have numbers of their own. -/
  update : ∀ additions removals,
    (s.update compare additions removals).inOrder.Perm
      ((s.inOrder.filter fun slot => slot.element ∉ removals) ++ Slot.numbered s.next additions) ∧
    (s.update compare additions removals).inOrder.Pairwise (Slot.Before compare) ∧
    (s.update compare additions removals).next = s.next + additions.length ∧
    (s.update compare additions removals).closed = s.closed

variable [Std.TransCmp compare]

omit [DecidableEq E] in
theorem leaves_retain (distinct : (s.inOrder.map Slot.number).Nodup) (test : Test E S) (memory : S) :
    (s.retain test memory).1 = (test.answers s.toList memory).any (fun shown => !shown.2) ∧
      Leaves compare s (s.retain test memory).2
        (Slot.answered true s.inOrder (test.answers s.toList memory)) := by
  have left := leaves_removeIf compare distinct test.negated memory
  rw [Test.answers_negated, Slot.answered_not] at left
  refine ⟨?_, left⟩
  have removed := Slot.isEmpty_sift test.negated s.inOrder memory
  rw [Test.answers_negated, ← toList_eq, List.any_map] at removed
  rw [QueueStore.retain, removeIf_eq]
  dsimp only
  rw [removed, Bool.not_not]
  rfl

theorem leaves_removeAll (distinct : (s.inOrder.map Slot.number).Nodup) (elements : List E) :
    (s.removeAll elements).1 = s.toList.any (fun e => e ∈ elements) ∧
      Leaves compare s (s.removeAll elements).2
        (s.inOrder.filter fun slot => slot.element ∉ elements) := by
  have member : elements.contains = fun e => decide (e ∈ elements) :=
    funext fun e => List.contains_eq_mem e elements
  have left := leaves_removeIf compare distinct (.plain elements.contains) ()
  rw [Test.answers_plain, toList_eq, Slot.answered_map] at left
  have removed := Slot.isEmpty_sift (.plain elements.contains) s.inOrder ()
  rw [Test.answers_plain, ← toList_eq, List.any_map] at removed
  constructor
  · rw [QueueStore.removeAll, removeIf_eq]
    dsimp only
    rw [removed, Bool.not_not, member]
    rfl
  · have kept : (s.inOrder.filter fun slot => elements.contains slot.element == false) =
        s.inOrder.filter fun slot => slot.element ∉ elements := by
      simp
    rw [kept] at left
    exact left

/-- Additions are put to what is left before all of it is sorted. -/
theorem update_perm {q : Queue E} (represents : s.Represents q) (additions removals : List E) :
    (s.update compare additions removals).inOrder.Perm
      ((s.inOrder.filter fun slot => slot.element ∉ removals) ++ Slot.numbered s.next additions) ∧
    (s.update compare additions removals).inOrder.Pairwise (Slot.Before compare) ∧
    (s.update compare additions removals).next = s.next + additions.length ∧
    (s.update compare additions removals).closed = s.closed := by
  let left := (s.removeAll removals).2
  have updated : s.update compare additions removals = (left.addAll additions).sort compare := rfl
  have parts : Leaves compare s left _ :=
    (leaves_removeAll compare (represents.slots ▸ q.distinct) removals).2
  obtain ⟨slots, next, closed⟩ := inOrder_addAll left additions
  have distinct : ((left.addAll additions).inOrder.map Slot.number).Nodup := by
    have added := (represents.removeIf (.plain removals.contains) ()).2.addAll additions
    exact added.slots ▸ Queue.distinct _
  rw [updated]
  refine ⟨?_, pairwise_sort distinct, next.trans ?_, closed.trans parts.closed⟩
  · rw [sort_eq _ distinct, inOrder_holding]
    refine (List.mergeSort_perm _ _).trans ?_
    rw [slots, parts.slots, parts.next]
    exact ((List.reverse_perm _).append_right _).trans List.perm_append_comm
  · exact congrArg (· + additions.length) parts.next

/-- However a store has come to be what it is, a removal takes out the elements that its test accepts
and leaves the others where they are, under their numbers. -/
theorem removes_run (requests : List (QueueRequest E)) :
    Removes compare requests ((∅ : QueueStore E).run compare requests) := by
  have represents := represents_empty.run compare requests
  have origin {slot : Slot E} (member : slot ∈ ((∅ : Queue E).run compare requests).slots) :=
    Queue.origin_run compare requests (List.mem_append_left _ (List.mem_append_left _ member))
  generalize (∅ : QueueStore E).run compare requests = s at represents ⊢
  generalize (∅ : Queue E).run compare requests = q at represents origin
  have distinct : (s.inOrder.map Slot.number).Nodup := represents.slots ▸ q.distinct
  constructor
  case inserted => exact fun slot member => origin (represents.slots ▸ member)
  case shown =>
    intro S test memory
    obtain ⟨same, log⟩ := s.removeIf_noting test memory
    exact ⟨same, log, test.map_fst_answers s.toList memory⟩
  case removeIf =>
    exact fun test memory => ⟨s.fst_removeIf test memory, leaves_removeIf compare distinct test memory⟩
  case retain_shown =>
    intro S test memory
    obtain ⟨same, log⟩ := s.removeIf_noting_negated test memory
    refine ⟨?_, log⟩
    rw [QueueStore.retain, same]
    rfl
  case retain => exact fun test memory => leaves_retain compare distinct test memory
  case removeAll => exact leaves_removeAll compare distinct
  case update => exact update_perm compare represents

/-- Every second element of a sorted store is removed. An element that an update removes and adds is
there as a new one, behind those of the same rank. -/
theorem removes_run_alternating :
    let compare : Nat × Nat → Nat × Nat → Ordering := compareOn Prod.fst
    let requests : List (QueueRequest (Nat × Nat)) :=
      [.addAll [(1, 0), (0, 1), (1, 2), (1, 3), (2, 4)], .sort]
    let s := (∅ : QueueStore (Nat × Nat)).run compare requests
    Std.TransCmp compare ∧ Removes compare requests s ∧
      (s.removeIf (.everyNth 2) 0).1 = [(1, 0), (1, 3)] ∧
      (s.removeIf (.everyNth 2) 0).2.toList = [(0, 1), (1, 2), (2, 4)] ∧
      (s.update compare [(1, 2), (0, 6)] [(1, 2)]).toList =
        [(0, 1), (0, 6), (1, 0), (1, 3), (1, 2), (2, 4)] := by
  intro compare requests s
  have trans : Std.TransCmp compare := inferInstanceAs (Std.TransCmp (compareOn Prod.fst))
  refine ⟨trans, removes_run compare requests, ?_, ?_, ?_⟩
  · cbv
  · cbv
  · cbv

end QueueStore

end Vicinity

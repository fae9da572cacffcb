import Mathlib.Data.List.Permutation
import Mathlib.Data.List.Sort
import Vicinity.Proofs.Queue.Conservation

/-! # Sorting a queue

The order of a sorted queue is a strict one of its slots: by their elements, and by their numbers
where the elements compare equal. No two slots of a queue have the same number, so there is only one
way to put the slots of a queue in order. However they were arranged before, whatever took them out,
changed them or sorted them by ranks that they do not have any more, a sort comes to the same.
-/

namespace Vicinity

variable {E : Type} (compare : E → E → Ordering)

namespace Slot

/-- One slot stands before another in sorted order: by their elements, or by their numbers if the
elements compare equal. -/
def Before (front later : Slot E) : Prop :=
  compare front.element later.element = .lt ∨
    compare front.element later.element = .eq ∧ front.number < later.number

variable {compare} {a b c : Slot E}

theorem ordered_iff : ordered compare a b = true ↔
    compare a.element b.element = .lt ∨
      compare a.element b.element = .eq ∧ a.number ≤ b.number := by
  rw [ordered]
  cases compare a.element b.element <;> simp

variable [Std.TransCmp compare]

theorem ordered_trans (first : ordered compare a b = true) (second : ordered compare b c = true) :
    ordered compare a c = true := by
  rw [ordered_iff] at first second ⊢
  rcases first with lower | ⟨tie, earlier⟩ <;> rcases second with below | ⟨same, before⟩
  · exact .inl (Std.TransCmp.lt_trans lower below)
  · exact .inl (Std.TransCmp.lt_of_lt_of_eq lower same)
  · exact .inl (Std.TransCmp.lt_of_eq_of_lt tie below)
  · exact .inr ⟨Std.TransCmp.eq_trans tie same, earlier.trans before⟩

theorem ordered_total (a b : Slot E) : ordered compare a b = true ∨ ordered compare b a = true := by
  rw [ordered_iff, ordered_iff]
  cases found : compare a.element b.element with
  | lt => exact .inl (.inl rfl)
  | gt => exact .inr (.inl (Std.OrientedCmp.lt_of_gt found))
  | eq =>
    have back : compare b.element a.element = .eq := Std.OrientedCmp.eq_symm found
    exact (Nat.le_total a.number b.number).imp (fun earlier => .inr ⟨rfl, earlier⟩)
      fun later => .inr ⟨back, later⟩

/-- Slots that may stand in either order have the same number. -/
theorem ordered_antisymm (first : ordered compare a b = true) (second : ordered compare b a = true) :
    a.number = b.number := by
  rw [ordered_iff] at first second
  rcases first with lower | ⟨tie, earlier⟩ <;> rcases second with higher | ⟨same, later⟩
  · exact absurd higher (Std.OrientedCmp.not_lt_of_lt lower)
  · rw [Std.OrientedCmp.eq_symm same] at lower
    contradiction
  · rw [Std.OrientedCmp.eq_symm tie] at higher
    contradiction
  · exact Nat.le_antisymm earlier later

/-- Slots of different numbers can be put in order in one way only. -/
theorem eq_of_ordered {first second : List (Slot E)} (distinct : (second.map number).Nodup)
    (same : first.Perm second)
    (before : first.Pairwise fun front later => ordered compare front later = true)
    (after : second.Pairwise fun front later => ordered compare front later = true) :
    first = second := by
  refine same.eq_of_pairwise ?_ before after
  intro a b there here front later
  exact List.inj_on_of_nodup_map distinct (same.subset there) here (ordered_antisymm front later)

theorem pairwise_mergeSort (slots : List (Slot E)) :
    (slots.mergeSort (ordered compare)).Pairwise fun front later =>
      ordered compare front later = true :=
  List.pairwise_mergeSort (fun _ _ _ => ordered_trans)
    (fun a b => Bool.or_eq_true_iff.mpr (ordered_total a b)) slots

/-- Sorted slots of different numbers are in ascending order, ties in the order of their numbers. -/
theorem pairwise_before_mergeSort {slots : List (Slot E)} (distinct : (slots.map number).Nodup) :
    (slots.mergeSort (ordered compare)).Pairwise (Before compare) := by
  have once := ((List.mergeSort_perm slots (ordered compare)).map number).nodup_iff.mpr distinct
  have apart : (slots.mergeSort (ordered compare)).Pairwise fun a b => a.number ≠ b.number :=
    List.pairwise_map.mp once
  refine ((pairwise_mergeSort slots).and apart).imp fun {front later} both => ?_
  refine (ordered_iff.mp both.1).imp_right fun tie => ?_
  exact ⟨tie.1, Nat.lt_of_le_of_ne tie.2 both.2⟩

/-- What some slots are without others comes to the same before and after sorting. -/
theorem mergeSort_sublist {part slots : List (Slot E)} (within : part.Sublist slots)
    (distinct : (slots.map number).Nodup) :
    (part.mergeSort (ordered compare)).Sublist (slots.mergeSort (ordered compare)) := by
  let sorted := slots.mergeSort (ordered compare)
  have found : (sorted.filter fun slot => slot.number ∈ part.map number).Perm part := by
    have kept := (List.mergeSort_perm slots (ordered compare)).filter fun slot =>
      slot.number ∈ part.map number
    rw [filter_numbers within distinct] at kept
    exact kept
  have once : ((part.mergeSort (ordered compare)).map number).Nodup :=
    ((List.mergeSort_perm part (ordered compare)).map number).nodup_iff.mpr
      (distinct.sublist (within.map number))
  rw [← eq_of_ordered once (found.trans (List.mergeSort_perm part (ordered compare)).symm)
    ((pairwise_mergeSort slots).filter _) (pairwise_mergeSort part)]
  exact List.filter_sublist

end Slot

namespace Queue

variable [Std.TransCmp compare]

theorem pairwise_sort (q : Queue E) :
    (q.sort compare).slots.Pairwise fun front later => Slot.ordered compare front later = true :=
  Slot.pairwise_mergeSort q.slots

/-- Queues that hold the same slots hold them in the same order once they are sorted. -/
theorem slots_sort_eq {p q : Queue E} (same : p.slots.Perm q.slots) :
    (p.sort compare).slots = (q.sort compare).slots := by
  have sorted (q : Queue E) : (q.sort compare).slots.Perm q.slots := List.mergeSort_perm _ _
  exact Slot.eq_of_ordered (q.sort compare).distinct
    ((sorted p).trans (same.trans (sorted q).symm)) (pairwise_sort compare p)
    (pairwise_sort compare q)

variable [DecidableEq E]

/-- What sorting makes of a queue that requests have left. -/
structure Sorts (requests : List (QueueRequest E)) (q sorted : Queue E) : Prop where
  /-- Taking elements hands them out in the order of the slots. -/
  consumed : ∀ n, sorted.handedAll compare (List.replicate n .take) = sorted.slots.take n
  contents : sorted.slots.Perm q.slots
  ascending : sorted.slots.Pairwise fun front later =>
    compare later.element front.element ≠ .lt
  fifo : sorted.slots.Pairwise fun front later =>
    compare front.element later.element = .eq → front.number < later.number
  /-- The number of a slot is the place of its insertion in the row of all insertions. -/
  inserted : ∀ slot ∈ sorted.slots, ∃ e, (arrivals requests)[slot.number]? = some e ∧
    Relation.ReflTransGen (fun old new => ∃ request ∈ requests, request.Alters old new) e
      slot.element
  /-- No other arrangement of the slots comes to anything else. -/
  determined : ∀ other : Queue E, other.slots.Perm q.slots →
    (other.sort compare).slots = sorted.slots
  settled : sorted.sort compare = sorted

/-- At every point of a run that begins with an empty queue, sorting puts the queue in ascending
order, ties in the order of their insertion, whatever the run was. -/
theorem sorts_run (requests : List (QueueRequest E)) :
    Sorts compare requests (empty.run compare requests)
      ((empty.run compare requests).sort compare) := by
  have origin {slot : Slot E} (member : slot ∈ (empty.run compare requests).slots) :=
    origin_run compare requests (List.mem_append_left _ (List.mem_append_left _ member))
  generalize empty.run compare requests = q at origin ⊢
  have contents : (q.sort compare).slots.Perm q.slots := List.mergeSort_perm _ _
  have ordered := pairwise_sort compare q
  constructor
  case consumed => exact handedAll_takes compare _
  case contents => exact contents
  case ascending =>
    refine ordered.imp fun {front later} before => ?_
    rcases Slot.ordered_iff.mp before with lower | ⟨tie, -⟩
    · exact Std.OrientedCmp.not_lt_of_lt lower
    · rw [Std.OrientedCmp.eq_symm tie]
      decide
  case fifo =>
    refine (Slot.pairwise_before_mergeSort q.distinct).imp fun {front later} before tie => ?_
    rcases before with lower | ⟨-, earlier⟩
    · rw [tie] at lower
      contradiction
    · exact earlier
  case inserted =>
    exact fun slot member => origin (contents.subset member)
  case determined =>
    intro other same
    exact slots_sort_eq compare same
  case settled => exact ext (slots_sort_eq compare contents) rfl rfl

/-- Three elements that have come to the same rank are handed out as they came, though an earlier
sort by the ranks that they had then put them in another order. -/
theorem sorts_run_ties :
    let compare : Nat × Nat → Nat × Nat → Ordering := compareOn Prod.fst
    let requests : List (QueueRequest (Nat × Nat)) :=
      [.addAll [(3, 0), (2, 1), (1, 2), (0, 3)], .sort, .poll,
        .transaction [.changeAll (fun e (_ : Unit) => ((5, e.2), ())) (), .add (4, 4)]]
    let q := empty.run compare requests
    Std.TransCmp compare ∧ Sorts compare requests q (q.sort compare) ∧
      q.toList = [(4, 4), (5, 2), (5, 1), (5, 0)] ∧
      (q.sort compare).toList = [(4, 4), (5, 0), (5, 1), (5, 2)] := by
  intro compare requests q
  have trans : Std.TransCmp compare := inferInstanceAs (Std.TransCmp (compareOn Prod.fst))
  refine ⟨trans, sorts_run compare requests, ?_, ?_⟩
  · cbv
  · cbv

end Queue

end Vicinity

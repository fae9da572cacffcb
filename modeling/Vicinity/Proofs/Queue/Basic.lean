import Mathlib.Data.List.Perm.Basic
import Vicinity.Queue.Basic

/-! # Queues as lists

What the operations of a queue do to the list of its elements, in the order in which they will be
handed out. Numbers of additions do not show in this view but for the order into which a sort brings
the elements, of which only the elements matter here.
-/

namespace Vicinity

variable {E S : Type}

namespace Slot

/-- A test sorts the elements into those it accepts and those it leaves, each in their order. -/
theorem sift_perm (test : Test E S) (slots : List (Slot E)) (s : S) :
    ((sift test slots s).1 ++ (sift test slots s).2.1.map element).Perm (slots.map element) := by
  induction slots generalizing s with
  | nil => exact .refl _
  | cons slot rest ih =>
    have later := ih (test slot.element s).2
    rw [sift]
    dsimp only
    split
    · exact later.cons slot.element
    · exact List.perm_middle.trans (later.cons slot.element)

/-- A change that remembers nothing changes every element by itself. -/
theorem changeAll_plain (change : E → E) (slots : List (Slot E)) :
    (changeAll (fun e (_ : Unit) => (change e, ())) slots ()).1.map element =
      (slots.map element).map change := by
  induction slots with
  | nil => rfl
  | cons slot rest ih => rw [changeAll, List.map_cons, ih, List.map_cons, List.map_cons]

end Slot

namespace Queue

@[simp] theorem toList_add (q : Queue E) (e : E) : (q.add e).toList = e :: q.toList := rfl

theorem length_toList (q : Queue E) : q.toList.length = q.size := List.length_map _

theorem toList_addAll (q : Queue E) (elements : List E) :
    (q.addAll elements).toList = elements.reverse ++ q.toList := by
  induction elements generalizing q with
  | nil => rfl
  | cons e rest ih => rw [addAll, List.foldl_cons, ← addAll, ih, toList_add, List.reverse_cons,
      List.append_assoc, List.singleton_append]

theorem toList_sort (compare : E → E → Ordering) (q : Queue E) :
    (q.sort compare).toList.Perm q.toList :=
  (List.mergeSort_perm q.slots _).map Slot.element

theorem toList_changeAll (change : E → E) (q : Queue E) :
    (q.changeAll (fun e (_ : Unit) => (change e, ())) ()).toList = q.toList.map change :=
  Slot.changeAll_plain change q.slots

/-- What is removed and what is left are together what was there. -/
theorem removeIf_perm (q : Queue E) (test : Test E S) (s : S) :
    ((q.removeIf test s).1 ++ (q.removeIf test s).2.toList).Perm q.toList :=
  Slot.sift_perm test q.slots s

theorem drainAll_fst (q : Queue E) : q.drainAll.1 = q.toList := by
  rw [drainAll, drain, ← length_toList, List.take_length]

theorem toList_drainAll (q : Queue E) : q.drainAll.2.toList = [] := by
  have nothing : q.slots.drop q.size = [] := List.drop_length
  rw [drainAll, drain, toList]
  exact List.map_eq_nil_iff.mpr nothing

/-- The element at the front is the one to be handed out. -/
theorem poll_of_cons {q : Queue E} {e : E} {rest : List E} (listed : q.toList = e :: rest) :
    ∃ left, q.poll = some (e, left) ∧ left.toList = rest := by
  rw [poll]
  split
  · next empty =>
    rw [toList, empty] at listed
    contradiction
  · next slot later slots =>
    rw [toList, slots, List.map_cons, List.cons.injEq] at listed
    exact ⟨_, congrArg (fun first => some (first, _)) listed.1, listed.2⟩

theorem poll_of_nil {q : Queue E} (nothing : q.toList = []) : q.poll = none := by
  rw [poll]
  split
  · rfl
  · next slot later slots =>
    rw [toList, slots] at nothing
    contradiction

theorem take_of_cons {q : Queue E} {e : E} {rest : List E} (listed : q.toList = e :: rest) :
    ∃ left, q.take = (.element e, left) ∧ left.toList = rest := by
  obtain ⟨left, polled, shape⟩ := poll_of_cons listed
  refine ⟨left, ?_, shape⟩
  rw [take, polled]

theorem take_of_nil {q : Queue E} (nothing : q.toList = []) :
    q.take = (if q.closed then .ended else .waits, q) := by
  rw [take, poll_of_nil nothing]

/-- An element that is taken stood at the front. -/
theorem toList_of_take {q rest : Queue E} {e : E} (taken : q.take = (.element e, rest)) :
    q.toList = e :: rest.toList := by
  rw [take, poll] at taken
  split at taken
  · next found =>
    split at found
    · contradiction
    · next slot left slots =>
      cases found
      cases taken
      exact congrArg (List.map Slot.element) slots
  · split at taken <;> cases taken

end Queue

end Vicinity

import Vicinity.Proofs.Queue.Custody

/-! # Queues neither lose nor duplicate

From the turns of single requests follows what becomes of insertions in a run, from an empty queue
on: at every point each of them is in one of three places, which are the queue, what has been handed
over and what has been discarded, and nothing else is there.
-/

namespace Vicinity.Queue

variable {E A : Type} {P : E → E → Prop} [DecidableEq E]

/-- Removing an element takes its last occurrence out, or nothing if there is none. -/
theorem remove_cases (q : Queue E) (e : E) :
    (e ∉ q.toList ∧ q.remove e = (false, q)) ∨
      ∃ before slot after, q.slots = before ++ slot :: after ∧ slot.element = e ∧
        e ∉ after.map Slot.element ∧ (q.remove e).1 = true ∧
        (q.remove e).2.slots = before ++ after := by
  by_cases present : e ∈ q.toList
  · obtain ⟨slot, member, holds⟩ := List.mem_map.mp present
    obtain ⟨last, after, before, none, found, listed, erased⟩ :=
      List.exists_of_eraseP (p := fun slot : Slot E => decide (slot.element = e))
        (List.mem_reverse.mpr member) (decide_eq_true holds)
    refine .inr ⟨before.reverse, last, after.reverse, ?_, of_decide_eq_true found, ?_, ?_, ?_⟩
    · rw [← List.reverse_reverse q.slots, listed]
      simp only [List.reverse_append, List.reverse_cons, List.append_assoc, List.singleton_append]
    · intro there
      obtain ⟨other, later, same⟩ := List.mem_map.mp there
      exact none other (List.mem_reverse.mp later) (decide_eq_true same)
    · exact List.contains_iff_mem.mpr present
    · change (q.slots.reverse.eraseP _).reverse = _
      rw [erased, List.reverse_append]
  · refine .inl ⟨present, Prod.ext (by simpa [remove, contains] using present) (ext ?_ rfl rfl)⟩
    change (q.slots.reverse.eraseP _).reverse = _
    rw [List.eraseP_of_forall_not, List.reverse_reverse]
    intro slot member holds
    exact present (List.mem_map.mpr ⟨slot, List.mem_reverse.mp member, of_decide_eq_true holds⟩)

variable (compare : E → E → Ordering)

/-! ## Runs -/

/-- The elements that are put in during a run, in the order in which they are. -/
def arrivals (requests : List (QueueRequest E)) : List E := requests.flatMap QueueRequest.arrivals

/-- The slots that are handed over in a run. -/
def handedAll (q : Queue E) (requests : List (QueueRequest E)) : List (Slot E) :=
  q.gather compare (handed compare) requests

/-- The slots that are discarded in a run. -/
def discardedAll (q : Queue E) (requests : List (QueueRequest E)) : List (Slot E) :=
  q.gather compare (discarded compare) requests

/-- The elements that come back from the requests of a run. -/
def answers (q : Queue E) (requests : List (QueueRequest E)) : List E :=
  q.gather compare (fun q request => (q.serve compare request).1) requests

/-- What is taken out in a run is handed over or discarded. -/
theorem gather_gone (q : Queue E) (requests : List (QueueRequest E)) :
    (q.gather compare (gone compare) requests).Perm
      (q.handedAll compare requests ++ q.discardedAll compare requests) := by
  induction requests generalizing q with
  | nil => exact .refl _
  | cons request rest ih =>
    have parts : q.gone compare request = q.handed compare request ++ q.discarded compare request := by
      rw [handed, discarded]
      cases request.discards <;> simp
    have later := ih (q.serve compare request).2
    rw [gather, parts, handedAll, discardedAll, gather, gather]
    refine (later.append_left _).trans ?_
    simp only [List.append_assoc]
    refine List.Perm.append_left _ ?_
    rw [← List.append_assoc, ← List.append_assoc]
    exact List.perm_append_comm.append_right _

/-- A run turns a queue as a whole. -/
theorem turns_run (q : Queue E) (requests : List (QueueRequest E))
    (allowed : ∀ request ∈ requests, ∀ old new, request.Alters old new → P old new) :
    Turns P q (arrivals requests) (q.gather compare (gone compare) requests)
      (q.run compare requests) := by
  induction requests generalizing q with
  | nil => exact turns_self q
  | cons request rest ih =>
    have first := turns_serve compare q request (allowed request (List.mem_cons_self ..))
    exact first.trans (ih _ fun other member => allowed other (List.mem_cons_of_mem _ member))

theorem map_element_handedAll (q : Queue E) (requests : List (QueueRequest E)) :
    (q.handedAll compare requests).map Slot.element = q.answers compare requests := by
  induction requests generalizing q with
  | nil => rfl
  | cons request rest ih =>
    rw [handedAll, gather, List.map_append, serve_answer, ← handedAll, ih]
    rfl

/-- Taking elements one after another hands them out from the front on. -/
theorem handedAll_takes (q : Queue E) (n : Nat) :
    q.handedAll compare (List.replicate n .take) = q.slots.take n := by
  induction n generalizing q with
  | zero => rfl
  | succ n ih =>
    have served : q.serve compare .take = q.drain 1 := q.take_eq
    have first : q.handed compare .take = q.slots.take 1 := by
      change q.left (q.serve compare .take).2 = q.slots.take 1
      rw [served, left_drain]
    have rest : (q.drain 1).2.slots = q.slots.drop 1 := rfl
    rw [List.replicate_succ, handedAll, gather, first, served, ← handedAll, ih, rest, Nat.add_comm,
      List.take_add]

/-- What becomes of the insertions of a run, from an empty queue on. -/
structure Conserves (requests : List (QueueRequest E)) (q : Queue E)
    (handed discarded : List (Slot E)) : Prop where
  /-- Every insertion is in one of the three places, once, and there is nothing else. -/
  once : ((q.slots ++ handed ++ discarded).map Slot.number).Perm
    (List.range (arrivals requests).length)
  /-- It is the element that was put in, but for changes in place. -/
  origin : ∀ slot ∈ q.slots ++ handed ++ discarded, ∃ e,
    (arrivals requests)[slot.number]? = some e ∧
      Relation.ReflTransGen (fun old new => ∃ request ∈ requests, request.Alters old new) e
        slot.element
  answered : handed.map Slot.element = empty.answers compare requests
  /-- Whether the queue is closed or not, an element is put in at the front, and elements are handed
  out from there on until none is left. -/
  accepts : ∀ e, (q.add e).slots = ⟨(arrivals requests).length, e⟩ :: q.slots
  hands_out : ∀ n, q.handedAll compare (List.replicate n .take) = q.slots.take n
  still : ∀ request : QueueRequest E, request.isStill = true →
    request.arrivals = [] ∧ q.handed compare request = [] ∧ q.discarded compare request = [] ∧
      ((q.serve compare request).2.slots.map Slot.number).Perm (q.slots.map Slot.number)
  /-- Removing an element discards its last occurrence, or does nothing if there is none. -/
  removes : ∀ e, (e ∉ q.toList ∧ q.remove e = (false, q)) ∨
    ∃ before slot after, q.slots = before ++ slot :: after ∧ slot.element = e ∧
      e ∉ after.map Slot.element ∧ (q.remove e).1 = true ∧ (q.remove e).2.slots = before ++ after ∧
      q.discarded compare (.remove e) = [slot]

/-- What a run has put in is what is in one of the three places. -/
theorem turned_run (requests : List (QueueRequest E)) :
    Slot.Turned (fun old new => ∃ request ∈ requests, request.Alters old new)
      (Slot.numbered 0 (arrivals requests))
      ((empty.run compare requests).slots ++ empty.handedAll compare requests ++
        empty.discardedAll compare requests) := by
  have turns := turns_run compare empty requests
    (P := fun old new => ∃ request ∈ requests, request.Alters old new)
    fun request member old new alters => ⟨request, member, alters⟩
  have turned := turns.turned.trans (.of_perm ((gather_gone compare empty requests).append_left _))
  rw [← List.append_assoc] at turned
  exact turned

/-- The number of a slot is the place of its element in the row of all insertions. -/
theorem origin_run (requests : List (QueueRequest E)) {slot : Slot E}
    (member : slot ∈ (empty.run compare requests).slots ++ empty.handedAll compare requests ++
      empty.discardedAll compare requests) :
    ∃ e, (arrivals requests)[slot.number]? = some e ∧
      Relation.ReflTransGen (fun old new => ∃ request ∈ requests, request.Alters old new) e
        slot.element := by
  obtain ⟨old, there, number, changed⟩ := (turned_run compare requests).origin member
  have found := (Slot.getElem?_of_mem_numbered there).2
  rw [number]
  exact ⟨old.element, found, changed⟩

/-- A queue neither loses nor duplicates: at every point of a run that begins with an empty queue,
each insertion is in the queue, has been handed over or has been discarded. -/
theorem conserves_run (requests : List (QueueRequest E)) :
    Conserves compare requests (empty.run compare requests)
      (empty.handedAll compare requests) (empty.discardedAll compare requests) := by
  constructor
  case once =>
    refine (turned_run compare requests).numbers.trans ?_
    rw [Slot.map_number_numbered, List.range_eq_range']
  case origin => exact fun slot member => origin_run compare requests member
  case answered => exact map_element_handedAll compare empty requests
  case accepts =>
    intro e
    have turns := turns_run compare empty requests (P := fun _ _ => True) fun _ _ _ _ _ => trivial
    have next := turns.next
    rw [show (empty : Queue E).next = 0 from rfl, Nat.zero_add] at next
    rw [← next]
    rfl
  case hands_out => exact handedAll_takes compare _
  case still =>
    intro request still
    obtain ⟨came, gone, turns⟩ := turns_of_still compare (empty.run compare requests) still
    have numbers := turns.turned.numbers
    rw [List.append_nil, Slot.numbered, List.append_nil] at numbers
    refine ⟨came, ?_, ?_, numbers⟩
    · rw [handed, gone, ite_self]
    · rw [discarded, gone, ite_self]
  case removes =>
    intro e
    obtain absent | ⟨before, slot, after, found, holds, last, removed, rest⟩ :=
      remove_cases (empty.run compare requests) e
    · exact .inl absent
    · refine .inr ⟨before, slot, after, found, holds, last, removed, rest, ?_⟩
      refine left_eq ?_ ?_
      · rw [found]
        exact (List.singleton_sublist.mpr (List.mem_cons_self ..)).trans
          (List.sublist_append_right before _)
      · change (slot :: ((empty.run compare requests).remove e).2.slots).Perm _
        rw [rest, found]
        exact List.perm_middle.symm

end Vicinity.Queue

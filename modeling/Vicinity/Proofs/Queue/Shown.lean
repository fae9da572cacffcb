import Vicinity.Proofs.Queue.Basic

/-! # What a test is shown

A test that remembers is a record of its own: of the elements it was shown, in which order, and what
it answered to each. What a removal takes out and what it leaves are the two parts of this record.
-/

namespace Vicinity

variable {E S : Type}

namespace Test

/-- What a test answers to elements that it is shown one after another. -/
def answers (test : Test E S) : List E → S → List (E × Bool)
  | [], _ => []
  | e :: rest, s => (e, (test e s).1) :: answers test rest (test e s).2

/-- The same test, which also notes what it is shown and what it answers. -/
def noting (test : Test E S) : Test E (S × List (E × Bool)) := fun e memory =>
  let (accepted, next) := test e memory.1
  (accepted, next, memory.2 ++ [(e, accepted)])

theorem map_fst_answers (test : Test E S) (elements : List E) (s : S) :
    (test.answers elements s).map Prod.fst = elements := by
  induction elements generalizing s with
  | nil => rfl
  | cons e rest ih => rw [answers, List.map_cons, ih]

theorem answers_negated (test : Test E S) (elements : List E) (s : S) :
    test.negated.answers elements s =
      (test.answers elements s).map fun shown => (shown.1, !shown.2) := by
  induction elements generalizing s with
  | nil => rfl
  | cons e rest ih => exact congrArg ((e, !(test e s).1) :: ·) (ih (test e s).2)

theorem answers_plain (accepts : E → Bool) (elements : List E) (s : S) :
    (plain accepts).answers elements s = elements.map fun e => (e, accepts e) := by
  induction elements with
  | nil => rfl
  | cons e rest ih => exact congrArg ((e, accepts e) :: ·) ih

end Test

namespace Slot

/-- If a test logs what another one answers, and remembers what that one does, its log has the elements
in their order, each once. -/
theorem sift_logging {test asked : Test E S} {logging : Test E (S × List (E × Bool))}
    (remembers : ∀ e s, (asked e s).2 = (test e s).2)
    (logs : ∀ e s before, logging e (s, before) =
      ((asked e s).1, (asked e s).2, before ++ [(e, (test e s).1)]))
    (slots : List (Slot E)) (s : S) (before : List (E × Bool)) :
    sift logging slots (s, before) =
      ((sift asked slots s).1, (sift asked slots s).2.1, (sift asked slots s).2.2,
        before ++ test.answers (slots.map element) s) := by
  induction slots generalizing s before with
  | nil => rw [List.map_nil, Test.answers, List.append_nil]; rfl
  | cons slot rest ih =>
    rw [sift, sift, logs, List.map_cons, Test.answers]
    dsimp only
    rw [ih, remembers]
    cases (asked slot.element s).1 <;> simp

/-- Noting makes no difference to what is removed and what is left. What is noted are the elements in
their order, each once. -/
theorem sift_noting (test : Test E S) (slots : List (Slot E)) (s : S) (before : List (E × Bool)) :
    sift test.noting slots (s, before) =
      ((sift test slots s).1, (sift test slots s).2.1, (sift test slots s).2.2,
        before ++ test.answers (slots.map element) s) :=
  sift_logging (fun _ _ => rfl) (fun _ _ _ => rfl) slots s before

theorem sift_removed (test : Test E S) (slots : List (Slot E)) (s : S) :
    (sift test slots s).1 =
      ((test.answers (slots.map element) s).filter fun shown => shown.2).map Prod.fst := by
  induction slots generalizing s with
  | nil => rfl
  | cons slot rest ih =>
    rw [List.map_cons, Test.answers, List.filter_cons, sift]
    dsimp only
    split
    · rw [ih, List.map_cons]
    · rw [ih]

/-- The slots whose elements got a certain answer. -/
def answered (answer : Bool) (slots : List (Slot E)) (shown : List (E × Bool)) : List (Slot E) :=
  ((slots.zip shown).filter fun pair => pair.2.2 == answer).map Prod.fst

/-- What is left are the slots of the elements that the test does not accept. -/
theorem sift_left (test : Test E S) (slots : List (Slot E)) (s : S) :
    (sift test slots s).2.1 = answered false slots (test.answers (slots.map element) s) := by
  induction slots generalizing s with
  | nil => rfl
  | cons slot rest ih =>
    rw [List.map_cons, Test.answers, answered, List.zip_cons_cons, List.filter_cons, sift]
    dsimp only
    cases (test slot.element s).1 with
    | true => exact ih _
    | false => exact congrArg (slot :: ·) (ih _)

/-- The slots that got an answer are those that got the opposite of the opposite one. -/
theorem answered_not (answer : Bool) (slots : List (Slot E)) (shown : List (E × Bool)) :
    answered answer slots (shown.map fun pair => (pair.1, !pair.2)) =
      answered (!answer) slots shown := by
  rw [answered, answered, List.zip_map_right, List.filter_map, List.map_map]
  refine congrArg₂ List.map rfl (List.filter_congr fun pair _ => ?_)
  cases answer <;> simp

theorem answered_map (answer : Bool) (accepts : E → Bool) (slots : List (Slot E)) :
    answered answer slots ((slots.map element).map fun e => (e, accepts e)) =
      slots.filter fun slot => accepts slot.element == answer := by
  induction slots with
  | nil => rfl
  | cons slot rest ih =>
    rw [answered] at ih ⊢
    rw [List.map_cons, List.map_cons, List.zip_cons_cons, List.filter_cons, List.filter_cons]
    dsimp only
    split
    · rw [List.map_cons, ih]
    · exact ih

theorem isEmpty_sift (test : Test E S) (slots : List (Slot E)) (s : S) :
    (sift test slots s).1.isEmpty = !(test.answers (slots.map element) s).any Prod.snd := by
  rw [sift_removed, List.isEmpty_map, Bool.eq_iff_iff]
  simp

theorem sift_kept (test : Test E S) (slots : List (Slot E)) (s : S) :
    (sift test slots s).2.1.map element =
      ((test.answers (slots.map element) s).filter fun shown => !shown.2).map Prod.fst := by
  induction slots generalizing s with
  | nil => rfl
  | cons slot rest ih =>
    rw [List.map_cons, Test.answers, List.filter_cons, sift]
    dsimp only
    cases (test slot.element s).1 with
    | true => exact ih _
    | false => exact congrArg (slot.element :: ·) (ih _)

end Slot

end Vicinity

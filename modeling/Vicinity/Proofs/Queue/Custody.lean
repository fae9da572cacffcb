import Mathlib.Data.List.Nodup
import Mathlib.Data.Multiset.MapFold
import Mathlib.Logic.Relation
import Vicinity.Proofs.Queue.Requests

/-! # What becomes of insertions

Each element that is put into a queue is an insertion of its own, known by its number, which is its
place in the row of all insertions. Every request turns the slots that it finds, together with those
of the elements that it puts in, into the slots that it leaves and those that it takes out: `Turned`
says that of two rows of slots the second has what the first has, in any order and with elements
changed in place, and `Turns` says it of a queue before and after. Turns compose, so a run is one as
a whole: no insertion is lost, and none is there twice.
-/

namespace Vicinity

variable {E S : Type} {P : E → E → Prop}

namespace Slot

/-- Two slots are of one insertion, whose element has been changed as `P` allows, any number of
times. -/
def Becomes (P : E → E → Prop) (old new : Slot E) : Prop :=
  new.number = old.number ∧ Relation.ReflTransGen P old.element new.element

theorem becomes_refl (slot : Slot E) : slot.Becomes P slot := ⟨rfl, .refl⟩

instance : IsTrans (Slot E) (Becomes P) :=
  ⟨fun _ _ _ first second => ⟨second.1.trans first.1, first.2.trans second.2⟩⟩

/-- The slots of elements that are numbered on from some number. -/
def numbered : Nat → List E → List (Slot E)
  | _, [] => []
  | start, e :: rest => ⟨start, e⟩ :: numbered (start + 1) rest

theorem numbered_append (start : Nat) (first second : List E) :
    numbered start (first ++ second) =
      numbered start first ++ numbered (start + first.length) second := by
  induction first generalizing start with
  | nil => rfl
  | cons e rest ih =>
    simp only [List.cons_append, numbered, ih, List.length_cons, Nat.add_assoc, Nat.add_comm 1]

theorem map_number_numbered (start : Nat) (elements : List E) :
    (numbered start elements).map number = List.range' start elements.length := by
  induction elements generalizing start with
  | nil => rfl
  | cons e rest ih => simp only [numbered, List.map_cons, ih, List.length_cons, List.range'_succ]

theorem getElem?_of_mem_numbered {elements : List E} {start : Nat} {slot : Slot E}
    (member : slot ∈ numbered start elements) :
    start ≤ slot.number ∧ elements[slot.number - start]? = some slot.element := by
  induction elements generalizing start with
  | nil => contradiction
  | cons e rest ih =>
    obtain rfl | later := List.mem_cons.mp member
    · simp only [Nat.le_refl, Nat.sub_self, List.getElem?_cons_zero, and_self]
    · obtain ⟨bound, found⟩ := ih later
      have shifted : slot.number - start = slot.number - (start + 1) + 1 := by omega
      rw [shifted, List.getElem?_cons_succ]
      exact ⟨by omega, found⟩

/-! ## Turning slots into slots -/

/-- The second of two rows of slots has what the first has, in any order and with elements changed. -/
def Turned (P : E → E → Prop) (before after : List (Slot E)) : Prop :=
  Multiset.Rel (Becomes P) before after

theorem Turned.of_perm {before after : List (Slot E)} (same : before.Perm after) :
    Turned P before after := by
  rw [Turned, Multiset.coe_eq_coe.mpr same]
  exact Multiset.rel_refl_of_refl_on fun slot _ => slot.becomes_refl

theorem Turned.trans {first second third : List (Slot E)} (before : Turned P first second)
    (after : Turned P second third) : Turned P first third :=
  Multiset.Rel.trans (Becomes P) before after

theorem Turned.append {before after others later : List (Slot E)} (turned : Turned P before after)
    (beside : Turned P others later) : Turned P (before ++ others) (after ++ later) := by
  rw [Turned, ← Multiset.coe_add, ← Multiset.coe_add]
  exact Multiset.Rel.add turned beside

/-- Insertions keep their numbers. -/
theorem Turned.numbers {before after : List (Slot E)} (turned : Turned P before after) :
    (after.map number).Perm (before.map number) := by
  have kept : Multiset.Rel (fun old new : Slot E => number old = number new) before after :=
    turned.mono fun _ _ _ _ becomes => becomes.1.symm
  rw [← Multiset.rel_map (p := Eq), Multiset.rel_eq, Multiset.map_coe, Multiset.map_coe] at kept
  exact (Multiset.coe_eq_coe.mp kept).symm

/-- Whatever is there has come from what was there. -/
theorem Turned.origin {before after : List (Slot E)} (turned : Turned P before after)
    {new : Slot E} (member : new ∈ after) : ∃ old ∈ before, old.Becomes P new :=
  Multiset.exists_mem_of_rel_of_mem (Multiset.rel_flip.mpr turned) member

theorem turned_changeAll {change : E → S → E × S} (allowed : ∀ e s, P e (change e s).1)
    (slots : List (Slot E)) (s : S) : Turned P slots (changeAll change slots s).1 := by
  induction slots with
  | nil => exact .of_perm (.refl _)
  | cons slot rest ih =>
    rw [changeAll]
    dsimp only
    exact Multiset.rel_cons_left.mpr ⟨_, _, ⟨rfl, .single (allowed _ _)⟩, ih, rfl⟩

/-! ## Taking slots out -/

/-- Slots of some numbers are found again by their numbers. -/
theorem filter_numbers {part slots : List (Slot E)} (within : part.Sublist slots)
    (distinct : (slots.map number).Nodup) :
    (slots.filter fun slot => slot.number ∈ part.map number) = part := by
  induction within with
  | slnil => rfl
  | @cons part slots slot within ih =>
    obtain ⟨fresh, distinct⟩ := List.nodup_cons.mp distinct
    have absent : slot.number ∉ part.map number := fun there =>
      fresh ((within.map number).subset there)
    rw [List.filter_cons_of_neg (by simpa using absent), ih distinct]
  | @cons_cons part slots slot within ih =>
    obtain ⟨fresh, distinct⟩ := List.nodup_cons.mp distinct
    rw [List.filter_cons_of_pos (by simp)]
    refine congrArg (slot :: ·) (Eq.trans ?_ (ih distinct))
    refine List.filter_congr fun other member => ?_
    have different : other.number ≠ slot.number := fun same =>
      fresh (same ▸ List.mem_map_of_mem member)
    simp only [List.map_cons, List.mem_cons, different, false_or]

/-- What a test accepts are slots of their own, in the order in which they stand. -/
theorem sift_split (test : Test E S) (slots : List (Slot E)) (s : S) :
    ∃ accepted, accepted.Sublist slots ∧ (accepted ++ (sift test slots s).2.1).Perm slots ∧
      accepted.map element = (sift test slots s).1 := by
  induction slots generalizing s with
  | nil => exact ⟨[], .slnil, .refl _, rfl⟩
  | cons slot rest ih =>
    obtain ⟨accepted, within, parts, removed⟩ := ih (test slot.element s).2
    rw [sift]
    dsimp only
    split
    · exact ⟨slot :: accepted, within.cons_cons slot, parts.cons slot, congrArg _ removed⟩
    · exact ⟨accepted, within.cons slot, List.perm_middle.trans (parts.cons slot), removed⟩

end Slot

namespace Queue

variable {q : Queue E}

theorem ext {p q : Queue E} (slots : p.slots = q.slots) (next : p.next = q.next)
    (closed : p.closed = q.closed) : p = q := by
  cases p
  cases q
  cases slots
  cases next
  cases closed
  rfl

/-- What is left out of a restricted queue is the rest of it. -/
theorem left_perm {after : Queue E} (part : after.slots.Sublist q.slots) :
    (after.slots ++ q.left after).Perm q.slots := by
  have parts := List.filter_append_perm (fun slot => slot.number ∈ after.slots.map Slot.number) q.slots
  rw [Slot.filter_numbers part q.distinct] at parts
  simpa only [left, decide_not] using parts

theorem left_eq {after : Queue E} {out : List (Slot E)} (within : out.Sublist q.slots)
    (parts : (out ++ after.slots).Perm q.slots) : q.left after = out := by
  have distinct := ((parts.map Slot.number).nodup_iff).mpr q.distinct
  rw [List.map_append] at distinct
  refine Eq.trans (List.filter_congr fun slot member => ?_) (Slot.filter_numbers within q.distinct)
  have either : slot.number ∈ out.map Slot.number ∨ slot.number ∈ after.slots.map Slot.number := by
    rw [← List.mem_append, ← List.map_append]
    exact List.mem_map_of_mem (parts.mem_iff.mpr member)
  have apart := List.disjoint_of_nodup_append distinct
  rw [decide_eq_decide]
  exact ⟨fun absent => either.resolve_right absent, fun there => apart there⟩

theorem left_eq_nil {after : Queue E}
    (kept : q.slots.map Slot.number ⊆ after.slots.map Slot.number) : q.left after = [] := by
  refine List.filter_eq_nil_iff.mpr fun slot member => ?_
  simpa using kept (List.mem_map_of_mem member)

/-! ## Turns -/

/-- A queue turns into another as some elements come in and some slots go out. -/
structure Turns (P : E → E → Prop) (q : Queue E) (came : List E) (out : List (Slot E))
    (after : Queue E) : Prop where
  next : after.next = q.next + came.length
  turned : Slot.Turned P (q.slots ++ Slot.numbered q.next came) (after.slots ++ out)

theorem turns_of_perm {after : Queue E} {out : List (Slot E)} (next : after.next = q.next)
    (parts : (after.slots ++ out).Perm q.slots) : Turns P q [] out after := by
  refine ⟨next, .of_perm ?_⟩
  rw [Slot.numbered, List.append_nil]
  exact parts.symm

/-- What goes out of one turn and of the next goes out of both together. -/
theorem Turns.trans {middle after : Queue E} {came later : List E} {out left : List (Slot E)}
    (before : Turns P q came out middle) (turns : Turns P middle later left after) :
    Turns P q (came ++ later) (out ++ left) after := by
  constructor
  · rw [turns.next, before.next, List.length_append, Nat.add_assoc]
  · have first := before.turned.append (.of_perm (.refl (Slot.numbered middle.next later)))
    have second := turns.turned.append (.of_perm (.refl out))
    have between : (middle.slots ++ out ++ Slot.numbered middle.next later).Perm
        (middle.slots ++ Slot.numbered middle.next later ++ out) := by
      simp only [List.append_assoc]
      exact List.perm_append_comm.append_left middle.slots
    have last : (after.slots ++ left ++ out).Perm (after.slots ++ (out ++ left)) := by
      rw [List.append_assoc]
      exact List.perm_append_comm.append_left after.slots
    have whole := ((first.trans (.of_perm between)).trans second).trans (.of_perm last)
    rw [before.next, List.append_assoc, ← Slot.numbered_append] at whole
    exact whole

/-- When nothing goes out, nothing is left out. -/
theorem Turns.left_eq_nil {came : List E} {after : Queue E} (turns : Turns P q came [] after) :
    q.left after = [] := by
  have numbers := turns.turned.numbers
  rw [List.append_nil, List.map_append] at numbers
  exact Queue.left_eq_nil fun number there => numbers.mem_iff.mpr (List.mem_append_left _ there)

theorem turns_add (q : Queue E) (e : E) : Turns P q [e] [] (q.add e) := by
  refine ⟨rfl, .of_perm ?_⟩
  rw [List.append_nil]
  exact List.perm_append_singleton _ _

theorem turns_addAll (q : Queue E) (elements : List E) :
    Turns P q elements [] (q.addAll elements) := by
  induction elements generalizing q with
  | nil => exact turns_of_perm rfl (by rw [List.append_nil]; exact .refl _)
  | cons e rest ih => exact (turns_add q e).trans (ih (q.add e))

theorem turns_restrict {after : Queue E} (next : after.next = q.next)
    (part : after.slots.Sublist q.slots) : Turns P q [] (q.left after) after :=
  turns_of_perm next (left_perm part)

theorem turns_sort (compare : E → E → Ordering) (q : Queue E) :
    Turns P q [] [] (q.sort compare) := by
  refine turns_of_perm rfl ?_
  rw [List.append_nil]
  exact List.mergeSort_perm _ _

theorem turns_changeAll {change : E → S → E × S} (allowed : ∀ e s, P e (change e s).1) (q : Queue E)
    (s : S) : Turns P q [] [] (q.changeAll change s) := by
  refine ⟨rfl, ?_⟩
  rw [Slot.numbered, List.append_nil, List.append_nil]
  exact Slot.turned_changeAll allowed q.slots s

theorem turns_self (q : Queue E) : Turns P q [] [] q :=
  turns_of_perm rfl (by rw [List.append_nil])

variable (compare : E → E → Ordering)

/-- A step turns a queue, and takes out what it leaves out. -/
theorem turns_step (q : Queue E) (step : QueueStep E)
    (allowed : ∀ old new, step.Alters old new → P old new) :
    Turns P q step.arrivals (q.left (q.step compare step).2) (q.step compare step).2 := by
  have still {came : List E} {after : Queue E} (turns : Turns P q came [] after) :
      Turns P q came (q.left after) after := turns.left_eq_nil.symm ▸ turns
  cases step with
  | add e => exact still (turns_add q e)
  | addAll elements => exact still (turns_addAll q elements)
  | removeIf test s => exact turns_restrict rfl (Slot.sift_sublist test q.slots s)
  | changeAll change s => exact still (turns_changeAll (fun e s => allowed _ _ ⟨s, rfl⟩) q s)
  | sort => exact still (turns_sort compare q)
  | look view => exact still (turns_self q)

theorem turns_transact (q : Queue E) (body : List (QueueStep E))
    (allowed : ∀ step ∈ body, ∀ old new, step.Alters old new → P old new) :
    Turns P q (body.flatMap QueueStep.arrivals) (q.goneInSteps compare body)
      (q.transact compare body).2 := by
  induction body generalizing q with
  | nil => exact turns_self q
  | cons step rest ih =>
    have first := turns_step compare q step (allowed step (List.mem_cons_self ..))
    exact first.trans (ih _ fun other member => allowed other (List.mem_cons_of_mem _ member))

/-! ## Requests -/

/-- Polling is draining one element at most. -/
theorem poll_eq (q : Queue E) :
    (q.poll.elim ([], q) fun handed => ([handed.1], handed.2)) = q.drain 1 := by
  rw [poll]
  split
  · next empty =>
    refine Prod.ext ?_ (ext ?_ rfl rfl)
    · simp only [Option.elim_none, drain, toList, empty, List.map_nil, List.take_nil]
    · simp only [Option.elim_none, drain, restrict, empty, List.drop_nil]
  · next slot rest found =>
    refine Prod.ext ?_ (ext ?_ rfl rfl)
    · simp only [Option.elim_some, drain, toList, found, List.map_cons, List.take_succ_cons,
        List.take_zero]
    · simp only [Option.elim_some, drain, restrict, found, List.drop_succ_cons, List.drop_zero]

/-- An attempt to take an element is a poll, but for what is said when there is none. -/
theorem takeWithin_eq (q : Queue E) (expired : Bool) :
    (q.takeWithin expired).map Taken.toList id = q.drain 1 := by
  rw [← poll_eq, takeWithin]
  cases q.poll with
  | none => cases (q.closed || expired) <;> rfl
  | some handed => rfl

theorem take_eq (q : Queue E) : q.take.map Taken.toList id = q.drain 1 := by
  rw [← q.takeWithin_eq false, takeWithin, take, Bool.or_false]

/-- What a drain leaves out is what it hands out. -/
theorem left_drain (q : Queue E) (limit : Nat) :
    q.left (q.drain limit).2 = q.slots.take limit := by
  refine left_eq (List.take_sublist limit q.slots) ?_
  exact (List.take_append_drop limit q.slots).symm ▸ .refl _

theorem left_removeIf (q : Queue E) (test : Test E S) (s : S) :
    (q.left (q.removeIf test s).2).map Slot.element = (q.removeIf test s).1 := by
  obtain ⟨accepted, within, parts, removed⟩ := Slot.sift_split test q.slots s
  have out : q.left (q.removeIf test s).2 = accepted := left_eq within parts
  rw [out]
  exact removed

/-- What comes back from a step is what it takes out. -/
theorem step_answer (q : Queue E) (step : QueueStep E) :
    (q.left (q.step compare step).2).map Slot.element = (q.step compare step).1 := by
  have still {came : List E} {after : Queue E} (turns : Turns (fun _ _ => True) q came [] after) :
      (q.left after).map Slot.element = [] := by rw [turns.left_eq_nil, List.map_nil]
  cases step with
  | add e => exact still (turns_add q e)
  | addAll elements => exact still (turns_addAll q elements)
  | removeIf test s => exact q.left_removeIf test s
  | changeAll change s => exact still (turns_changeAll (fun _ _ => trivial) q s)
  | sort => exact still (turns_sort compare q)
  | look view => exact still (turns_self q)

theorem transact_answer (q : Queue E) (body : List (QueueStep E)) :
    (q.goneInSteps compare body).map Slot.element = (q.transact compare body).1 := by
  induction body generalizing q with
  | nil => rfl
  | cons step rest ih => rw [goneInSteps, List.map_append, step_answer, ih, transact]

variable [DecidableEq E]

/-- A request turns a queue as it puts elements in and takes slots out. -/
theorem turns_serve (q : Queue E) (request : QueueRequest E)
    (allowed : ∀ old new, request.Alters old new → P old new) :
    Turns P q request.arrivals (q.gone compare request) (q.serve compare request).2 := by
  have still {came : List E} {after : Queue E} (turns : Turns P q came [] after) :
      Turns P q came (q.left after) after := turns.left_eq_nil.symm ▸ turns
  have drains {served : List E × Queue E} {limit : Nat} (same : served = q.drain limit) :
      Turns P q [] (q.left served.2) served.2 := by
    rw [same]
    exact turns_restrict rfl (List.drop_sublist limit q.slots)
  cases request with
  | add e => exact still (turns_add q e)
  | addAll elements => exact still (turns_addAll q elements)
  | poll => exact drains q.poll_eq
  | take => exact drains q.take_eq
  | takeWithin expired => exact drains (q.takeWithin_eq expired)
  | drain limit => exact drains rfl
  | drainAll => exact drains rfl
  | remove e => exact turns_restrict rfl (Slot.dropLast_sublist q.slots e)
  | removeAll elements => exact turns_restrict rfl (Slot.sift_sublist _ q.slots ())
  | removeIf test s => exact turns_restrict rfl (Slot.sift_sublist test q.slots s)
  | retain test s => exact turns_restrict rfl (Slot.sift_sublist test.negated q.slots s)
  | update additions removals =>
    have came : (QueueRequest.updating additions removals).flatMap QueueStep.arrivals = additions := by
      simp only [QueueRequest.updating, List.flatMap_cons, List.flatMap_nil, QueueStep.arrivals,
        List.nil_append, List.append_nil]
    have turns := turns_transact compare q (QueueRequest.updating additions removals) (P := P) ?_
    · rw [came] at turns
      exact turns
    · intro step member old new alters
      simp only [QueueRequest.updating, List.mem_cons, List.not_mem_nil, or_false] at member
      obtain rfl | rfl | rfl := member <;> exact alters.elim
  | clear => exact turns_restrict rfl (List.nil_sublist q.slots)
  | sort => exact still (turns_sort compare q)
  | close => exact still (turns_of_perm rfl (by rw [List.append_nil]; exact .refl _))
  | look view => exact still (turns_self q)
  | transaction body =>
    exact turns_transact compare q body fun step member old new alters =>
      allowed old new ⟨step, member, alters⟩

/-- What a request takes out is handed over as the request's answer, unless it is discarded. -/
theorem serve_answer (q : Queue E) (request : QueueRequest E) :
    (q.handed compare request).map Slot.element = (q.serve compare request).1 := by
  have still {came : List E} {after : Queue E} (turns : Turns (fun _ _ => True) q came [] after) :
      (q.left after).map Slot.element = [] := by rw [turns.left_eq_nil, List.map_nil]
  have drains {served : List E × Queue E} {limit : Nat} (same : served = q.drain limit) :
      (q.left served.2).map Slot.element = served.1 := by
    rw [same, left_drain]
    exact List.map_take
  cases request with
  | add e => exact still (turns_add q e)
  | addAll elements => exact still (turns_addAll q elements)
  | poll => exact drains q.poll_eq
  | take => exact drains q.take_eq
  | takeWithin expired => exact drains (q.takeWithin_eq expired)
  | drain limit => exact drains rfl
  | drainAll => exact drains rfl
  | removeIf test s => exact q.left_removeIf test s
  | sort => exact still (turns_sort compare q)
  | close => exact still (turns_of_perm rfl (by rw [List.append_nil]; exact .refl _))
  | look view => exact still (turns_self q)
  | transaction body => exact q.transact_answer compare body
  | _ => rfl

omit [DecidableEq E] in
theorem turns_of_still_step (q : Queue E) {step : QueueStep E} (still : step.isStill = true) :
    Turns (fun _ _ => True) q [] [] (q.step compare step).2 := by
  cases step with
  | changeAll change s => exact turns_changeAll (fun _ _ => trivial) q s
  | sort => exact turns_sort compare q
  | look view => exact turns_self q
  | _ => contradiction

omit [DecidableEq E] in
theorem turns_of_still_body (q : Queue E) {body : List (QueueStep E)}
    (still : body.all QueueStep.isStill = true) :
    body.flatMap QueueStep.arrivals = [] ∧ q.goneInSteps compare body = [] ∧
      Turns (fun _ _ => True) q [] [] (q.transact compare body).2 := by
  induction body generalizing q with
  | nil => exact ⟨rfl, rfl, turns_self q⟩
  | cons step rest ih =>
    rw [List.all_cons, Bool.and_eq_true] at still
    obtain ⟨first, later⟩ := still
    have turns := turns_of_still_step compare q first
    obtain ⟨came, gone, rests⟩ := ih (q.step compare step).2 later
    have nothing : step.arrivals = [] := by
      cases step with
      | add e => contradiction
      | addAll elements => contradiction
      | _ => rfl
    refine ⟨?_, ?_, turns.trans rests⟩
    · rw [List.flatMap_cons, nothing, came, List.append_nil]
    · rw [goneInSteps, turns.left_eq_nil, gone, List.append_nil]

/-- Looking, changing elements in place, putting them in order and closing move no insertion. -/
theorem turns_of_still (q : Queue E) {request : QueueRequest E} (still : request.isStill = true) :
    request.arrivals = [] ∧ q.gone compare request = [] ∧
      Turns (fun _ _ => True) q [] [] (q.serve compare request).2 := by
  have leaves {after : Queue E} (turns : Turns (fun _ _ => True) q [] [] after) :
      [] = ([] : List E) ∧ q.left after = [] ∧ Turns (fun _ _ => True) q [] [] after :=
    ⟨rfl, turns.left_eq_nil, turns⟩
  cases request with
  | sort => exact leaves (turns_sort compare q)
  | close => exact leaves (turns_of_perm rfl (by rw [List.append_nil]; exact .refl _))
  | look view => exact leaves (turns_self q)
  | transaction body => exact turns_of_still_body compare q still
  | _ => contradiction

end Queue

end Vicinity

import Mathlib.Data.List.Destutter
import Vicinity.Proofs.Executor.Events

/-! # How jobs live

A job that is handed in to an executor is queued. From there it is run, to its end or to a panic, or
it is cancelled and comes back to a user. A job that a worker has taken never comes back, and one that
was refused stays as it was. What has come back is run only if it is handed in again: then it goes on
from its cancellation, since a worker that begins with a job overwrites its state, whatever that was.
-/

namespace Vicinity

variable {K R : Type} [Ord R]

namespace Executor

/-- The executor before the first event and after each event. -/
def points (x : Executor K R) : List (ExecutorEvent K R) → List (Executor K R)
  | [] => [x]
  | event :: rest => x :: (x.serve event).2.points rest

/-- The states that a job is seen in during a run, each named once for as long as it lasts. -/
def history (x : Executor K R) (events : List (ExecutorEvent K R)) (k : Nat) : List TaskState :=
  ((x.points events).filterMap fun point => point.stateOf? k).destutter (· ≠ ·)

/-- What holds of the jobs of an executor in a run of events. -/
structure Orderly (x : Executor K R) (events : List (ExecutorEvent K R)) : Prop where
  history : ∀ k,
    x.history events k <+: [.queued, .running, .completed] ∨
      x.history events k <+: [.queued, .running, .failed] ∨
      x.history events k <+: [.queued, .cancelled, .running, .completed] ∨
      x.history events k <+: [.queued, .cancelled, .running, .failed]
  /-- A job that is accepted once at most is not run after a cancellation. -/
  once : ∀ k, (x.acceptedAll events).count k ≤ 1 →
    x.history events k <+: [.queued, .running, .completed] ∨
      x.history events k <+: [.queued, .running, .failed] ∨
      x.history events k <+: [.queued, .cancelled]
  latest : ∀ k, (x.history events k).getLast? = (x.run events).stateOf? k
  at_most_once : ∀ k, (x.run events).ran.count k ≤ 1
  exactly_once : ∀ k, (x.run events).ran.count k = 1 ↔ .running ∈ x.history events k
  /-- A job that comes back from an event is cancelled, has not been run and is in the hands of a
  user; and that is how it stays for as long as it is not accepted again. -/
  returned : ∀ before event after, events = before ++ event :: after →
    ∀ k ∈ (x.run before).returned event,
      (∃ job : Job K R, job.number = k ∧
        (x.run (before ++ [event])).owned? k = some ⟨some job, .cancelled⟩) ∧
      k ∉ (x.run (before ++ [event])).ran ∧
      (k ∉ (x.run (before ++ [event])).acceptedAll after →
        (x.run events).stateOf? k = some .cancelled ∧ k ∉ (x.run events).ran)
  /-- A job that a worker holds is not cancelled and does not come back, however long the run goes
  on after that point. -/
  taken : ∀ before after, events = before ++ after → ∀ k ∈ (x.run before).held,
    (x.run events).stateOf? k ≠ some .cancelled ∧
      ∀ event, k ∉ (x.run events).returned event
  /-- A job that is refused is queued, or cancelled if it has come back before, and has not been run,
  however long the run goes on. -/
  refused : ∀ before event after, events = before ++ event :: after →
    ((x.run before).serve event).1 = .error .shutDown →
      ∀ k ∈ (x.run before).offered event,
        (x.run events).stateOf? k =
            some (if k ∈ x.returnedAll before then .cancelled else .queued) ∧
          k ∉ (x.run events).ran

variable {x : Executor K R} {accepted returned : List Nat} {k : Nat}

/-! ## Histories -/

theorem points_eq_cons (x : Executor K R) (events : List (ExecutorEvent K R)) :
    ∃ later, x.points events = x :: later := by
  cases events with
  | nil => exact ⟨[], rfl⟩
  | cons event rest => exact ⟨_, rfl⟩

/-- What is yet to be made is not seen. -/
theorem history_of_none (missing : x.stateOf? k = none) (event : ExecutorEvent K R)
    (rest : List (ExecutorEvent K R)) :
    x.history (event :: rest) k = (x.serve event).2.history rest k := by
  rw [history, points, List.filterMap_cons, missing]
  rfl

/-- A state is named again only after it has changed. -/
theorem history_of_some {state next : TaskState} (found : x.stateOf? k = some state)
    {event : ExecutorEvent K R} (later : (x.serve event).2.stateOf? k = some next)
    (rest : List (ExecutorEvent K R)) :
    x.history (event :: rest) k =
      if state ≠ next then state :: (x.serve event).2.history rest k
      else (x.serve event).2.history rest k := by
  obtain ⟨points, shape⟩ := (x.serve event).2.points_eq_cons rest
  rw [history, history, Executor.points, shape, List.filterMap_cons, List.filterMap_cons, found, later]
  dsimp only
  rw [List.destutter_cons_cons, List.destutter_cons']
  split
  · rfl
  · next same => rw [Classical.not_not.mp same]

/-- A job that is there when a run begins goes on from where it is. -/
theorem history_of_made (balanced : x.ledger.Balanced accepted returned)
    (events : List (ExecutorEvent K R)) (made : k < x.ledger.made) :
    (x.ledger.progress returned k).past ++ x.history events k =
      ((x.run events).ledger.progress (returned ++ x.returnedAll events) k).life := by
  have found := x.stateOf?_of_made made
  induction events generalizing x accepted returned with
  | nil =>
    rw [history, points, List.filterMap_cons, found, returnedAll, List.append_nil]
    rfl
  | cons event rest ih =>
    have made_later := Nat.lt_of_lt_of_le made (made_le_serve balanced event)
    have found_later := (x.serve event).2.stateOf?_of_made made_later
    have goes_on := ih (balanced_serve balanced event) made_later found_later
    rw [List.append_assoc, ← returnedAll] at goes_on
    rw [history_of_some found found_later, run_cons, ← goes_on]
    rcases balanced.moves (x.entry_serve balanced event) k with same | move
    · have state : (x.serve event).2.ledger.state k = x.ledger.state k := congrArg Progress.state same
      rw [same, state, if_neg (Classical.not_not.mpr rfl)]
    · have moved : x.ledger.state k ≠ (x.serve event).2.ledger.state k := move.ne
      rw [if_pos moved, move.past, Progress.life, List.append_assoc, List.singleton_append]
      rfl

/-- A job is queued when it is made. -/
theorem progress_of_later (balanced : x.ledger.Balanced accepted returned)
    (event : ExecutorEvent K R) (later : x.ledger.made ≤ k) :
    (x.serve event).2.ledger.progress (returned ++ x.returned event) k = ⟨.queued, false⟩ := by
  have entry := x.entry_serve balanced event
  obtain ⟨unheld, unqueued, unrun⟩ := balanced.nowhere_of_later later
  have absent : k ∉ returned := fun back =>
    Nat.not_lt.mpr later (balanced.known_of_accepted (balanced.accepted_of_returned back))
  have stays : k ∉ x.returned event := fun back => unqueued (entry.removed_of_waiting back).1
  obtain ⟨same, -, -⟩ := entry.idle unqueued (fun holds => unrun (balanced.ran_of_held holds))
    fun young => unheld (entry.new_of_hands young)
  rw [Ledger.progress, same, balanced.state_of_not_ran unrun, if_neg absent,
    decide_eq_false fun back => (List.mem_append.mp back).elim absent stays]

/-- A job that is made during a run is seen with all its states. -/
theorem history_of_later (balanced : x.ledger.Balanced accepted returned)
    (events : List (ExecutorEvent K R)) (later : x.ledger.made ≤ k) :
    x.history events k = ((x.run events).stateOf? k).elim [] fun _ =>
      ((x.run events).ledger.progress (returned ++ x.returnedAll events) k).life := by
  have missing := x.stateOf?_eq_none later
  induction events generalizing x accepted returned with
  | nil =>
    rw [history, points, List.filterMap_cons, run_nil, missing]
    rfl
  | cons event rest ih =>
    have balanced_later := balanced_serve balanced event
    rw [history_of_none missing, run_cons, returnedAll, ← List.append_assoc]
    rcases Nat.lt_or_ge k (x.serve event).2.ledger.made with made | later_still
    · have whole := history_of_made balanced_later rest made
      have made_last := Nat.lt_of_lt_of_le made (made_le_run balanced_later rest)
      rw [progress_of_later balanced event later] at whole
      rw [stateOf?_of_made _ made_last]
      exact whole
    · exact ih balanced_later later_still ((x.serve event).2.stateOf?_eq_none later_still)

/-! ## What becomes of a job -/

omit [Ord R] in
/-- Users see the jobs in their hands as they are. -/
theorem owned?_of_hands (holds : k ∈ x.ledger.hands) :
    ∃ job : Job K R, job.number = k ∧ x.owned? k = some ⟨some job, x.ledger.state k⟩ := by
  obtain ⟨⟨job, others⟩, picked⟩ := Option.ne_none_iff_exists'.mp (Job.pick?_ne_none holds)
  refine ⟨job, (Job.pick?_perm picked).2, ?_⟩
  rw [owned?, picked]
  rfl

omit [Ord R] in
theorem not_mem_ran (balanced : x.ledger.Balanced accepted returned)
    (never : (x.ledger.state k).hasRun = false) : k ∉ x.ran := by
  intro member
  have ran := (balanced.mem_ran k).mp member
  rw [never] at ran
  contradiction

/-- A job that is in the hands of a user stays as it is for as long as it is not accepted. -/
theorem idle_of_hands (balanced : x.ledger.Balanced accepted returned) (holds : k ∈ x.ledger.hands)
    {events : List (ExecutorEvent K R)} (unaccepted : k ∉ x.acceptedAll events) :
    (x.run events).stateOf? k = some (x.ledger.state k) ∧ k ∉ (x.run events).ran := by
  have unrun := balanced.not_ran_of_hands holds
  have same := idle_run balanced (balanced.not_waiting_of_hands holds)
    (balanced.not_held_of_hands holds) unaccepted
  have made := Nat.lt_of_lt_of_le (balanced.known_of_hands holds) (made_le_run balanced events)
  refine ⟨by rw [stateOf?_of_made _ made, same], not_mem_ran (balanced_run balanced events) ?_⟩
  rw [same]
  exact Bool.eq_false_iff.mpr fun ran => unrun ((balanced.mem_ran k).mpr ran)

/-- A job that was refused is gone: it is never accepted later. -/
theorem unaccepted_of_refused (balanced : x.ledger.Balanced accepted returned)
    {event : ExecutorEvent K R} {e : ExecutorError} (failed : (x.serve event).1 = .error e)
    (member : k ∈ x.offered event) (after : List (ExecutorEvent K R)) :
    k ∈ x.ledger.hands ∧ k ∉ x.acceptedAll (event :: after) := by
  have handed := x.handed event.numbers
  have holds : k ∈ x.ledger.hands := handed.mem_iff.mp (List.mem_append_left _ member)
  have left := (serve_failed failed).2
  have apart := List.disjoint_of_nodup_append (handed.nodup_iff.mpr balanced.hands_once)
  have lost : k ∉ (x.serve event).2.ledger.hands := by
    rw [left, ledger_handOver]
    exact apart member
  have made : k < (x.serve event).2.ledger.made := by
    rw [left]
    exact balanced.known_of_hands holds
  have unqueued : k ∉ (x.serve event).2.ledger.waiting := by
    rw [left]
    exact balanced.not_waiting_of_hands holds
  refine ⟨holds, ?_⟩
  rw [acceptedAll, Executor.accepted, failed, List.nil_append]
  exact gone_run (balanced_serve balanced event) made lost unqueued after

/-- A job that a worker has taken has been run ever after. -/
theorem hasRun_of_held (balanced : x.ledger.Balanced accepted returned) (member : k ∈ x.held)
    (after : List (ExecutorEvent K R)) : ((x.run after).ledger.state k).hasRun = true := by
  have running := (balanced.mem_held k).mp member
  refine hasRun_run balanced after ?_
  rw [running]
  rfl

/-- Whatever happens to a new executor, its jobs go their ways in order. -/
theorem orderly_run (pool : Nat) (events : List (ExecutorEvent K R)) :
    Orderly (new pool) events := by
  have balanced (before : List (ExecutorEvent K R)) := balanced_run (balanced_new pool) before
  simp only [List.nil_append] at balanced
  have seen (k : Nat) := history_of_later (balanced_new pool) events (Nat.zero_le k)
  simp only [List.nil_append] at seen
  constructor
  case history =>
    intro k
    rw [seen k]
    cases ((new pool).run events).stateOf? k with
    | none => exact .inl List.nil_prefix
    | some state => exact Progress.life_prefix _
  case once =>
    intro k few
    rw [seen k]
    cases ((new pool).run events).stateOf? k with
    | none => exact .inl List.nil_prefix
    | some state => exact Progress.life_prefix_of_once ((balanced events).once_of_count few)
  case latest =>
    intro k
    rw [seen k]
    cases found : ((new pool).run events).stateOf? k with
    | none => rfl
    | some state =>
      have reached := congrArg (fun state? : Option TaskState => some (state?.getD .queued)) found
      exact List.getLast?_concat.trans reached
  case at_most_once =>
    intro k
    exact List.nodup_iff_count_le_one.mp (balanced events).ran_once k
  case exactly_once =>
    intro k
    have state : ((new pool).run events).ledger.state k =
        (((new pool).run events).stateOf? k).getD .queued := rfl
    refine ((balanced events).count_ran k).trans ?_
    rw [seen k]
    cases found : ((new pool).run events).stateOf? k with
    | none =>
      rw [state, found]
      exact ⟨nofun, nofun⟩
    | some reached =>
      exact (((new pool).run events).ledger.progress _ k).running_mem_life.symm
  case returned =>
    rintro before event after rfl k member
    have next := balanced (before ++ [event])
    have back := (entry_serve _ (balanced before) event).removed_of_waiting member
    have served : ((new pool).run (before ++ [event])) =
      (((new pool).run before).serve event).2 := run_append ..
    rw [← served] at back
    obtain ⟨-, holds, cancelled⟩ := back
    have owned := owned?_of_hands holds
    rw [cancelled] at owned
    refine ⟨owned, next.not_ran_of_hands holds, fun unaccepted => ?_⟩
    have idle := idle_of_hands next holds unaccepted
    rw [cancelled, ← run_append, List.append_assoc] at idle
    exact idle
  case taken =>
    rintro before after rfl k member
    have ran := hasRun_of_held (balanced before) member after
    rw [← run_append] at ran
    constructor
    · intro cancelled
      have state : ((new pool).run (before ++ after)).ledger.state k = .cancelled :=
        congrArg (fun state? : Option TaskState => state?.getD .queued) cancelled
      rw [state] at ran
      contradiction
    · intro event back
      have waits := ((entry_serve _ (balanced _) event).removed_of_waiting back).1
      exact (balanced _).not_ran_of_waiting waits (((balanced _).mem_ran k).mpr ran)
  case refused =>
    rintro before event after rfl failed k member
    obtain ⟨holds, unaccepted⟩ := unaccepted_of_refused (balanced before) failed member after
    have idle := idle_of_hands (balanced before) holds unaccepted
    rw [(balanced before).state_of_not_ran ((balanced before).not_ran_of_hands holds),
      ← run_append] at idle
    exact idle

/-- A job that has come back is handed in again, and is run although it is cancelled. -/
theorem history_of_cancelled_again :
    let events : List (ExecutorEvent Nat Nat) :=
      [.make ⟨0, 0, .returned⟩, .execute 0,
        .executeAndCancel Job.key [] (fun _ s => (true, s)) (), .execute 0, .take 0, .finish 0]
    (new 1).returnedAll events = [0] ∧
      (new 1).history events 0 = [.queued, .cancelled, .running, .completed] ∧
      ((new 1).run events).ran = [0] := by
  decide +kernel

end Executor

end Vicinity

import Mathlib.Data.List.Dedup
import Vicinity.Proofs.Executor.Events

/-! # Accounts of an executor

Two counters of an executor follow the states of jobs: as many bodies have returned as there are jobs
completed, and as many have panicked as there are jobs failed. The other two count what passes its
door: how many times jobs were accepted, and how many times they came back. A job that comes back
is cancelled, so `cancelled` is also the number of the cancelled jobs for as long as no job comes
back twice and none is run after it has come back.
-/

namespace Vicinity

namespace Ledger

/-- How many of some jobs are in a state. -/
def tally (states : Nat → TaskState) (jobs : List Nat) (state : TaskState) : Nat :=
  jobs.countP fun k => states k = state

/-- The counters are right, as far as words can count. -/
structure Counted (l : Ledger) (accepted returned : List Nat) : Prop where
  submitted : l.submitted = .ofNat accepted.length
  completed : l.completed = .ofNat (tally l.state l.ran .completed)
  panicked : l.panicked = .ofNat (tally l.state l.ran .failed)
  cancelled : l.cancelled = .ofNat returned.length

theorem counted_empty : empty.Counted [] [] := ⟨rfl, rfl, rfl, rfl⟩

variable {l after : Ledger} {accepted returned new removed jobs : List Nat} {k : Nat}
  {states later : Nat → TaskState} {state target : TaskState}

/-! ## Counting along entries -/

theorem tally_congr (same : ∀ k ∈ jobs, later k = states k) :
    tally later jobs state = tally states jobs state := by
  refine List.countP_congr fun k member => ?_
  rw [same k member]

/-- A job that moves away from another state is counted if it comes to this one. -/
theorem tally_update (distinct : jobs.Nodup) (member : k ∈ jobs) (elsewhere : states k ≠ state) :
    tally (Function.update states k target) jobs state =
      tally states jobs state + if target = state then 1 else 0 := by
  have split := List.perm_cons_erase member
  have others : tally (Function.update states k target) (jobs.erase k) state =
      tally states (jobs.erase k) state := by
    refine tally_congr fun j other => Function.update_of_ne ?_ _ _
    rintro rfl
    exact distinct.not_mem_erase other
  rw [tally, split.countP_eq, List.countP_cons, ← tally, others, tally, tally, split.countP_eq,
    List.countP_cons]
  simp [elsewhere]

/-- A job that begins to run has not come to any other state. -/
theorem tally_start (absent : k ∉ jobs) (ended : .running ≠ state) :
    tally (Function.update states k .running) (jobs ++ [k]) state = tally states jobs state := by
  have others : tally (Function.update states k .running) jobs state = tally states jobs state := by
    refine tally_congr fun j member => Function.update_of_ne ?_ _ _
    rintro rfl
    exact absent member
  rw [tally, List.countP_append, ← tally, others, List.countP_singleton]
  simp [ended]

/-- The counters follow every entry. -/
theorem Counted.entry (counted : l.Counted accepted returned)
    (balanced : l.Balanced accepted returned) (entry : l.Entry new removed after) :
    after.Counted (accepted ++ new) (returned ++ removed) := by
  have completed : TaskState.running ≠ .completed := nofun
  have failed : TaskState.running ≠ .failed := nofun
  cases entry with
  | refresh handed parts left =>
    have unmoved : ∀ k ∈ l.ran, (if k ∈ removed then .cancelled else l.state k) = l.state k := by
      intro k ran
      have stays : k ∉ removed := fun member =>
        balanced.not_ran_of_waiting (parts.mem_iff.mp (List.mem_append_left _ member)) ran
      exact if_neg stays
    constructor
    case submitted => rw [counted.submitted, List.length_append, UInt64.ofNat_add]
    case completed => rw [counted.completed, ← tally_congr unmoved]
    case panicked => rw [counted.panicked, ← tally_congr unmoved]
    case cancelled => rw [counted.cancelled, List.length_append, UInt64.ofNat_add]
  | start first taken =>
    have unrun := balanced.not_ran_of_waiting (first ▸ List.mem_cons_self ..)
    rw [List.append_nil, List.append_nil]
    constructor
    case submitted => exact counted.submitted
    case completed => exact counted.completed.trans (congrArg _ (tally_start unrun completed).symm)
    case panicked => exact counted.panicked.trans (congrArg _ (tally_start unrun failed).symm)
    case cancelled => exact counted.cancelled
  | @finish k held outcome given =>
    have holds : k ∈ l.held := given.mem_iff.mpr (List.mem_cons_self ..)
    have running := (balanced.mem_held k).mp holds
    have moved {state : TaskState} (ended : .running ≠ state) :
        tally (Function.update l.state k (.ofOutcome outcome)) l.ran state =
          tally l.state l.ran state + if .ofOutcome outcome = state then 1 else 0 :=
      tally_update balanced.ran_once (balanced.ran_of_held holds) (running ▸ ended)
    rw [List.append_nil, List.append_nil]
    cases outcome with
    | returned =>
      constructor
      case submitted => exact counted.submitted
      case completed =>
        refine (congrArg (· + 1) counted.completed).trans ?_
        exact (UInt64.ofNat_add _ 1).symm.trans (congrArg _ (moved completed).symm)
      case panicked => exact counted.panicked.trans (congrArg _ (moved failed).symm)
      case cancelled => exact counted.cancelled
    | panicked =>
      constructor
      case submitted => exact counted.submitted
      case completed => exact counted.completed.trans (congrArg _ (moved completed).symm)
      case panicked =>
        refine (congrArg (· + 1) counted.panicked).trans ?_
        exact (UInt64.ofNat_add _ 1).symm.trans (congrArg _ (moved failed).symm)
      case cancelled => exact counted.cancelled
  | _ =>
    rw [List.append_nil, List.append_nil]
    exact ⟨counted.submitted, counted.completed, counted.panicked, counted.cancelled⟩

/-! ## What the counts say about jobs -/

section Sums

variable (balanced : l.Balanced accepted returned)
include balanced

/-- What was run is held, or has been completed, or has failed. -/
theorem Balanced.length_ran :
    l.ran.length = tally l.state l.ran .completed + tally l.state l.ran .failed + l.held.length := by
  have same : l.held.Perm (l.ran.filter fun k => l.state k = .running) := by
    refine (List.perm_ext_iff_of_nodup balanced.held_once (balanced.ran_once.filter _)).mpr fun k => ?_
    rw [List.mem_filter, decide_eq_true_iff, ← balanced.mem_held]
    exact ⟨fun holds => ⟨balanced.ran_of_held holds, holds⟩, And.right⟩
  rw [same.length_eq, ← List.countP_eq_length_filter]
  have begun : ∀ k ∈ l.ran, (l.state k).hasRun = true := fun k => (balanced.mem_ran k).mp
  revert begun
  generalize l.ran = jobs
  intro begun
  induction jobs with
  | nil => rfl
  | cons k rest ih =>
    obtain ⟨own, later⟩ := List.forall_mem_cons.mp begun
    have sum := ih later
    simp only [tally, List.length_cons, List.countP_cons] at sum ⊢
    cases state : l.state k with
    | queued | cancelled =>
      rw [state] at own
      contradiction
    | running | completed | failed =>
      simp
      omega

/-- The jobs that have been completed or have failed are among those that were run, which were all
accepted. -/
theorem Balanced.tally_accepted {state : TaskState} (ran : state.hasRun = true) :
    tally l.state accepted.dedup state = tally l.state l.ran state := by
  rw [tally, tally, List.countP_eq_length_filter, List.countP_eq_length_filter]
  refine ((List.perm_ext_iff_of_nodup (accepted.nodup_dedup.filter _)
    (balanced.ran_once.filter _)).mpr fun k => ?_).length_eq
  rw [List.mem_filter, List.mem_filter, List.mem_dedup, decide_eq_true_iff]
  refine and_congr_left fun same => ⟨fun _ => ?_, balanced.accepted_of_ran⟩
  rw [balanced.mem_ran, same]
  exact ran

/-- The cancelled jobs are those that have come back and were not run. -/
theorem Balanced.tally_cancelled : tally l.state accepted.dedup .cancelled =
    (returned.dedup.filter fun k => k ∉ l.ran).length := by
  rw [tally, List.countP_eq_length_filter]
  refine ((List.perm_ext_iff_of_nodup (accepted.nodup_dedup.filter _)
    (returned.nodup_dedup.filter _)).mpr fun k => ?_).length_eq
  rw [List.mem_filter, List.mem_filter, List.mem_dedup, List.mem_dedup, decide_eq_true_iff,
    decide_eq_true_iff, balanced.mem_cancelled]
  exact ⟨And.right, fun both => ⟨balanced.accepted_of_returned both.1, both⟩⟩

/-- No more jobs are cancelled than have come back. -/
theorem Balanced.tally_cancelled_le : tally l.state accepted.dedup .cancelled ≤ returned.length := by
  rw [balanced.tally_cancelled]
  exact Nat.le_trans (List.length_filter_le _ _) returned.dedup_sublist.length_le

/-- All that has come back is cancelled if nothing has come back twice or was run nevertheless, and
only then. -/
theorem Balanced.tally_cancelled_eq_iff : tally l.state accepted.dedup .cancelled = returned.length ↔
    returned.Nodup ∧ ∀ k ∈ returned, k ∉ l.ran := by
  rw [balanced.tally_cancelled]
  constructor
  case mp =>
    intro same
    have filtered := List.length_filter_le (fun k => k ∉ l.ran) returned.dedup
    have deduped := returned.dedup_sublist.length_le
    have whole : (returned.dedup.filter fun k => k ∉ l.ran).length = returned.dedup.length :=
      Nat.le_antisymm filtered (same ▸ deduped)
    have once := returned.dedup_sublist.eq_of_length (whole.symm.trans same)
    have unrun := List.length_filter_eq_length_iff.mp whole
    refine ⟨once ▸ returned.nodup_dedup, fun k member => ?_⟩
    exact of_decide_eq_true (unrun k (List.mem_dedup.mpr member))
  case mpr =>
    rintro ⟨once, unrun⟩
    rw [once.dedup, List.length_filter_eq_length_iff]
    exact fun k member => decide_eq_true (unrun k member)

/-- If no job is accepted twice, none comes back twice and none that has come back is run. -/
theorem Balanced.back_once (once : accepted.Nodup) :
    returned.Nodup ∧ ∀ k ∈ returned, k ∉ l.ran := by
  have counts (k : Nat) : returned.count k + l.waiting.count k + l.ran.count k ≤ 1 := by
    rw [← balanced.ways]
    exact List.nodup_iff_count_le_one.mp once k
  refine ⟨List.nodup_iff_count_le_one.mpr fun k => ?_, fun k back ran => ?_⟩
  · have count := counts k
    omega
  · have count := counts k
    have first := List.count_pos_iff.mpr back
    have second := List.count_pos_iff.mpr ran
    omega

end Sums

end Ledger

namespace Executor

variable {K R : Type}

/-- How many of some jobs of an executor are in a state. -/
def tally (x : Executor K R) (jobs : List Nat) (state : TaskState) : Nat :=
  jobs.countP fun k => x.stateOf? k = some state

/-- The accounts of an executor by what it has accepted and what has come back, each job as often as
that. -/
structure Accounts (x : Executor K R) (accepted returned : List Nat) : Prop where
  submitted : x.submitted.toNat = accepted.length
  completed : x.completed.toNat = x.tally accepted.dedup .completed
  panicked : x.panicked.toNat = x.tally accepted.dedup .failed
  cancelled : x.cancelled.toNat = returned.length
  cancelled_ge : x.tally accepted.dedup .cancelled ≤ x.cancelled.toNat
  cancelled_eq_iff : x.tally accepted.dedup .cancelled = x.cancelled.toNat ↔
    returned.Nodup ∧ ∀ k ∈ returned, k ∉ x.ran
  cancelled_once : accepted.Nodup → x.cancelled.toNat = x.tally accepted .cancelled
  balance : x.submitted.toNat =
    x.completed.toNat + x.panicked.toNat + x.cancelled.toNat + x.queued + x.held.length
  room : x.held.length ≤ x.poolSize

theorem poolSize_moveAll (x : Executor K R) (state : TaskState) (jobs : List (Job K R)) :
    (x.moveAll state jobs).poolSize = x.poolSize := by
  rw [moveAll_eq]
  rfl

theorem poolSize_takeJob (x : Executor K R) (w : Nat) : (x.takeJob w).poolSize = x.poolSize := by
  rw [takeJob]
  split
  · split
    · exact List.length_set
    · exact List.length_set
    · rfl
  · rfl

theorem poolSize_finishJob (x : Executor K R) (w : Nat) : (x.finishJob w).poolSize = x.poolSize := by
  rw [finishJob]
  split
  · dsimp only
    split <;> exact List.length_set
  · rfl

theorem held_le_poolSize (x : Executor K R) : x.held.length ≤ x.poolSize :=
  List.length_filterMap_le _ _

variable [Ord R]

/-- Workers come and go with no event. -/
theorem poolSize_serve (x : Executor K R) (event : ExecutorEvent K R) :
    (x.serve event).2.poolSize = x.poolSize := by
  cases event with
  | make order => rfl
  | execute number =>
    rcases x.serve_execute_cases number with ⟨-, served⟩ | ⟨-, served⟩ | ⟨job, -, -, served⟩ <;>
      rw [served] <;> rfl
  | executeAndCancel ranker numbers test s =>
    cases stopped : x.stopped with
    | true =>
      rw [serve_executeAndCancel_stopped stopped]
      rfl
    | false =>
      rw [serve_executeAndCancel_running stopped]
      exact (x.handOver numbers).2.poolSize_moveAll .cancelled _
  | shutdown => rfl
  | shutdownNow => exact x.shutdown.poolSize_moveAll .cancelled _
  | take worker => exact x.poolSize_takeJob worker
  | finish worker => exact x.poolSize_finishJob worker

theorem poolSize_run (x : Executor K R) (events : List (ExecutorEvent K R)) :
    (x.run events).poolSize = x.poolSize := by
  induction events generalizing x with
  | nil => rfl
  | cons event rest ih => exact (ih _).trans (x.poolSize_serve event)

theorem counted_run {x : Executor K R} {accepted returned : List Nat}
    (balanced : x.ledger.Balanced accepted returned)
    (counted : x.ledger.Counted accepted returned) (events : List (ExecutorEvent K R)) :
    (x.run events).ledger.Counted (accepted ++ x.acceptedAll events)
      (returned ++ x.returnedAll events) := by
  induction events generalizing x accepted returned with
  | nil =>
    rw [acceptedAll, returnedAll, List.append_nil, List.append_nil]
    exact counted
  | cons event rest ih =>
    have later := ih (balanced_serve balanced event)
      (counted.entry balanced (x.entry_serve balanced event))
    rw [List.append_assoc, List.append_assoc] at later
    exact later

omit [Ord R] in
/-- The books of a ledger are the accounts of its executor, as long as the words do not overflow. -/
theorem accounts_of_ledger {x : Executor K R} {accepted returned : List Nat}
    (balanced : x.ledger.Balanced accepted returned) (counted : x.ledger.Counted accepted returned)
    (bound : accepted.length < UInt64.size) : x.Accounts accepted returned := by
  have tallies (state : TaskState) : x.tally accepted.dedup state =
      Ledger.tally x.ledger.state accepted.dedup state := by
    refine List.countP_congr fun k member => ?_
    have made := balanced.known_of_accepted (List.mem_dedup.mp member)
    rw [decide_eq_true_iff, decide_eq_true_iff, x.stateOf?_of_made made, Option.some.injEq]
  have whole := balanced.accepted_perm.length_eq
  rw [List.length_append, List.length_append] at whole
  have begun := balanced.length_ran
  have submitted : x.submitted.toNat = accepted.length := by
    rw [show x.submitted = _ from counted.submitted, UInt64.toNat_ofNat_of_lt' bound]
  have completed : x.completed.toNat = Ledger.tally x.ledger.state x.ledger.ran .completed := by
    rw [show x.completed = _ from counted.completed, UInt64.toNat_ofNat_of_lt' (by omega)]
  have panicked : x.panicked.toNat = Ledger.tally x.ledger.state x.ledger.ran .failed := by
    rw [show x.panicked = _ from counted.panicked, UInt64.toNat_ofNat_of_lt' (by omega)]
  have cancelled : x.cancelled.toNat = returned.length := by
    rw [show x.cancelled = _ from counted.cancelled, UInt64.toNat_ofNat_of_lt' (by omega)]
  have waiting : x.ledger.waiting.length = x.queued :=
    (List.length_map _).trans x.queue.length_toList
  have held : x.ledger.held.length = x.held.length := rfl
  constructor
  case submitted => exact submitted
  case completed => rw [tallies, completed, balanced.tally_accepted rfl]
  case panicked => rw [tallies, panicked, balanced.tally_accepted rfl]
  case cancelled => exact cancelled
  case cancelled_ge =>
    rw [tallies, cancelled]
    exact balanced.tally_cancelled_le
  case cancelled_eq_iff =>
    rw [tallies, cancelled]
    exact balanced.tally_cancelled_eq_iff
  case cancelled_once =>
    intro once
    have all := balanced.tally_cancelled_eq_iff.mpr (balanced.back_once once)
    rw [cancelled, ← all, ← tallies, once.dedup]
  case balance => omega
  case room => exact x.held_le_poolSize

/-- At every point of a run the counters add up, as long as jobs have been accepted fewer times than
words can count. -/
theorem accounts_run (pool : Nat) (events : List (ExecutorEvent K R))
    (bound : ((new pool).acceptedAll events).length < UInt64.size) :
    ((new pool).run events).Accounts ((new pool).acceptedAll events)
        ((new pool).returnedAll events) ∧
      ((new pool).run events).poolSize = pool := by
  have start : (new pool : Executor K R).ledger.Counted [] [] := by
    rw [ledger_new]
    exact Ledger.counted_empty
  have balanced := balanced_run (balanced_new pool) events
  have counted := counted_run (balanced_new pool) start events
  refine ⟨accounts_of_ledger balanced counted bound, ?_⟩
  exact (poolSize_run _ events).trans List.length_replicate

/-- Of six jobs one has returned, one has panicked and one is held. A fourth has been cancelled by a
test that remembers what it was shown, and was handed in again, so three wait. -/
theorem accounts_run_mixed :
    let make (key : Nat) (body : Outcome) : ExecutorEvent Nat Nat := .make ⟨key, 0, body⟩
    let events : List (ExecutorEvent Nat Nat) :=
      [make 0 .returned, make 1 .panicked, make 2 .returned, make 3 .returned, make 4 .returned,
        make 5 .returned, .execute 0, .take 0, .execute 1, .take 1, .finish 0, .finish 1,
        .execute 2, .take 1, .execute 3, .execute 4,
        .executeAndCancel Job.key [5] (fun _ shown => (shown, true)) false, .execute 3]
    let x := (new 2).run events
    ((new 2).acceptedAll events).length < UInt64.size ∧
      x.Accounts ((new 2).acceptedAll events) ((new 2).returnedAll events) ∧
      (x.submitted, x.completed, x.panicked, x.cancelled, x.held) = (7, 1, 1, 1, [2]) ∧
      x.queued = 3 := by
  intro make events x
  have few : ((new 2).acceptedAll events).length < UInt64.size := by decide +kernel
  have accounts : x.Accounts _ _ := (accounts_run 2 events few).1
  have counted : (x.submitted, x.completed, x.panicked, x.cancelled, x.held) = (7, 1, 1, 1, [2]) := by
    decide +kernel
  refine ⟨few, accounts, counted, ?_⟩
  simp only [Prod.mk.injEq] at counted
  obtain ⟨submitted, completed, panicked, cancelled, held⟩ := counted
  have balance := accounts.balance
  rw [submitted, completed, panicked, cancelled, held] at balance
  have numbers : (7 : UInt64).toNat = 7 ∧ (1 : UInt64).toNat = 1 := by decide
  rw [numbers.1, numbers.2, List.length_singleton] at balance
  omega

/-- A job that is cancelled twice is counted twice; and one that is run after it was cancelled is
counted though no job is cancelled any longer. -/
theorem cancelled_ne_tally :
    let cancel : ExecutorEvent Nat Nat := .executeAndCancel Job.key [] (fun _ s => (true, s)) ()
    ∀ last ∈ [[cancel], [.take 0, .finish 0]],
      let events := [.make ⟨0, 0, .returned⟩, .execute 0, cancel, .execute 0] ++ last
      let x := (new 1).run events
      let accepted := (new 1).acceptedAll events
      accepted.length < UInt64.size ∧ x.cancelled.toNat ≠ x.tally accepted.dedup .cancelled := by
  intro cancel last member
  rcases List.mem_pair.mp member with rfl | rfl <;> decide +kernel

end Executor

end Vicinity

import Vicinity.Proofs.Executor.Accounting

/-! # How an executor ends

A shutdown closes the queue for good: from then on every submission is refused before anything else
is done with it, and all that happens to the refused jobs is that their users have them no longer. So
the queue only gets shorter. A worker exits when it finds the queue closed and
empty, and nothing can enter the queue after that. Once all workers have exited no job waits and none
is held, so every accepted job has ended and the counters add up.
-/

namespace Vicinity

variable {K R : Type}

namespace Queue

variable {E : Type}

theorem closed_addAll (q : Queue E) (elements : List E) : (q.addAll elements).closed = q.closed := by
  induction elements generalizing q with
  | nil => rfl
  | cons e rest ih => exact ih (q.add e)

/-- Taking neither opens nor closes a queue. -/
theorem closed_take (q : Queue E) : q.take.2.closed = q.closed := by
  rw [take, poll]
  split
  · next found =>
    split at found
    · contradiction
    · cases found
      rfl
  · rfl

/-- Only a closed and empty queue has ended. -/
theorem closed_of_take {q rest : Queue E} (ended : q.take = (.ended, rest)) :
    q.closed = true ∧ q.toList = [] := by
  rw [take, poll] at ended
  split at ended
  · cases ended
  · next found =>
    split at found
    · next nothing =>
      cases closed : q.closed with
      | true => exact ⟨rfl, congrArg (List.map Slot.element) nothing⟩
      | false =>
        rw [closed] at ended
        cases ended
    · contradiction

end Queue

/-- Whether an event shuts the executor down. -/
def ExecutorEvent.stops : ExecutorEvent K R → Bool
  | shutdown | shutdownNow => true
  | _ => false

namespace Executor

/-- An executor that is shut down and has nothing pending. -/
structure Drained (x : Executor K R) : Prop where
  stopped : x.stopped = true
  pending : x.pending = []

/-- What holds of an executor that has accepted certain jobs, before and after it is shut down. -/
structure WindsDown [Ord R] (x : Executor K R) (accepted : List Nat) : Prop where
  closed : x.queue.closed = x.stopped
  execute : x.stopped = true → ∀ job, x.execute job = (.error .shutDown, x)
  /-- Neither the ranks nor the jobs have a part in a refusal, and the test is shown nothing. -/
  executeAndCancel : x.stopped = true →
    ∀ ranker jobs {S : Type} (test : Test (Job K R) S) (s : S),
      x.executeAndCancel ranker jobs test s = (.error .shutDown, x) ∧
        x.remembered ranker test s = s
  /-- Whoever hands in jobs loses them, and nothing else changes. -/
  refused : x.stopped = true → ∀ event, x.accepted event = [] ∧
    ((x.serve event).1 = .error .shutDown → (x.serve event).2 = (x.handOver event.numbers).2)
  submitted : x.stopped = true → ∀ later, (x.run later).submitted = x.submitted
  shutdown : x.shutdown.stopped = true ∧ x.shutdown.pending = x.pending ∧
    x.shutdown.workers = x.workers ∧ x.shutdown.ledger = x.ledger
  shutdownNow : x.shutdownNow.1 = x.pending ∧ x.shutdownNow.2.Drained ∧
    x.shutdownNow.2.workers = x.workers ∧
    x.shutdownNow.2.ledger =
      { x.ledger with
        state := fun k => if k ∈ x.ledger.waiting then .cancelled else x.ledger.state k
        waiting := []
        cancelled := x.cancelled + .ofNat x.pending.length }
  /-- A worker that exits has found the queue closed and empty. -/
  exits : ∀ event w, (x.serve event).2.workers[w]? = some .exited →
    x.workers[w]? = some .exited ∨ event = .take w ∧ x.queue.closed = true ∧ x.Drained
  /-- When all workers have exited, all jobs have ended. -/
  ended : 0 < x.poolSize → (∀ worker ∈ x.workers, worker = .exited) →
    x.Drained ∧
    (∀ k ∈ accepted, ∃ state, x.stateOf? k = some state ∧ state.isTerminal = true) ∧
    x.submitted = x.completed + x.panicked + x.cancelled

/-! ## One event -/

/-- What an event may do to an executor on its way to the end. -/
structure Tapers (x : Executor K R) (event : ExecutorEvent K R) (after : Executor K R) : Prop where
  stopped : after.stopped = (x.stopped || event.stops)
  closed : x.queue.closed = x.stopped → after.queue.closed = after.stopped
  shrinks : x.stopped = true → after.pending <:+ x.pending
  exits : ∀ w, after.workers[w]? = some .exited →
    x.workers[w]? = some .exited ∨ event = .take w ∧ x.queue.closed = true ∧ x.pending = []

variable {x after : Executor K R} {event : ExecutorEvent K R}

/-- New jobs enter a queue that is open, and no worker exits meanwhile. -/
theorem tapers_of_submitted (silent : event.stops = false) (stopped : after.stopped = x.stopped)
    (closed : after.queue.closed = x.queue.closed) (workers : after.workers = x.workers)
    (shrinks : x.stopped = true → after.pending <:+ x.pending) : Tapers x event after := by
  constructor
  case stopped => rw [silent, Bool.or_false, stopped]
  case closed => rw [closed, stopped]; exact id
  case shrinks => exact shrinks
  case exits =>
    intro w exited
    rw [workers] at exited
    exact .inl exited

theorem tapers_shutdown (x : Executor K R) : Tapers x .shutdown x.shutdown := by
  constructor
  case stopped => exact (Bool.or_true _).symm
  case closed => exact fun _ => rfl
  case shrinks => exact fun _ => List.suffix_refl _
  case exits => exact fun w => .inl

theorem tapers_shutdownNow (x : Executor K R) (jobs : List (Job K R)) :
    Tapers x .shutdownNow (x.shutdownNow.2.giveBack jobs) := by
  rw [shutdownNow, giveBack]
  dsimp only
  rw [moveAll_eq]
  constructor
  case stopped => exact (Bool.or_true _).symm
  case closed => exact fun _ => rfl
  case shrinks =>
    intro _
    rw [pending, Queue.toList_drainAll]
    exact List.nil_suffix
  case exits => exact fun w => .inl

/-- Another worker is what it was before a worker changed; that worker is what it became. -/
theorem exited_of_set {workers : List (Worker K R)} {w v : Nat} {new : Worker K R}
    (exited : (workers.set w new)[v]? = some .exited) :
    workers[v]? = some .exited ∨ v = w ∧ new = .exited := by
  rw [List.getElem?_set] at exited
  split at exited
  · next same =>
    split at exited
    · exact .inr ⟨same.symm, Option.some.inj exited⟩
    · contradiction
  · exact .inl exited

theorem tapers_takeJob (x : Executor K R) (worker : Nat) :
    Tapers x (.take worker) (x.takeJob worker) := by
  have same : Tapers x (.take worker) x :=
    tapers_of_submitted rfl rfl rfl rfl fun _ => List.suffix_refl _
  rw [takeJob]
  split
  · split
    · next job rest taken =>
      have closed := x.queue.closed_take
      have front := Queue.toList_of_take taken
      rw [taken] at closed
      constructor
      case stopped => exact (Bool.or_false _).symm
      case closed => exact closed.trans
      case shrinks =>
        intro _
        rw [pending, pending, front]
        exact List.suffix_cons job _
      case exits =>
        intro w exited
        rcases exited_of_set exited with before | ⟨-, holding⟩
        · exact .inl before
        · contradiction
    · next rest ended =>
      constructor
      case stopped => exact (Bool.or_false _).symm
      case closed => exact id
      case shrinks => exact fun _ => List.suffix_refl _
      case exits =>
        intro w exited
        rcases exited_of_set exited with before | ⟨rfl, -⟩
        · exact .inl before
        · exact .inr ⟨rfl, Queue.closed_of_take ended⟩
    · exact same
  · exact same

theorem tapers_finishJob (x : Executor K R) (worker : Nat) :
    Tapers x (.finish worker) (x.finishJob worker) := by
  have given (after : Executor K R) (stopped : after.stopped = x.stopped)
      (queue : after.queue = x.queue) (workers : after.workers = x.workers.set worker .idle) :
      Tapers x (.finish worker) after := by
    constructor
    case stopped => exact stopped.trans (Bool.or_false _).symm
    case closed => rw [queue, stopped]; exact id
    case shrinks => rw [pending, queue]; exact fun _ => List.suffix_refl _
    case exits =>
      intro w exited
      rw [workers] at exited
      rcases exited_of_set exited with before | ⟨-, idle⟩
      · exact .inl before
      · contradiction
  rw [finishJob]
  split
  · dsimp only
    split
    · exact given _ rfl rfl rfl
    · exact given _ rfl rfl rfl
  · exact tapers_of_submitted rfl rfl rfl rfl fun _ => List.suffix_refl _

variable [Ord R]

theorem tapers_execute (x : Executor K R) (number : Nat) :
    Tapers x (.execute number) (x.serve (.execute number)).2 := by
  rcases x.serve_execute_cases number with ⟨-, served⟩ | ⟨-, served⟩ | ⟨job, running, -, served⟩
  · rw [served]
    exact tapers_of_submitted rfl rfl rfl rfl fun _ => List.suffix_refl _
  · rw [served]
    exact tapers_of_submitted rfl rfl rfl rfl fun _ => List.suffix_refl _
  · rw [served]
    refine tapers_of_submitted rfl rfl rfl rfl fun stopped => ?_
    rw [running] at stopped
    contradiction

theorem tapers_executeAndCancel {S : Type} (x : Executor K R) (ranker : Job K R → R)
    (numbers : List Nat) (test : Test (Job K R) S) (s : S) :
    Tapers x (.executeAndCancel ranker numbers test s)
      (x.serve (.executeAndCancel ranker numbers test s)).2 := by
  cases stopped : x.stopped with
  | true =>
    rw [serve_executeAndCancel_stopped stopped]
    exact tapers_of_submitted rfl rfl rfl rfl fun _ => List.suffix_refl _
  | false =>
    rw [serve_executeAndCancel_running stopped, exchange, moveAll_eq]
    refine tapers_of_submitted rfl rfl (Queue.closed_addAll _ _) rfl fun closed => ?_
    rw [stopped] at closed
    contradiction

theorem tapers_serve (x : Executor K R) (event : ExecutorEvent K R) :
    Tapers x event (x.serve event).2 := by
  cases event with
  | make order => exact tapers_of_submitted rfl rfl rfl rfl fun _ => List.suffix_refl _
  | execute number => exact x.tapers_execute number
  | executeAndCancel ranker numbers test s => exact x.tapers_executeAndCancel ranker numbers test s
  | shutdown => exact x.tapers_shutdown
  | shutdownNow => exact x.tapers_shutdownNow _
  | take worker => exact x.tapers_takeJob worker
  | finish worker => exact x.tapers_finishJob worker

/-! ## Runs -/

/-- Nothing starts an executor again. -/
theorem stopped_run (x : Executor K R) (events : List (ExecutorEvent K R)) :
    (x.run events).stopped = (x.stopped || events.any ExecutorEvent.stops) := by
  induction events generalizing x with
  | nil => exact (Bool.or_false _).symm
  | cons event rest ih =>
    rw [run_cons, ih, (x.tapers_serve event).stopped, List.any_cons, Bool.or_assoc]

/-- The queue is closed as soon as the executor is shut down, and not before. -/
theorem closed_run {x : Executor K R} (closed : x.queue.closed = x.stopped)
    (events : List (ExecutorEvent K R)) : (x.run events).queue.closed = (x.run events).stopped := by
  induction events generalizing x with
  | nil => exact closed
  | cons event rest ih => exact ih ((x.tapers_serve event).closed closed)

/-- Nothing comes after the end of a queue. -/
theorem Drained.serve (drained : x.Drained) (event : ExecutorEvent K R) :
    (x.serve event).2.Drained := by
  have tapers := x.tapers_serve event
  constructor
  case stopped => rw [tapers.stopped, drained.stopped, Bool.true_or]
  case pending =>
    have shrinks := tapers.shrinks drained.stopped
    rw [drained.pending] at shrinks
    exact List.suffix_nil.mp shrinks

/-- An executor with a worker that has exited is at the end of its queue. -/
theorem drained_run (closed : x.queue.closed = x.stopped)
    (drained : .exited ∈ x.workers → x.Drained) (events : List (ExecutorEvent K R))
    (exited : .exited ∈ (x.run events).workers) : (x.run events).Drained := by
  induction events generalizing x with
  | nil => exact drained exited
  | cons event rest ih =>
    have tapers := x.tapers_serve event
    refine ih (tapers.closed closed) (fun now => ?_) exited
    obtain ⟨w, found⟩ := List.mem_iff_getElem?.mp now
    rcases tapers.exits w found with before | ⟨-, ended, nothing⟩
    · exact (drained (List.mem_of_getElem? before)).serve event
    · exact Drained.serve ⟨closed.symm.trans ended, nothing⟩ event

/-- What is served by an executor that is shut down accepts nothing. -/
theorem accepted_of_stopped (stopped : x.stopped = true) (event : ExecutorEvent K R) :
    x.accepted event = [] := by
  cases event with
  | execute number =>
    rcases x.serve_execute_cases number with
      ⟨nothing, served⟩ | ⟨-, served⟩ | ⟨job, running, -, served⟩
    · rw [accepted, served]
      exact congrArg (List.map Job.number) nothing
    · rw [accepted, served]
    · rw [stopped] at running
      contradiction
  | executeAndCancel ranker numbers test s =>
    rw [accepted, serve_executeAndCancel_stopped stopped]
  | _ => rfl

theorem acceptedAll_of_stopped (stopped : x.stopped = true) (events : List (ExecutorEvent K R)) :
    x.acceptedAll events = [] := by
  induction events generalizing x with
  | nil => rfl
  | cons event rest ih =>
    have later : (x.serve event).2.stopped = true := by
      rw [(x.tapers_serve event).stopped, stopped, Bool.true_or]
    rw [acceptedAll, accepted_of_stopped stopped, ih later, List.nil_append]

/-! ## The end -/

omit [Ord R] in
/-- If no job waits and none is held, all have ended, and they are all counted. -/
theorem ended_of_idle {accepted returned : List Nat} (balanced : x.ledger.Balanced accepted returned)
    (counted : x.ledger.Counted accepted returned) (waiting : x.ledger.waiting = [])
    (held : x.ledger.held = []) :
    (∀ k ∈ accepted, ∃ state, x.stateOf? k = some state ∧ state.isTerminal = true) ∧
      x.submitted = x.completed + x.panicked + x.cancelled := by
  constructor
  · intro k member
    refine ⟨_, x.stateOf?_of_made (balanced.known_of_accepted member), ?_⟩
    by_cases ran : k ∈ x.ledger.ran
    · have given : k ∉ x.ledger.held := held ▸ List.not_mem_nil
      rcases balanced.ended_of_ran ran given with ended | ended <;>
        rw [ended] <;> rfl
    · -- Every acceptance has led to a return, since nothing waits and the job was not run.
      have ways := balanced.ways k
      rw [waiting, List.count_nil, List.count_eq_zero.mpr ran] at ways
      have back : k ∈ returned := by
        rw [← List.count_pos_iff, ← Nat.add_zero (returned.count k), ← ways]
        exact List.count_pos_iff.mpr member
      rw [balanced.state_of_not_ran ran, if_pos back]
      rfl
  · have whole := balanced.accepted_perm.length_eq
    have ran := balanced.length_ran
    rw [waiting, List.append_nil, List.length_append] at whole
    rw [held, List.length_nil, Nat.add_zero] at ran
    have submitted : x.submitted = _ := counted.submitted
    have completed : x.completed = _ := counted.completed
    have panicked : x.panicked = _ := counted.panicked
    have cancelled : x.cancelled = _ := counted.cancelled
    rw [submitted, completed, panicked, cancelled, whole, ran, ← UInt64.ofNat_add,
      ← UInt64.ofNat_add, Nat.add_comm]

/-- Whatever happens to a new executor, it winds down in order once it is shut down, and it is shut
down from the first event on that says so. -/
theorem windsDown_run (pool : Nat) (events : List (ExecutorEvent K R)) :
    ((new pool).run events).WindsDown ((new pool).acceptedAll events) ∧
      ((new pool).run events).poolSize = pool ∧
      (((new pool).run events).stopped = true ↔ ∃ event ∈ events, event.stops = true) := by
  have start : (new pool : Executor K R).ledger.Counted [] [] := by
    rw [ledger_new]
    exact Ledger.counted_empty
  have balanced := balanced_run (balanced_new pool) events
  have counted := counted_run (balanced_new pool) start events
  have closed := closed_run (x := new pool) rfl events
  have unused : .exited ∉ (new pool : Executor K R).workers := by
    intro exited
    have idle := List.eq_of_mem_replicate exited
    contradiction
  have drained := drained_run (x := new pool) rfl (fun exited => absurd exited unused) events
  refine ⟨?_, (poolSize_run _ events).trans List.length_replicate, ?_⟩
  · constructor
    case closed => exact closed
    case execute => exact fun stopped job => execute_stopped stopped job
    case executeAndCancel =>
      intro stopped ranker jobs S test s
      exact ⟨executeAndCancel_stopped stopped ranker jobs test s, if_pos stopped⟩
    case refused =>
      exact fun stopped event =>
        ⟨accepted_of_stopped stopped event, fun failed => (serve_failed failed).2⟩
    case submitted =>
      intro stopped later
      have same := (counted_run balanced counted later).submitted
      rw [acceptedAll_of_stopped stopped, List.append_nil] at same
      exact same.trans counted.submitted.symm
    case shutdown => exact ⟨rfl, rfl, rfl, rfl⟩
    case shutdownNow =>
      have tapers := tapers_shutdownNow ((new pool).run events) []
      have ledger := ledger_shutdownNow _ balanced
      refine ⟨congrArg Prod.fst (shutdownNow_eq _), ⟨?_, ?_⟩, ?_, ledger⟩
      · exact tapers.stopped.trans (Bool.or_true _)
      · exact List.map_eq_nil_iff.mp (congrArg Ledger.waiting ledger)
      · rw [shutdownNow_eq, moveAll_eq]
        rfl
    case exits =>
      intro event w exited
      rcases (tapers_serve _ event).exits w exited with before | ⟨taken, ended, nothing⟩
      · exact .inl before
      · exact .inr ⟨taken, ended, closed.symm.trans ended, nothing⟩
    case ended =>
      intro some_worker exited
      obtain ⟨worker, member⟩ := List.exists_mem_of_length_pos some_worker
      have nothing := drained (exited worker member ▸ member)
      have waiting := congrArg (List.map Job.number) nothing.pending
      have held : ((new pool).run events).held = [] := by
        rw [held, List.filterMap_eq_nil_iff]
        intro worker member
        rw [exited worker member]
        rfl
      exact ⟨nothing, ended_of_idle balanced counted waiting held⟩
  · rw [stopped_run, ← List.any_eq_true]
    rfl

/-- Two workers finish what they hold while one pending job is cancelled, another one that has come
back is refused, and so is one that is new; then both exit. -/
theorem windsDown_run_drained :
    let make (body : Outcome) : ExecutorEvent Nat Nat := .make ⟨0, 0, body⟩
    let events : List (ExecutorEvent Nat Nat) :=
      [make .returned, make .panicked, make .returned, make .returned, make .returned,
        .execute 0, .take 0, .execute 1, .take 1, .execute 2,
        .executeAndCancel Job.rank [3] (.plain fun job => job.number = 2) (), .shutdown, .finish 0,
        .shutdownNow, .execute 2, .execute 4, .take 0, .finish 1, .take 1]
    let x := (new 2).run events
    x.terminated = true ∧ x.Drained ∧ (new 2).acceptedAll events = [0, 1, 2, 3] ∧
      [0, 1, 2, 3, 4].map x.stateOf? =
        [some .completed, some .failed, some .cancelled, some .cancelled, some .queued] ∧
      x.submitted = x.completed + x.panicked + x.cancelled := by
  intro make events x
  have terminated : x.terminated = true := by decide +kernel
  have exited : ∀ worker ∈ x.workers, worker = .exited := by
    intro worker member
    exact of_decide_eq_true (List.all_eq_true.mp terminated worker member)
  obtain ⟨winds, size, -⟩ := windsDown_run 2 events
  obtain ⟨drained, -, balance⟩ := winds.ended (by rw [size]; decide) exited
  exact ⟨terminated, drained, by decide +kernel, by decide +kernel, balance⟩

end Executor

end Vicinity

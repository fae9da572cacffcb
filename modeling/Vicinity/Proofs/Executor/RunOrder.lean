import Vicinity.Proofs.Executor.Refresh
import Vicinity.Proofs.Executor.Shutdown

/-! # The order of running between refreshes

A refresh leaves the pending jobs in the order of their ranks. From there on the queue is a stack: a
job that is executed goes to the front, whatever its rank, and a worker takes the job at the front.
So what is pending is what has been executed since the refresh, the newest first, and behind that what
the refresh has left, but for the jobs that have been taken; and without new jobs the workers begin
with the jobs in the order of the refresh.

Between two refreshes no job comes back unless the executor shuts down, and then none is accepted any
more. So a job that the refresh has left is not submitted again before the next one, and its place
among the submissions is what it was.

`Lineup` notes what the last refresh left and what has been executed or has come back since. `Turnover` says what a
single event may do to the pending jobs and to a lineup; everything else follows from its cases.
-/

namespace Vicinity

variable {K R : Type}

/-- What has come to the pending jobs of an executor since they were last refreshed. -/
structure Lineup (K R : Type) where
  /-- The pending jobs as the refresh left them. -/
  sorted : List (Job K R)
  /-- The numbers of the jobs that had begun by then. -/
  begun : List Nat
  /-- The jobs that have been executed since, in the order of their submission. -/
  executed : List (Job K R)
  /-- The numbers of the jobs that have come back since. -/
  withdrawn : List Nat

/-- Before any refresh. -/
def Lineup.start : Lineup K R := ⟨[], [], [], []⟩

namespace Ledger

variable {l after : Ledger} {new removed : List Nat}

/-- If no two jobs are held at once, a job that is held is the one that has begun last. -/
theorem Entry.latest (entry : l.Entry new removed after) (single : after.held.length ≤ 1)
    (latest : ∀ k ∈ l.held, l.ran.getLast? = some k) :
    ∀ k ∈ after.held, after.ran.getLast? = some k := by
  cases entry with
  | @start j rest held first taken =>
    -- The job that begins is held from now on, so no other one is.
    have nothing : l.held = [] := by
      have counted : held.length = l.held.length + 1 := taken.length_eq
      have single : held.length ≤ 1 := single
      exact List.eq_nil_of_length_eq_zero (by omega)
    intro k member
    have own : k ∈ j :: l.held := taken.mem_iff.mp member
    rw [nothing, List.mem_singleton] at own
    rw [own]
    exact List.getLast?_concat
  | finish outcome given =>
    intro k member
    have ran : (l.recordOutcome outcome).ran = l.ran := by cases outcome <;> rfl
    change (l.recordOutcome outcome).ran.getLast? = some k
    rw [ran]
    exact latest k (given.mem_iff.mpr (List.mem_cons_of_mem _ member))
  | _ => exact latest

end Ledger

namespace Executor

variable {x after : Executor K R}

/-! ## What workers take -/

/-- A worker that is not idle takes nothing. -/
theorem takeJob_of_busy {worker : Nat} (busy : x.workers[worker]? ≠ some .idle) :
    x.takeJob worker = x := by
  rw [takeJob]
  split
  · next idle => exact absurd idle busy
  · rfl

/-- An idle worker takes the job at the front. -/
theorem takeJob_of_cons {worker : Nat} (idle : x.workers[worker]? = some .idle) {job : Job K R}
    {rest : List (Job K R)} (front : x.pending = job :: rest) :
    (x.takeJob worker).pending = rest ∧
      (x.takeJob worker).workers[worker]? = some (.holding job) ∧
      (x.takeJob worker).ran = x.ran ++ [job.number] := by
  obtain ⟨left, taken, shape⟩ := Queue.take_of_cons front
  obtain ⟨there, -⟩ := List.getElem?_eq_some_iff.mp idle
  rw [takeJob, idle, taken]
  exact ⟨shape, List.getElem?_set_self there, rfl⟩

/-- Where nothing is pending, nothing is taken. -/
theorem takeJob_of_nil (worker : Nat) (nothing : x.pending = []) :
    (x.takeJob worker).pending = [] ∧ (x.takeJob worker).ran = x.ran := by
  rw [takeJob, Queue.take_of_nil nothing]
  split
  · cases x.queue.closed <;> exact ⟨nothing, rfl⟩
  · exact ⟨nothing, rfl⟩

theorem ran_finishJob (x : Executor K R) (worker : Nat) : (x.finishJob worker).ran = x.ran := by
  rw [finishJob]
  split
  · split <;> rfl
  · rfl

variable [Ord R]

/-! ## What is known of the pending jobs -/

/-- What an event adds to a lineup. An event that fails adds nothing. -/
def follow (x : Executor K R) (event : ExecutorEvent K R) (l : Lineup K R) : Lineup K R :=
  match event, (x.serve event).1 with
  | .execute number, .ok _ => { l with executed := l.executed ++ (x.handOver [number]).1 }
  | .executeAndCancel .., .ok _ => ⟨(x.serve event).2.pending, (x.serve event).2.ran, [], []⟩
  | .shutdownNow, .ok jobs => { l with withdrawn := l.withdrawn ++ jobs.map Job.number }
  | _, _ => l

/-- What is known of the pending jobs after a run. -/
def lineup (x : Executor K R) (l : Lineup K R) : List (ExecutorEvent K R) → Lineup K R
  | [] => l
  | event :: rest => (x.serve event).2.lineup (x.follow event l) rest

/-- What an event may do to the pending jobs and to a lineup. -/
inductive Turnover (x after : Executor K R) : (Lineup K R → Lineup K R) → Prop
  | still (pending : after.pending = x.pending) (ran : after.ran = x.ran) :
    Turnover x after fun l => l
  | execute {job : Job K R} (running : x.stopped = false) (holds : job.number ∈ x.ledger.hands)
    (pending : after.pending = job :: x.pending) (ran : after.ran = x.ran) :
    Turnover x after fun l => { l with executed := l.executed ++ [job] }
  | take {job : Job K R} (front : x.pending = job :: after.pending)
    (ran : after.ran = x.ran ++ [job.number]) : Turnover x after fun l => l
  | withdraw (stopped : after.stopped = true) (pending : after.pending = [])
    (ran : after.ran = x.ran) :
    Turnover x after fun l => { l with withdrawn := l.withdrawn ++ x.pending.map Job.number }
  | refresh {mixed : Queue (Job K R)} (sorted : after.queue = mixed.sort Job.byRank) :
    Turnover x after fun _ => ⟨after.pending, after.ran, [], []⟩

/-! ## One event -/

variable {event : ExecutorEvent K R}

/-- What fails leaves the pending jobs as they are. -/
theorem turnover_failed {e : ExecutorError} (failed : (x.serve event).1 = .error e) :
    Turnover x (x.serve event).2 (x.follow event) := by
  have followed : x.follow event = fun l => l := by
    funext l
    cases event <;> simp only [follow, failed]
  rw [followed, (serve_failed failed).2]
  exact .still rfl rfl

theorem turnover_execute (x : Executor K R) (number : Nat) :
    Turnover x (x.serve (.execute number)).2 (x.follow (.execute number)) := by
  rcases x.serve_execute_cases number with
    ⟨nothing, served⟩ | ⟨-, served⟩ | ⟨job, running, single, served⟩
  · have followed : x.follow (.execute number) = fun l => l := by
      funext l
      simp only [follow, served, nothing, List.append_nil]
    rw [followed, served]
    exact .still rfl rfl
  · exact turnover_failed (congrArg Prod.fst served)
  · have followed : x.follow (.execute number) =
        fun l => { l with executed := l.executed ++ [job] } := by
      funext l
      simp only [follow, served, single]
    rw [followed, served]
    exact .execute running (offered_of_held single).2 rfl rfl

theorem turnover_executeAndCancel {S : Type} (x : Executor K R) (ranker : Job K R → R)
    (numbers : List Nat) (test : Test (Job K R) S) (s : S) :
    let event : ExecutorEvent K R := .executeAndCancel ranker numbers test s
    Turnover x (x.serve event).2 (x.follow event) := by
  intro event
  cases stopped : x.stopped with
  | true =>
    exact turnover_failed
      (congrArg Prod.fst (serve_executeAndCancel_stopped stopped ranker numbers test s))
  | false =>
    have served : x.serve event = _ :=
      serve_executeAndCancel_running stopped ranker numbers test s
    have followed : x.follow event =
        fun _ => ⟨(x.serve event).2.pending, (x.serve event).2.ran, [], []⟩ := by
      funext l
      simp only [follow, served, event]
    rw [followed]
    exact .refresh (congrArg (fun result => result.2.queue) served)

theorem turnover_take (x : Executor K R) (worker : Nat) :
    Turnover x (x.takeJob worker) fun l => l := by
  by_cases idle : x.workers[worker]? = some .idle
  · cases front : x.pending with
    | nil =>
      obtain ⟨pending, ran⟩ := takeJob_of_nil worker front
      exact .still (pending.trans front.symm) ran
    | cons job rest =>
      obtain ⟨pending, -, ran⟩ := takeJob_of_cons idle front
      exact .take (front.trans (congrArg (job :: ·) pending.symm)) ran
  · rw [takeJob_of_busy idle]
    exact .still rfl rfl

theorem turnover_shutdownNow (x : Executor K R) :
    Turnover x (x.serve .shutdownNow).2 (x.follow .shutdownNow) := by
  have first : x.shutdownNow.1 = x.pending := congrArg Prod.fst x.shutdownNow_eq
  have stopped : (x.serve .shutdownNow).2.stopped = true :=
    (x.tapers_serve .shutdownNow).stopped.trans (Bool.or_true _)
  have emptied : (x.serve .shutdownNow).2.pending = [] := x.shutdown.queue.toList_drainAll
  have ran : (x.serve .shutdownNow).2.ran = x.ran := by
    rw [serve, shutdownNow_eq, giveBack, moveAll_eq]
    rfl
  have followed : x.follow .shutdownNow =
      fun l => { l with withdrawn := l.withdrawn ++ x.pending.map Job.number } := by
    funext l
    simp only [follow, serve, first]
  rw [followed]
  exact .withdraw stopped emptied ran

/-- Every event is one of the five. -/
theorem turnover_serve (x : Executor K R) (event : ExecutorEvent K R) :
    Turnover x (x.serve event).2 (x.follow event) := by
  cases event with
  | make order => exact .still rfl rfl
  | execute number => exact x.turnover_execute number
  | executeAndCancel ranker numbers test s => exact x.turnover_executeAndCancel ranker numbers test s
  | shutdown => exact .still rfl rfl
  | shutdownNow => exact x.turnover_shutdownNow
  | take worker => exact x.turnover_take worker
  | finish worker =>
    exact .still (congrArg Queue.toList (x.queue_finishJob worker)) (x.ran_finishJob worker)

/-! ## A single worker -/

/-- A worker that is alone holds the job that has begun last. -/
theorem latest_run {accepted returned : List Nat}
    (balanced : x.ledger.Balanced accepted returned) (alone : x.poolSize ≤ 1)
    (latest : ∀ k ∈ x.held, x.ran.getLast? = some k) (events : List (ExecutorEvent K R)) :
    ∀ k ∈ (x.run events).held, (x.run events).ran.getLast? = some k := by
  induction events generalizing x accepted returned with
  | nil => exact latest
  | cons event rest ih =>
    have workers := x.poolSize_serve event
    have single : (x.serve event).2.held.length ≤ 1 :=
      ((x.serve event).2.held_le_poolSize).trans (workers.trans_le alone)
    exact ih (balanced_serve balanced event) (workers.trans_le alone)
      ((x.entry_serve balanced event).latest single latest)

omit [Ord R] in
/-- All jobs that have begun before the last one have ended if only that one can be held. -/
theorem terminal_of_dropLast {accepted returned : List Nat}
    (balanced : x.ledger.Balanced accepted returned)
    (latest : ∀ k ∈ x.held, x.ran.getLast? = some k) {k : Nat} (before : k ∈ x.ran.dropLast) :
    ∃ state, x.stateOf? k = some state ∧ state.isTerminal = true := by
  have ran : k ∈ x.ledger.ran := List.dropLast_subset _ before
  have given : k ∉ x.ledger.held := by
    intro holds
    obtain ⟨others, whole⟩ := List.getLast?_eq_some_iff.mp (latest k holds)
    have once := balanced.ran_once
    rw [show x.ledger.ran = _ from whole] at once
    rw [whole, List.dropLast_concat] at before
    exact List.disjoint_of_nodup_append once before (List.mem_singleton_self k)
  refine ⟨_, x.stateOf?_of_made (balanced.known_of_accepted (balanced.accepted_of_ran ran)), ?_⟩
  rcases balanced.ended_of_ran ran given with ended | ended <;>
    rw [ended] <;> rfl

/-! ## The pending jobs and the lineup -/

/-- How a lineup tells the pending jobs of an executor that has accepted certain jobs, of which some
have come back. -/
structure Lined (x : Executor K R) (l : Lineup K R) (accepted returned : List Nat) : Prop where
  balanced : x.ledger.Balanced accepted returned
  dated : x.queue.Dated accepted
  withdrawn : x.stopped = false → l.withdrawn = []
  pending : x.pending =
    (l.executed.reverse ++ l.sorted).filter fun job => job.number ∉ x.ran ++ l.withdrawn
  sorted : l.sorted.Pairwise (Job.Precedes accepted)
  /-- As long as nothing has been executed, the jobs have been begun in the order of the refresh. -/
  begins : l.executed = [] → ∃ first rest, l.sorted = first ++ rest ∧
    x.ran = l.begun ++ first.map Job.number ∧ (x.pending = rest ∨ x.pending = [])

variable {l : Lineup K R} {accepted returned later back : List Nat} {follow : Lineup K R → Lineup K R}

/-- Nothing comes back between two refreshes unless the executor is shut down. -/
theorem Lined.withdrawn_turn (lined : x.Lined l accepted returned) (turnover : x.Turnover after follow)
    (running : x.stopped = true → after.stopped = true) :
    after.stopped = false → (follow l).withdrawn = [] := by
  intro open_
  have before : x.stopped = false := Bool.eq_false_iff.mpr fun stopped => by
    rw [running stopped] at open_
    contradiction
  cases turnover with
  | withdraw stopped =>
    rw [stopped] at open_
    contradiction
  | refresh => rfl
  | _ => exact lined.withdrawn before

omit [Ord R] in
/-- What is left when further jobs have gone is left of what was left before. -/
theorem filter_gone {jobs : List (Job K R)} {gone more all : List Nat}
    (whole : ∀ k, k ∈ all ↔ k ∈ gone ∨ k ∈ more) :
    (jobs.filter fun job => job.number ∉ all) =
      (jobs.filter fun job => job.number ∉ gone).filter fun job => job.number ∉ more := by
  rw [List.filter_filter]
  refine List.filter_congr fun job _ => ?_
  simp [whole, Bool.and_comm]

/-- After an event the lineup still tells what is pending. -/
theorem Lined.pending_turn (lined : x.Lined l accepted returned) (turnover : x.Turnover after follow)
    (balanced : after.ledger.Balanced later back) :
    after.pending = ((follow l).executed.reverse ++ (follow l).sorted).filter fun job =>
      job.number ∉ after.ran ++ (follow l).withdrawn := by
  have once := lined.balanced.waits_once
  cases turnover with
  | still pending ran => rw [pending, ran, lined.pending]
  | @execute job running holds pending ran =>
    have stays : job.number ∉ x.ran ++ l.withdrawn := by
      rw [lined.withdrawn running, List.append_nil]
      exact lined.balanced.not_ran_of_hands holds
    rw [pending, ran, List.reverse_concat, List.cons_append, List.filter_cons,
      if_pos (decide_eq_true stays), lined.pending]
  | @take job front ran =>
    have whole (k : Nat) : k ∈ after.ran ++ l.withdrawn ↔
        k ∈ x.ran ++ l.withdrawn ∨ k ∈ [job.number] := by
      simp only [ran, List.mem_append]
      tauto
    -- No other pending job has the number of the one that is taken.
    have others : ∀ other ∈ after.pending, other.number ∉ [job.number] := by
      have distinct : (x.pending.map Job.number).Nodup := once
      rw [front, List.map_cons] at distinct
      intro other member same
      rw [List.mem_singleton] at same
      exact (List.nodup_cons.mp distinct).1 (same ▸ List.mem_map_of_mem member)
    rw [filter_gone whole, ← lined.pending, front, List.filter_cons_of_neg (by simp)]
    exact (List.filter_eq_self.mpr fun other member => decide_eq_true (others other member)).symm
  | withdraw stopped pending ran =>
    have whole (k : Nat) : k ∈ after.ran ++ (l.withdrawn ++ x.pending.map Job.number) ↔
        k ∈ x.ran ++ l.withdrawn ∨ k ∈ x.pending.map Job.number := by
      rw [ran, ← List.append_assoc, List.mem_append]
    rw [filter_gone whole, ← lined.pending, pending, eq_comm, List.filter_eq_nil_iff]
    intro job member
    simpa using List.mem_map_of_mem (f := Job.number) member
  | refresh sorted =>
    have stays : ∀ job ∈ after.pending, job.number ∉ after.ran ++ [] := by
      intro job member
      rw [List.append_nil]
      exact balanced.not_ran_of_waiting (List.mem_map_of_mem member)
    exact (List.filter_eq_self.mpr fun job member => decide_eq_true (stays job member)).symm

/-- Without new jobs, a job that is taken is the next in the order of the refresh. -/
theorem Lined.begins_turn (lined : x.Lined l accepted returned)
    (turnover : x.Turnover after follow) (waiting : (follow l).executed = []) :
    ∃ first rest, (follow l).sorted = first ++ rest ∧
      after.ran = (follow l).begun ++ first.map Job.number ∧
      (after.pending = rest ∨ after.pending = []) := by
  cases turnover with
  | still pending ran =>
    rw [pending, ran]
    exact lined.begins waiting
  | execute running holds pending ran => exact absurd waiting (List.append_ne_nil_of_right_ne_nil _ nofun)
  | @take job front ran =>
    obtain ⟨first, rest, order, begun, left⟩ := lined.begins waiting
    have next : job :: after.pending = rest := by
      rcases left with same | nothing
      · exact front.symm.trans same
      · rw [front] at nothing
        contradiction
    refine ⟨first ++ [job], after.pending, ?_, ?_, .inl rfl⟩
    · rw [order, ← next, List.append_assoc, List.singleton_append]
    · rw [ran, begun, List.map_append, List.append_assoc, List.map_singleton]
  | withdraw stopped pending ran =>
    obtain ⟨first, rest, order, begun, -⟩ := lined.begins waiting
    exact ⟨first, rest, order, ran.trans begun, .inr pending⟩
  | refresh sorted => exact ⟨[], after.pending, rfl, (List.append_nil _).symm, .inl rfl⟩

/-- A job that the last refresh has left is not accepted before the next one. -/
theorem Lined.unaccepted (lined : x.Lined l accepted returned) (event : ExecutorEvent K R) :
    ∀ job ∈ l.sorted, job.number ∉ x.accepted event := by
  intro job member young
  have holds := (x.entry_serve lined.balanced event).new_of_hands young
  have running : x.stopped = false := Bool.eq_false_iff.mpr fun stopped => by
    rw [accepted_of_stopped stopped] at young
    contradiction
  by_cases gone : job.number ∈ x.ran ++ l.withdrawn
  · rw [lined.withdrawn running, List.append_nil] at gone
    exact lined.balanced.not_ran_of_hands holds gone
  · have waits : job ∈ x.pending := by
      rw [lined.pending, List.mem_filter]
      exact ⟨List.mem_append_right _ member, decide_eq_true gone⟩
    exact lined.balanced.not_waiting_of_hands holds (List.mem_map_of_mem waits)

/-- Further submissions put the last one of another job equally farther from the end. -/
theorem idxOf_reverse_append {new : List Nat} {k : Nat} (absent : k ∉ new) :
    (accepted ++ new).reverse.idxOf k = accepted.reverse.idxOf k + new.length := by
  rw [List.reverse_append, List.idxOf_append_of_notMem fun there => absent (List.mem_reverse.mp there),
    List.length_reverse, Nat.add_comm]

variable [Std.TransOrd R]

/-- What a refresh leaves is in order, and stays so while further jobs are accepted. -/
theorem Lined.sorted_turn (lined : x.Lined l accepted returned) (turnover : x.Turnover after follow)
    {new : List Nat} (unaccepted : ∀ job ∈ l.sorted, job.number ∉ new)
    (dated : after.queue.Dated (accepted ++ new)) :
    (follow l).sorted.Pairwise (Job.Precedes (accepted ++ new)) := by
  cases turnover with
  | refresh sorted =>
    rw [sorted] at dated
    have ordered := dated.pairwise_sort
    rw [← sorted] at ordered
    exact ordered
  | _ =>
    refine lined.sorted.imp_of_mem fun {front later} first second before => ?_
    rw [Job.Precedes, idxOf_reverse_append (unaccepted front first),
      idxOf_reverse_append (unaccepted later second), Nat.add_lt_add_iff_right]
    exact before

/-- One event. -/
theorem Lined.serve (lined : x.Lined l accepted returned) (event : ExecutorEvent K R) :
    (x.serve event).2.Lined (x.follow event l) (accepted ++ x.accepted event)
      (returned ++ x.returned event) := by
  have balanced := balanced_serve lined.balanced event
  have dated := dated_serve lined.balanced lined.dated event
  have turnover := x.turnover_serve event
  have stays : x.stopped = true → (x.serve event).2.stopped = true := by
    intro stopped
    rw [(x.tapers_serve event).stopped, stopped, Bool.true_or]
  exact ⟨balanced, dated, lined.withdrawn_turn turnover stays, lined.pending_turn turnover balanced,
    lined.sorted_turn turnover (lined.unaccepted event) dated, lined.begins_turn turnover⟩

theorem Lined.run (lined : x.Lined l accepted returned) (events : List (ExecutorEvent K R)) :
    (x.run events).Lined (x.lineup l events) (accepted ++ x.acceptedAll events)
      (returned ++ x.returnedAll events) := by
  induction events generalizing x l accepted returned with
  | nil =>
    rw [acceptedAll, returnedAll, List.append_nil, List.append_nil]
    exact lined
  | cons event rest ih =>
    have later := ih (lined.serve event)
    rw [List.append_assoc, List.append_assoc] at later
    exact later

omit [Std.TransOrd R] in
theorem lined_new (pool : Nat) : (new pool : Executor K R).Lined .start [] [] := by
  constructor
  case balanced => exact balanced_new pool
  case dated => exact Queue.dated_empty
  case withdrawn => exact fun _ => rfl
  case pending => rfl
  case sorted => exact .nil
  case begins => exact fun _ => ⟨[], [], rfl, rfl, .inl rfl⟩

/-! ## The order of running -/

/-- How the pending jobs of an executor are arranged and in which order they are run. `history` has
the numbers of all submissions. -/
structure KeepsOrder (x : Executor K R) (l : Lineup K R) (history : List Nat) : Prop where
  /-- What has been executed since the refresh comes first, the newest in front, then what the refresh
  has left; what has begun or has come back since is missing. -/
  pending : x.pending =
    (l.executed.reverse ++ l.sorted).filter fun job => job.number ∉ x.ran ++ l.withdrawn
  /-- What the refresh has left is in the order of the ranks, ties in the order of submission. -/
  sorted : l.sorted.Pairwise (Job.Precedes history)
  takes : ∀ worker job rest, x.workers[worker]? = some .idle → x.pending = job :: rest →
    (x.takeJob worker).pending = rest ∧
      (x.takeJob worker).workers[worker]? = some (.holding job) ∧
      (x.takeJob worker).ran = x.ran ++ [job.number]
  /-- A worker that is not idle, or for which there is nothing, takes nothing. -/
  waits : ∀ worker, x.workers[worker]? ≠ some .idle ∨ x.pending = [] →
    (x.takeJob worker).pending = x.pending ∧ (x.takeJob worker).ran = x.ran
  shutdownNow : x.shutdownNow.1 = x.pending ∧ x.shutdownNow.2.pending = []
  /-- If nothing has been executed since the refresh, what has begun since is the first of what the
  refresh has left, in its order, and what is pending is the rest, unless it has come back. -/
  begins : l.executed = [] → ∃ first rest, l.sorted = first ++ rest ∧
    x.ran = l.begun ++ first.map Job.number ∧ (x.pending = rest ∨ x.pending = [])
  /-- With one worker a job begins when those before it have ended. -/
  alone : x.poolSize ≤ 1 → ∀ k ∈ x.ran.dropLast,
    ∃ state, x.stateOf? k = some state ∧ state.isTerminal = true

/-- At every point of a run the pending jobs are those executed since the last refresh, as on a stack,
and behind them those that the refresh has sorted, as long as they have not been taken from the front
or come back. -/
theorem keepsOrder_run (pool : Nat) (events : List (ExecutorEvent K R)) :
    KeepsOrder ((new pool).run events) ((new pool).lineup .start events)
      ((new pool).acceptedAll events) := by
  have lined := (lined_new pool).run events
  constructor
  case pending => exact lined.pending
  case sorted => exact lined.sorted
  case takes => exact fun worker job rest idle front => takeJob_of_cons idle front
  case waits =>
    rintro worker (busy | nothing)
    · rw [takeJob_of_busy busy]
      exact ⟨rfl, rfl⟩
    · rw [nothing]
      exact takeJob_of_nil worker nothing
  case shutdownNow =>
    rw [shutdownNow_eq]
    exact ⟨rfl, Queue.toList_drainAll _⟩
  case begins => exact lined.begins
  case alone =>
    intro single k before
    rw [poolSize_run] at single
    have nothing : (new pool : Executor K R).held = [] := congrArg Ledger.held (ledger_new pool)
    have latest := latest_run (balanced_new pool) single
      (fun k holds => absurd (nothing ▸ holds) List.not_mem_nil) events
    exact terminal_of_dropLast lined.balanced latest before

/-- Of three jobs that a refresh has sorted the first has been run; one of them had come back before
and was handed in again. Of the two that were executed afterwards, whatever their ranks, one is run
next and the other waits in front of the rest. -/
theorem keepsOrder_run_mixed :
    let make (rank : Nat) : ExecutorEvent Nat Nat := .make ⟨0, rank, .returned⟩
    let events : List (ExecutorEvent Nat Nat) :=
      [make 9, make 3, make 5, make 8, make 1, .execute 0, .execute 1,
        .executeAndCancel Job.rank [2] (.plain fun job => job.number = 0) (),
        .executeAndCancel Job.rank [0] (.plain fun _ => false) (), .take 0, .execute 3, .finish 0,
        .take 0, .execute 4]
    let x := (new 1).run events
    let l := (new 1).lineup .start events
    Std.TransOrd Nat ∧ KeepsOrder x l [0, 1, 2, 0, 3, 4] ∧
      l.sorted.map Job.number = [1, 2, 0] ∧ l.executed.map Job.number = [3, 4] ∧
      x.ran = [1, 3] ∧ x.pending.map Job.number = [4, 2, 0] := by
  intro make events x l
  have history : (new 1).acceptedAll events = [0, 1, 2, 0, 3, 4] := by
    dsimp only [events, make]
    cbv
  have keeps := keepsOrder_run 1 events
  rw [history] at keeps
  refine ⟨inferInstance, keeps, ?_, ?_, ?_, ?_⟩
  all_goals
    dsimp only [x, l, events, make]
    cbv

end Executor

end Vicinity

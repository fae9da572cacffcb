import Vicinity.Executor.Events
import Vicinity.Proofs.Executor.Ledger
import Vicinity.Proofs.Queue.Basic

/-! # Runs of an executor

Each event of an executor comes to one entry in its ledger, so a run of events keeps the ledger
balanced. Jobs are told apart by their numbers. A job has the same number whenever it is handed in, so
a number is among the accepted ones as often as its job has been accepted.
-/

namespace Vicinity

variable {K R : Type}

/-- The number of the job that a worker holds. -/
def Worker.holding? : Worker K R → Option Nat
  | holding job => some job.number
  | _ => none

@[simp] theorem Worker.holding?_idle : (idle : Worker K R).holding? = none := rfl

/-! ## Handing over -/

namespace Job

variable {job : Job K R} {jobs others : List (Job K R)} {number : Nat}

theorem pick?_perm (picked : pick? number jobs = some (job, others)) :
    jobs.Perm (job :: others) ∧ job.number = number := by
  induction jobs generalizing others with
  | nil => contradiction
  | cons first rest ih =>
    rw [pick?] at picked
    split at picked
    case isTrue same =>
      cases picked
      exact ⟨.refl _, same⟩
    case isFalse =>
      obtain ⟨found, later, same⟩ := Option.map_eq_some_iff.mp picked
      cases same
      obtain ⟨perm, number⟩ := ih later
      exact ⟨(perm.cons first).trans (.swap ..), number⟩

theorem pick?_ne_none (member : number ∈ jobs.map Job.number) : pick? number jobs ≠ none := by
  induction jobs with
  | nil => contradiction
  | cons first rest ih =>
    rw [pick?]
    split
    case isTrue => exact Option.some_ne_none _
    case isFalse different =>
      have later := (List.mem_cons.mp member).resolve_left (Ne.symm different)
      rw [ne_eq, Option.map_eq_none_iff]
      exact ih later

/-- What is handed over and what is left are together what was there. -/
theorem handOver_perm (numbers : List Nat) (jobs : List (Job K R)) :
    ((handOver numbers jobs).1 ++ (handOver numbers jobs).2).Perm jobs := by
  induction numbers generalizing jobs with
  | nil => exact .refl _
  | cons number rest ih =>
    rw [handOver]
    split
    case h_1 => exact ih jobs
    case h_2 job others picked => exact ((ih others).cons job).trans (pick?_perm picked).1.symm

/-- Whoever has all of some jobs can hand over all of them, in any order. -/
theorem map_number_handOver {numbers : List Nat} {jobs : List (Job K R)} (once : numbers.Nodup)
    (there : ∀ number ∈ numbers, number ∈ jobs.map Job.number) :
    (handOver numbers jobs).1.map Job.number = numbers := by
  induction numbers generalizing jobs with
  | nil => rfl
  | cons number rest ih =>
    obtain ⟨absent, once⟩ := List.nodup_cons.mp once
    obtain ⟨own, later⟩ := List.forall_mem_cons.mp there
    rw [handOver]
    split
    case h_1 missing => exact absurd missing (pick?_ne_none own)
    case h_2 job others picked =>
      obtain ⟨perm, same⟩ := pick?_perm picked
      rw [List.map_cons, same, ih once]
      intro other member
      have listed := (perm.map Job.number).mem_iff.mp (later other member)
      rw [List.map_cons, List.mem_cons, same] at listed
      exact listed.resolve_left fun equal => absent (equal ▸ member)

end Job

namespace Executor

/-- The numbers of the jobs that workers hold. -/
def held (x : Executor K R) : List Nat := x.workers.filterMap Worker.holding?

def ledger (x : Executor K R) : Ledger where
  made := x.records.length
  state k := (x.stateOf? k).getD .queued
  hands := x.hands.map Job.number
  waiting := x.pending.map Job.number
  held := x.held
  ran := x.ran
  submitted := x.submitted
  completed := x.completed
  cancelled := x.cancelled
  panicked := x.panicked

/-! ## Moving and making jobs -/

theorem stateOf?_move (x : Executor K R) (state : TaskState) (k j : Nat) :
    (x.move state k).stateOf? j = (x.stateOf? j).map fun old => if j = k then state else old := by
  rw [stateOf?, stateOf?, move, List.getElem?_modify]
  cases x.records[j]? with
  | none => rfl
  | some record =>
    by_cases same : k = j
    · simp [same]
    · simp [same, Ne.symm same]

theorem stateOf?_of_made (x : Executor K R) {k : Nat} (made : k < x.records.length) :
    x.stateOf? k = some (x.ledger.state k) := by
  have found : x.stateOf? k = some x.records[k].state := by
    rw [stateOf?, List.getElem?_eq_getElem made]
    rfl
  dsimp only [ledger]
  rw [found]
  rfl

theorem stateOf?_eq_none (x : Executor K R) {k : Nat} (later : x.records.length ≤ k) :
    x.stateOf? k = none := by
  rw [stateOf?, List.getElem?_eq_none later]
  rfl

theorem ledger_move (x : Executor K R) (state : TaskState) {k : Nat} (made : k < x.ledger.made) :
    (x.move state k).ledger = { x.ledger with state := Function.update x.ledger.state k state } := by
  have length : (x.move state k).records.length = x.records.length := List.length_modify ..
  have states : (x.move state k).ledger.state = Function.update x.ledger.state k state := by
    funext j
    rw [Function.update_apply]
    dsimp only [ledger]
    rw [stateOf?_move]
    split
    · next same => rw [same, x.stateOf?_of_made made]; rfl
    · rw [Option.map_id']
  exact Ledger.ext length states rfl rfl rfl rfl rfl rfl rfl rfl

/-- Moving jobs changes their records and nothing else. -/
theorem moveAll_eq (x : Executor K R) (state : TaskState) (jobs : List (Job K R)) :
    x.moveAll state jobs = { x with records := (x.moveAll state jobs).records } := by
  induction jobs generalizing x with
  | nil => rfl
  | cons job rest ih => exact ih (x.move state job.number)

theorem ledger_moveAll (x : Executor K R) (state : TaskState) {jobs : List (Job K R)}
    (made : ∀ job ∈ jobs, job.number < x.ledger.made) :
    (x.moveAll state jobs).ledger = { x.ledger with
      state := fun k => if k ∈ jobs.map Job.number then state else x.ledger.state k } := by
  induction jobs generalizing x with
  | nil =>
    refine Ledger.ext rfl ?_ rfl rfl rfl rfl rfl rfl rfl rfl
    funext k
    simp only [moveAll, List.foldl_nil, List.map_nil, List.not_mem_nil, if_false]
  | cons job rest ih =>
    have first := x.ledger_move state (made job (List.mem_cons_self ..))
    have later : ∀ other ∈ rest, other.number < (x.move state job.number).ledger.made := by
      intro other member
      rw [first]
      exact made other (List.mem_cons_of_mem _ member)
    rw [moveAll, List.foldl_cons, ← moveAll, ih _ later, first]
    refine Ledger.ext rfl ?_ rfl rfl rfl rfl rfl rfl rfl rfl
    funext k
    simp only [Function.update_apply, List.map_cons, List.mem_cons]
    by_cases own : k = job.number <;> simp [own]

/-- A job that is made is queued and in the hands of a user. -/
theorem ledger_make (x : Executor K R) (order : JobOrder K R) :
    (x.make order).ledger =
      { x.ledger with
        made := x.ledger.made + 1
        hands := x.ledger.hands ++ [x.ledger.made] } := by
  have states : (x.make order).ledger.state = x.ledger.state := by
    funext k
    dsimp only [ledger, make, stateOf?]
    rw [List.getElem?_append]
    split
    · rfl
    · next later =>
      rw [List.getElem?_eq_none (Nat.not_lt.mp later)]
      cases k - x.records.length <;> rfl
  exact Ledger.ext List.length_append states List.map_append rfl rfl rfl rfl rfl rfl rfl

theorem ledger_handOver (x : Executor K R) (numbers : List Nat) :
    (x.handOver numbers).2.ledger =
      { x.ledger with hands := (x.handOver numbers).2.hands.map Job.number } := rfl

/-- What is handed over and what users keep are together what they held. -/
theorem handed (x : Executor K R) (numbers : List Nat) :
    ((x.handOver numbers).1.map Job.number ++
      (x.handOver numbers).2.hands.map Job.number).Perm x.ledger.hands := by
  rw [← List.map_append]
  exact (Job.handOver_perm numbers x.hands).map Job.number

/-! ## Handing in -/

/-- The numbers of the jobs that are handed in with an event. -/
def offered (x : Executor K R) (event : ExecutorEvent K R) : List Nat :=
  (x.handOver event.numbers).1.map Job.number

theorem execute_stopped {x : Executor K R} (stopped : x.stopped = true) (job : Job K R) :
    x.execute job = (.error .shutDown, x) :=
  if_pos stopped

theorem execute_running {x : Executor K R} (running : x.stopped = false) (job : Job K R) :
    x.execute job = (.ok (), { x with submitted := x.submitted + 1, queue := x.queue.add job }) :=
  if_neg (Bool.eq_false_iff.mp running)

/-- A job that is handed in, if it is held, is executed. -/
theorem submit_cases (x : Executor K R) (number : Nat) :
    (x.handOver [number]).1 = [] ∧ x.submit number = (.ok (), (x.handOver [number]).2) ∨
      ∃ job, (x.handOver [number]).1 = [job] ∧
        x.submit number = (x.handOver [number]).2.execute job := by
  have handed : x.handOver [number] = ((Job.handOver [number] x.hands).1,
    { x with hands := (Job.handOver [number] x.hands).2 }) := rfl
  rw [submit, handed, Job.handOver]
  cases Job.pick? number x.hands with
  | none => exact .inl ⟨rfl, rfl⟩
  | some picked => exact .inr ⟨picked.1, rfl, rfl⟩

theorem offered_of_missing {x : Executor K R} {number : Nat}
    (nothing : (x.handOver [number]).1 = []) : x.offered (.execute number) = [] :=
  congrArg (List.map Job.number) nothing

theorem offered_of_held {x : Executor K R} {number : Nat} {job : Job K R}
    (single : (x.handOver [number]).1 = [job]) :
    x.offered (.execute number) = [job.number] ∧ job.number ∈ x.ledger.hands := by
  have offered : x.offered (.execute number) = [job.number] := congrArg (List.map Job.number) single
  refine ⟨offered, (x.handed [number]).mem_iff.mp (List.mem_append_left _ ?_)⟩
  rw [single]
  exact List.mem_singleton_self _

/-- What users let go of is lost if it is not accepted. -/
theorem entry_lost (x : Executor K R) (numbers : List Nat) :
    x.ledger.Entry [] [] (x.handOver numbers).2.ledger := by
  rw [ledger_handOver]
  exact .refuse (x.handed numbers)

/-! ## Refreshing -/

/-- The queue with the pending jobs at their new ranks. -/
def refreshed (ranker : Job K R → R) (x : Executor K R) : Queue (Job K R) :=
  x.queue.changeAll (fun job (_ : Unit) => (job.refresh ranker, ())) ()

theorem toList_refreshed (ranker : Job K R → R) (x : Executor K R) :
    (x.refreshed ranker).toList = x.pending.map (Job.refresh ranker) :=
  Queue.toList_changeAll ..

/-- What is removed from the refreshed queue and what is left are together what was waiting. -/
theorem removeIf_refreshed {S : Type} (x : Executor K R) (ranker : Job K R → R)
    (test : Test (Job K R) S) (s : S) :
    ((((x.refreshed ranker).removeIf test s).1 ++
      ((x.refreshed ranker).removeIf test s).2.toList).map Job.number).Perm x.ledger.waiting := by
  have parts := ((x.refreshed ranker).removeIf_perm test s).map Job.number
  rw [toList_refreshed, List.map_map] at parts
  exact parts

theorem waiting_of_removed {S : Type} {x : Executor K R} (ranker : Job K R → R)
    (test : Test (Job K R) S) (s : S) :
    ∀ job ∈ ((x.refreshed ranker).removeIf test s).1, job.number ∈ x.ledger.waiting := by
  intro job member
  refine (x.removeIf_refreshed ranker test s).mem_iff.mp ?_
  exact List.mem_map_of_mem (List.mem_append_left _ member)

/-! ## Shutting down -/

theorem ledger_giveBack (x : Executor K R) (jobs : List (Job K R)) :
    (x.giveBack jobs).ledger =
      { x.ledger with hands := x.ledger.hands ++ jobs.map Job.number } :=
  Ledger.ext rfl rfl List.map_append rfl rfl rfl rfl rfl rfl rfl

/-- The pending jobs come back in their order. -/
theorem shutdownNow_eq (x : Executor K R) :
    x.shutdownNow = (x.pending, { x.shutdown.moveAll .cancelled x.pending with
      queue := x.shutdown.queue.drainAll.2
      cancelled := x.cancelled + .ofNat x.pending.length }) := by
  have drained : x.shutdown.queue.drainAll.1 = x.pending := x.queue.close.drainAll_fst
  rw [shutdownNow]
  dsimp only
  rw [drained]
  rfl

/-- What was waiting is cancelled, and nothing waits any longer. -/
theorem ledger_shutdownNow (x : Executor K R) {accepted returned : List Nat}
    (balanced : x.ledger.Balanced accepted returned) :
    x.shutdownNow.2.ledger = { x.ledger with
      state := fun k => if k ∈ x.ledger.waiting then .cancelled else x.ledger.state k
      waiting := []
      cancelled := x.cancelled + .ofNat x.pending.length } := by
  have emptied : x.shutdown.queue.drainAll.2.toList = [] := x.queue.close.toList_drainAll
  have known : ∀ job ∈ x.pending, job.number < x.shutdown.ledger.made := fun job member =>
    balanced.made_of_waiting (List.mem_map_of_mem member)
  have moved := x.shutdown.ledger_moveAll .cancelled known
  have field {A : Type} (f : Ledger → A) := congrArg f moved
  rw [shutdownNow_eq]
  exact Ledger.ext (field Ledger.made) (field Ledger.state) (field Ledger.hands)
    (congrArg (List.map Job.number) emptied) (field Ledger.held) (field Ledger.ran)
    (field Ledger.submitted) (field Ledger.completed) rfl (field Ledger.panicked)

/-! ## Workers -/

/-- What is replaced in a list gives up its image for that of what replaces it. -/
theorem filterMap_set_perm {A B : Type} (f : A → Option B) {items : List A} {i : Nat} {old : A}
    (there : items[i]? = some old) (new : A) :
    ((items.set i new).filterMap f ++ (f old).toList).Perm
      (items.filterMap f ++ (f new).toList) := by
  have split (item : A) (rest : List A) :
      (item :: rest).filterMap f = (f item).toList ++ rest.filterMap f := by
    rw [List.filterMap_cons]
    cases f item <;> rfl
  induction items generalizing i with
  | nil => contradiction
  | cons item rest ih =>
    cases i with
    | zero =>
      obtain rfl : item = old := Option.some.inj there
      rw [List.set_cons_zero, split, split, List.append_assoc]
      exact (List.perm_append_comm).trans (List.Perm.append_right _ List.perm_append_comm)
    | succ i =>
      rw [List.set_cons_succ, split, split, List.append_assoc, List.append_assoc]
      exact (ih there).append_left _

/-- A worker that is replaced gives up what it held for what the other holds. -/
theorem held_set (x : Executor K R) {w : Nat} {old : Worker K R} (there : x.workers[w]? = some old)
    (new : Worker K R) :
    (({ x with workers := x.workers.set w new } : Executor K R).held ++ old.holding?.toList).Perm
      (x.held ++ new.holding?.toList) :=
  filterMap_set_perm Worker.holding? there new

/-- A worker that exits had nothing to give up. -/
theorem ledger_exit (x : Executor K R) {w : Nat} (idle : x.workers[w]? = some .idle) :
    ({ x with workers := x.workers.set w .exited } : Executor K R).ledger = x.ledger := by
  obtain ⟨there, found⟩ := List.getElem?_eq_some_iff.mp idle
  have shown : (x.workers.set w .exited).map Worker.holding? = x.workers.map Worker.holding? := by
    rw [List.map_set]
    refine (congrArg _ ?_).trans (List.set_getElem_self (i := w) (by rwa [List.length_map]))
    rw [List.getElem_map, found]
    rfl
  have same : (x.workers.set w .exited).filterMap Worker.holding? = x.held := by
    have gathered := congrArg (List.filterMap id) shown
    rwa [List.filterMap_map, List.filterMap_map] at gathered
  exact Ledger.ext rfl rfl rfl rfl same rfl rfl rfl rfl rfl

/-- A worker that begins with a job moves it on, and holds it. -/
theorem ledger_takeJob (x : Executor K R) {w : Nat} (idle : x.workers[w]? = some .idle)
    {job : Job K R} {rest : Queue (Job K R)} (taken : x.queue.take = (.element job, rest))
    (made : job.number < x.ledger.made) :
    (x.takeJob w).ledger = { x.ledger with
      state := Function.update x.ledger.state job.number .running
      waiting := rest.toList.map Job.number
      held := (x.workers.set w (.holding job)).filterMap Worker.holding?
      ran := x.ledger.ran ++ [job.number] } := by
  have moved := x.ledger_move .running made
  have field {A : Type} (f : Ledger → A) := congrArg f moved
  rw [takeJob, idle, taken]
  exact Ledger.ext (field Ledger.made) (field Ledger.state) rfl rfl rfl rfl rfl rfl rfl rfl

/-- A worker whose job ends moves it on, counts it and is idle again. -/
theorem ledger_finishJob (x : Executor K R) {w : Nat} {job : Job K R}
    (holding : x.workers[w]? = some (.holding job)) (made : job.number < x.ledger.made) :
    (x.finishJob w).ledger = { x.ledger.recordOutcome job.body with
      state := Function.update x.ledger.state job.number (.ofOutcome job.body)
      held := (x.workers.set w .idle).filterMap Worker.holding? } := by
  have moved := x.ledger_move (.ofOutcome job.body) made
  have field {A : Type} (f : Ledger → A) := congrArg f moved
  rw [finishJob, holding]
  obtain ⟨number, key, rank, body⟩ := job
  cases body with
  | returned =>
    exact Ledger.ext (field Ledger.made) (field Ledger.state) rfl rfl rfl rfl rfl rfl rfl rfl
  | panicked =>
    exact Ledger.ext (field Ledger.made) (field Ledger.state) rfl rfl rfl rfl rfl rfl rfl rfl

theorem entry_take (x : Executor K R) {accepted returned : List Nat}
    (balanced : x.ledger.Balanced accepted returned) (w : Nat) : x.ledger.Entry [] [] (x.takeJob w).ledger := by
  cases found : x.workers[w]? with
  | none =>
    rw [takeJob, found]
    exact .still
  | some worker =>
    cases worker with
    | idle =>
      cases taken : x.queue.take with
      | mk outcome rest =>
        cases outcome with
        | element job =>
          have first : x.ledger.waiting = job.number :: rest.toList.map Job.number :=
            congrArg (List.map Job.number) (Queue.toList_of_take taken)
          have front : job.number ∈ x.ledger.waiting := by
            rw [first]
            exact List.mem_cons_self ..
          have handed := x.held_set found (.holding job)
          rw [Worker.holding?_idle, Option.toList_none, List.append_nil] at handed
          rw [x.ledger_takeJob found taken (balanced.made_of_waiting front)]
          exact .start first (handed.trans List.perm_append_comm)
        | ended =>
          rw [takeJob, found, taken]
          dsimp only
          rw [x.ledger_exit found]
          exact .still
        | waits =>
          rw [takeJob, found, taken]
          exact .still
    | _ =>
      rw [takeJob, found]
      exact .still

theorem entry_finish (x : Executor K R) {accepted returned : List Nat}
    (balanced : x.ledger.Balanced accepted returned) (w : Nat) : x.ledger.Entry [] [] (x.finishJob w).ledger := by
  cases found : x.workers[w]? with
  | none =>
    rw [finishJob, found]
    exact .still
  | some worker =>
    cases worker with
    | holding job =>
      have given := (x.held_set found .idle).symm.trans List.perm_append_comm
      rw [Worker.holding?_idle, Option.toList_none, List.append_nil] at given
      have member : job.number ∈ x.ledger.held := given.mem_iff.mpr (List.mem_cons_self ..)
      have ran := balanced.ran_of_held member
      rw [x.ledger_finishJob found (balanced.known_of_accepted (balanced.accepted_of_ran ran))]
      exact .finish job.body given
    | _ =>
      rw [finishJob, found]
      exact .still

/-! ## New executors -/

theorem ledger_new (pool : Nat) : (new pool : Executor K R).ledger = .empty := by
  have holds : (new pool : Executor K R).held = [] := by
    rw [held, List.filterMap_eq_nil_iff]
    intro worker member
    rw [List.eq_of_mem_replicate member, Worker.holding?_idle]
  exact Ledger.ext rfl rfl rfl rfl holds rfl rfl rfl rfl rfl

theorem balanced_new (pool : Nat) : (new pool : Executor K R).ledger.Balanced [] [] := by
  rw [ledger_new]
  exact Ledger.balanced_empty

variable [Ord R]

/-! ## Serving events -/

/-- The numbers of the jobs that are handed in with an event and are not refused. -/
def accepted (x : Executor K R) (event : ExecutorEvent K R) : List Nat :=
  match (x.serve event).1 with
  | .ok _ => x.offered event
  | .error _ => []

/-- The numbers of the jobs that come back from an event. -/
def returned (x : Executor K R) (event : ExecutorEvent K R) : List Nat :=
  match (x.serve event).1 with
  | .ok jobs => jobs.map Job.number
  | .error _ => []

theorem executeAndCancel_stopped {S : Type} {x : Executor K R} (stopped : x.stopped = true)
    (ranker : Job K R → R) (jobs : List (Job K R)) (test : Test (Job K R) S) (s : S) :
    x.executeAndCancel ranker jobs test s = (.error .shutDown, x) :=
  if_pos stopped

/-- What comes of executing a job that users may hold: nothing if they do not, a refusal, or a job at
the front of the queue. -/
theorem serve_execute_cases (x : Executor K R) (number : Nat) :
    (x.handOver [number]).1 = [] ∧
        x.serve (.execute number) = (.ok [], (x.handOver [number]).2) ∨
      x.stopped = true ∧
        x.serve (.execute number) = (.error .shutDown, (x.handOver [number]).2) ∨
      ∃ job, x.stopped = false ∧ (x.handOver [number]).1 = [job] ∧
        x.serve (.execute number) = (.ok [], { (x.handOver [number]).2 with
          submitted := x.submitted + 1, queue := x.queue.add job }) := by
  rw [serve]
  rcases x.submit_cases number with ⟨nothing, submitted⟩ | ⟨job, single, submitted⟩
  · rw [submitted]
    exact .inl ⟨nothing, rfl⟩
  · rw [submitted]
    rcases Bool.eq_false_or_eq_true x.stopped with stopped | running
    · rw [execute_stopped (x := (x.handOver [number]).2) stopped]
      exact .inr (.inl ⟨stopped, rfl⟩)
    · rw [execute_running (x := (x.handOver [number]).2) running]
      exact .inr (.inr ⟨job, running, single, rfl⟩)

theorem serve_executeAndCancel_stopped {S : Type} {x : Executor K R} (stopped : x.stopped = true)
    (ranker : Job K R → R) (numbers : List Nat) (test : Test (Job K R) S) (s : S) :
    x.serve (.executeAndCancel ranker numbers test s) =
      (.error .shutDown, (x.handOver numbers).2) := by
  have refused := executeAndCancel_stopped (x := (x.handOver numbers).2) stopped ranker
    (x.handOver numbers).1 test s
  rw [serve]
  dsimp only
  rw [refused]

theorem executeAndCancel_running {S : Type} {x : Executor K R} (running : x.stopped = false)
    (ranker : Job K R → R) (jobs : List (Job K R)) (test : Test (Job K R) S) (s : S) :
    x.executeAndCancel ranker jobs test s =
      (.ok ((x.refreshed ranker).removeIf test s).1,
        { x.moveAll .cancelled ((x.refreshed ranker).removeIf test s).1 with
          queue := (((x.refreshed ranker).removeIf test s).2.addAll jobs).sort Job.byRank
          submitted := x.submitted + .ofNat jobs.length
          cancelled := x.cancelled + .ofNat ((x.refreshed ranker).removeIf test s).1.length }) :=
  if_neg (Bool.eq_false_iff.mp running)

/-- The executor once some jobs have been cancelled and given back, of which others are left, and what
users hand in has been sorted in. -/
def exchange (x : Executor K R) (numbers : List Nat) (parts : List (Job K R) × Queue (Job K R)) :
    Executor K R :=
  { (x.handOver numbers).2.moveAll .cancelled parts.1 with
    queue := (parts.2.addAll (x.handOver numbers).1).sort Job.byRank
    hands := (x.handOver numbers).2.hands ++ parts.1
    submitted := x.submitted + .ofNat (x.handOver numbers).1.length
    cancelled := x.cancelled + .ofNat parts.1.length }

/-- An executor that accepts jobs exchanges the refreshed ones that the test accepts for those that
are handed in. -/
theorem serve_executeAndCancel_running {S : Type} {x : Executor K R} (running : x.stopped = false)
    (ranker : Job K R → R) (numbers : List Nat) (test : Test (Job K R) S) (s : S) :
    x.serve (.executeAndCancel ranker numbers test s) =
      (.ok ((x.refreshed ranker).removeIf test s).1,
        x.exchange numbers ((x.refreshed ranker).removeIf test s)) := by
  have executed := executeAndCancel_running (x := (x.handOver numbers).2) running ranker
    (x.handOver numbers).1 test s
  have hands := congrArg hands ((x.handOver numbers).2.moveAll_eq .cancelled
    ((x.refreshed ranker).removeIf test s).1)
  rw [serve]
  dsimp only
  rw [executed, exchange, ← hands]
  rfl

/-- An event that fails loses its jobs and does nothing else. -/
theorem serve_failed {x : Executor K R} {event : ExecutorEvent K R} {e : ExecutorError}
    (failed : (x.serve event).1 = .error e) :
    x.stopped = true ∧ (x.serve event).2 = (x.handOver event.numbers).2 := by
  cases event with
  | execute number =>
    rcases x.serve_execute_cases number with ⟨-, served⟩ | ⟨stopped, served⟩ | ⟨job, -, -, served⟩
    · rw [served] at failed
      contradiction
    · exact ⟨stopped, congrArg Prod.snd served⟩
    · rw [served] at failed
      contradiction
  | executeAndCancel ranker numbers test s =>
    cases stopped : x.stopped with
    | true =>
      exact ⟨rfl, congrArg Prod.snd (serve_executeAndCancel_stopped stopped ranker numbers test s)⟩
    | false =>
      rw [serve_executeAndCancel_running stopped] at failed
      contradiction
  | _ => contradiction

theorem entry_failed (x : Executor K R) {event : ExecutorEvent K R} {e : ExecutorError}
    (failed : (x.serve event).1 = .error e) :
    x.ledger.Entry (x.accepted event) (x.returned event) (x.serve event).2.ledger := by
  rw [accepted, returned, failed, (serve_failed failed).2]
  exact x.entry_lost event.numbers

/-- An event that succeeds takes all its jobs, and gives back those it takes out of the queue. -/
theorem entry_refreshed (x : Executor K R) {event : ExecutorEvent K R} {jobs kept : List (Job K R)}
    {after : Executor K R} (served : x.serve event = (.ok jobs, after))
    (parts : ((jobs ++ kept).map Job.number).Perm x.ledger.waiting)
    (left : (after.pending.map Job.number).Perm (x.offered event ++ kept.map Job.number))
    (entered : after.ledger = { x.ledger with
      state := fun k => if k ∈ jobs.map Job.number then .cancelled else x.ledger.state k
      hands := (x.handOver event.numbers).2.hands.map Job.number ++ jobs.map Job.number
      waiting := after.pending.map Job.number
      submitted := x.submitted + .ofNat (x.offered event).length
      cancelled := x.cancelled + .ofNat jobs.length }) :
    x.ledger.Entry (x.accepted event) (x.returned event) (x.serve event).2.ledger := by
  have counted : jobs.length = (jobs.map Job.number).length := (List.length_map _).symm
  rw [List.map_append] at parts
  rw [counted] at entered
  rw [accepted, returned, served]
  dsimp only
  rw [entered]
  exact .refresh (x.handed event.numbers) parts left

theorem entry_execute (x : Executor K R) (number : Nat) :
    x.ledger.Entry (x.accepted (.execute number)) (x.returned (.execute number))
      (x.serve (.execute number)).2.ledger := by
  rcases x.serve_execute_cases number with
    ⟨nothing, served⟩ | ⟨-, served⟩ | ⟨job, -, single, served⟩
  · rw [accepted, returned, served, offered_of_missing nothing]
    exact x.entry_lost [number]
  · exact x.entry_failed (congrArg Prod.fst served)
  · have offered := (offered_of_held single).1
    have parts : ((([] : List (Job K R)) ++ x.pending).map Job.number).Perm x.ledger.waiting := .refl _
    refine x.entry_refreshed served parts ?_ ?_
    · rw [offered]
      exact .refl _
    · rw [offered]
      exact Ledger.ext rfl rfl (List.append_nil _).symm rfl rfl rfl rfl rfl (UInt64.add_zero _).symm rfl

theorem toList_exchange (x : Executor K R) (numbers : List Nat)
    (parts : List (Job K R) × Queue (Job K R)) :
    (x.exchange numbers parts).pending.Perm (parts.2.toList ++ (x.handOver numbers).1) := by
  have all := (parts.2.addAll (x.handOver numbers).1).toList_sort Job.byRank
  rw [Queue.toList_addAll] at all
  exact all.trans (((List.reverse_perm _).append_right _).trans List.perm_append_comm)

theorem ledger_exchange (x : Executor K R) (numbers : List Nat)
    (parts : List (Job K R) × Queue (Job K R)) (known : ∀ job ∈ parts.1, job.number < x.ledger.made) :
    (x.exchange numbers parts).ledger =
      { x.ledger with
        state := fun k => if k ∈ parts.1.map Job.number then .cancelled else x.ledger.state k
        hands := (x.handOver numbers).2.hands.map Job.number ++ parts.1.map Job.number
        waiting := (x.exchange numbers parts).pending.map Job.number
        submitted := x.submitted + .ofNat (x.handOver numbers).1.length
        cancelled := x.cancelled + .ofNat parts.1.length } := by
  have moved := (x.handOver numbers).2.ledger_moveAll .cancelled known
  have field {A : Type} (f : Ledger → A) := congrArg f moved
  exact Ledger.ext (field Ledger.made) (field Ledger.state) List.map_append rfl (field Ledger.held)
    (field Ledger.ran) rfl (field Ledger.completed) rfl (field Ledger.panicked)

variable {accepted returned : List Nat}

theorem entry_executeAndCancel {S : Type} (x : Executor K R)
    (balanced : x.ledger.Balanced accepted returned) (ranker : Job K R → R) (numbers : List Nat)
    (test : Test (Job K R) S) (s : S) :
    let event : ExecutorEvent K R := .executeAndCancel ranker numbers test s
    x.ledger.Entry (x.accepted event) (x.returned event) (x.serve event).2.ledger := by
  intro event
  cases stopped : x.stopped with
  | true =>
    have failed : (x.serve event).1 = .error .shutDown :=
      congrArg Prod.fst (serve_executeAndCancel_stopped stopped ranker numbers test s)
    exact x.entry_failed failed
  | false =>
    have left := (x.toList_exchange numbers ((x.refreshed ranker).removeIf test s)).map Job.number
    rw [List.map_append] at left
    have entered := x.ledger_exchange numbers ((x.refreshed ranker).removeIf test s) fun job member =>
      balanced.made_of_waiting (waiting_of_removed ranker test s job member)
    refine x.entry_refreshed (serve_executeAndCancel_running stopped ranker numbers test s)
      (x.removeIf_refreshed ranker test s) (left.trans List.perm_append_comm) (entered.trans ?_)
    have counted : (x.handOver numbers).1.length = (x.offered event).length :=
      (List.length_map _).symm
    rw [counted]
    rfl

theorem entry_shutdownNow (x : Executor K R) (balanced : x.ledger.Balanced accepted returned) :
    x.ledger.Entry (x.accepted .shutdownNow) (x.returned .shutdownNow)
      (x.serve .shutdownNow).2.ledger := by
  have first : x.shutdownNow.1 = x.pending := congrArg Prod.fst x.shutdownNow_eq
  have served : x.serve .shutdownNow = (.ok x.pending, x.shutdownNow.2.giveBack x.pending) := by
    rw [serve, first]
  have parts : ((x.pending ++ []).map Job.number).Perm x.ledger.waiting := by
    rw [List.append_nil]
    exact .refl _
  have emptied : (x.shutdownNow.2.giveBack x.pending).pending.map Job.number = [] :=
    congrArg Ledger.waiting (x.ledger_shutdownNow balanced)
  refine x.entry_refreshed served parts ?_ ?_
  · rw [emptied]
    exact .refl _
  · rw [ledger_giveBack, ledger_shutdownNow x balanced]
    exact Ledger.ext rfl rfl rfl emptied.symm rfl rfl (UInt64.add_zero _).symm rfl rfl rfl

/-- Every event of an executor is one entry in its ledger. -/
theorem entry_serve (x : Executor K R) (balanced : x.ledger.Balanced accepted returned)
    (event : ExecutorEvent K R) :
    x.ledger.Entry (x.accepted event) (x.returned event) (x.serve event).2.ledger := by
  cases event with
  | make order =>
    have made := x.ledger_make order
    rw [serve, made]
    exact .make
  | execute number => exact x.entry_execute number
  | executeAndCancel ranker numbers test s =>
    exact x.entry_executeAndCancel balanced ranker numbers test s
  | shutdown => exact .still
  | shutdownNow => exact x.entry_shutdownNow balanced
  | take worker => exact x.entry_take balanced worker
  | finish worker => exact x.entry_finish balanced worker

/-! ## Runs -/

/-- Serve events one after another. -/
def run (x : Executor K R) (events : List (ExecutorEvent K R)) : Executor K R :=
  events.foldl (fun x event => (x.serve event).2) x

theorem run_nil (x : Executor K R) : x.run [] = x := rfl

theorem run_cons (x : Executor K R) (event : ExecutorEvent K R)
    (events : List (ExecutorEvent K R)) : x.run (event :: events) = (x.serve event).2.run events :=
  rfl

theorem run_append (x : Executor K R) (before after : List (ExecutorEvent K R)) :
    x.run (before ++ after) = (x.run before).run after :=
  List.foldl_append

/-- The numbers of the jobs that are accepted in a run, each as often as it is accepted. -/
def acceptedAll (x : Executor K R) : List (ExecutorEvent K R) → List Nat
  | [] => []
  | event :: rest => x.accepted event ++ (x.serve event).2.acceptedAll rest

/-- The numbers of the jobs that come back in a run, each as often as it comes back. -/
def returnedAll (x : Executor K R) : List (ExecutorEvent K R) → List Nat
  | [] => []
  | event :: rest => x.returned event ++ (x.serve event).2.returnedAll rest

variable {x : Executor K R}

theorem balanced_serve (balanced : x.ledger.Balanced accepted returned)
    (event : ExecutorEvent K R) :
    (x.serve event).2.ledger.Balanced (accepted ++ x.accepted event) (returned ++ x.returned event) :=
  balanced.entry (x.entry_serve balanced event)

/-- Whatever happens, the ledger stays balanced. -/
theorem balanced_run (balanced : x.ledger.Balanced accepted returned)
    (events : List (ExecutorEvent K R)) :
    (x.run events).ledger.Balanced (accepted ++ x.acceptedAll events)
      (returned ++ x.returnedAll events) := by
  induction events generalizing x accepted returned with
  | nil =>
    rw [acceptedAll, returnedAll, List.append_nil, List.append_nil]
    exact balanced
  | cons event rest ih =>
    have later := ih (balanced_serve balanced event)
    rw [List.append_assoc, List.append_assoc] at later
    exact later

theorem made_le_serve (balanced : x.ledger.Balanced accepted returned) (event : ExecutorEvent K R) :
    x.ledger.made ≤ (x.serve event).2.ledger.made :=
  (x.entry_serve balanced event).made_le

theorem made_le_run (balanced : x.ledger.Balanced accepted returned)
    (events : List (ExecutorEvent K R)) : x.ledger.made ≤ (x.run events).ledger.made := by
  induction events generalizing x accepted returned with
  | nil => exact Nat.le_refl _
  | cons event rest ih =>
    exact Nat.le_trans (made_le_serve balanced event) (ih (balanced_serve balanced event))

/-- What has begun to run has been run ever after. -/
theorem hasRun_run (balanced : x.ledger.Balanced accepted returned)
    (events : List (ExecutorEvent K R)) {k : Nat} (ran : (x.ledger.state k).hasRun = true) :
    ((x.run events).ledger.state k).hasRun = true := by
  induction events generalizing x accepted returned with
  | nil => exact ran
  | cons event rest ih =>
    refine ih (balanced_serve balanced event) ?_
    rcases balanced.moves (x.entry_serve balanced event) k with same | move
    · have state : (x.serve event).2.ledger.state k = x.ledger.state k := congrArg Progress.state same
      exact state.symm ▸ ran
    · exact move.hasRun ran

/-- A job that neither waits nor is held stays as it is for as long as it is not accepted. -/
theorem idle_run (balanced : x.ledger.Balanced accepted returned) {k : Nat}
    (unqueued : k ∉ x.ledger.waiting) (unheld : k ∉ x.ledger.held)
    {events : List (ExecutorEvent K R)} (unaccepted : k ∉ x.acceptedAll events) :
    (x.run events).ledger.state k = x.ledger.state k := by
  induction events generalizing x accepted returned with
  | nil => rfl
  | cons event rest ih =>
    rw [acceptedAll, List.mem_append, not_or] at unaccepted
    obtain ⟨same, still_unqueued, still_unheld⟩ :=
      (x.entry_serve balanced event).idle unqueued unheld unaccepted.1
    rw [run_cons, ih (balanced_serve balanced event) still_unqueued still_unheld unaccepted.2, same]

/-- A job that nobody has any longer is never accepted again. -/
theorem gone_run (balanced : x.ledger.Balanced accepted returned) {k : Nat}
    (made : k < x.ledger.made) (lost : k ∉ x.ledger.hands) (unqueued : k ∉ x.ledger.waiting)
    (events : List (ExecutorEvent K R)) : k ∉ x.acceptedAll events := by
  induction events generalizing x accepted returned with
  | nil => exact List.not_mem_nil
  | cons event rest ih =>
    obtain ⟨later, still_lost, still_unqueued, unaccepted⟩ :=
      (x.entry_serve balanced event).gone made lost unqueued
    rw [acceptedAll, List.mem_append, not_or]
    exact ⟨unaccepted, ih (balanced_serve balanced event) later still_lost still_unqueued⟩

end Executor

end Vicinity

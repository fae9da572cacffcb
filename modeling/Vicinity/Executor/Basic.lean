import Vicinity.Error
import Vicinity.Executor.Job
import Vicinity.Queue.Basic

/-! # Executors

An executor has a queue of jobs and a fixed number of workers. Three sorts of steps change it:
requests of its users, a worker taking the job at the front of the queue, and a worker finishing the
job it holds. They may follow one another in any order.

Jobs are made by users, who hold them until they hand them in. A job that is executed goes to the
front of the queue. `executeAndCancel` refreshes the ranks of the pending jobs, cancels those that a
test accepts, adds others and sorts by rank, all in one step. The cancelled jobs are given back; the
users who get them may hand them in again, and an executor looks neither at the state nor at the past
of a job that it is handed. An executor that was shut down refuses jobs, and a job that is refused is
lost; its workers go on until the queue is empty and then exit. The counters are 64-bit words.
-/

namespace Vicinity

/-- What a worker is doing. -/
inductive Worker (K R : Type) where
  | idle
  | holding (job : Job K R)
  | exited
deriving DecidableEq, Repr, Inhabited

/-- A job that was made, under its number: its key and its state. -/
structure TaskRecord (K : Type) where
  key : K
  state : TaskState
deriving DecidableEq, Repr, Inhabited

structure Executor (K R : Type) where
  queue : Queue (Job K R)
  workers : List (Worker K R)
  stopped : Bool
  /-- All jobs ever made for this executor, in the order of making. -/
  records : List (TaskRecord K)
  /-- The jobs that users hold: those that they have made and not handed in, and those given back. -/
  hands : List (Job K R)
  /-- The numbers of the jobs whose bodies were run, in the order in which they began. -/
  ran : List Nat
  submitted : UInt64
  completed : UInt64
  cancelled : UInt64
  panicked : UInt64

namespace Executor

variable {K R S : Type}

/-- A new executor with so many workers, all waiting for jobs. -/
def new (workers : Nat) : Executor K R where
  queue := ∅
  workers := List.replicate workers .idle
  stopped := false
  records := []
  hands := []
  ran := []
  submitted := 0
  completed := 0
  cancelled := 0
  panicked := 0

instance : Inhabited (Executor K R) := ⟨new 0⟩

def poolSize (x : Executor K R) : Nat := x.workers.length

/-- The pending jobs in the order in which workers will take them. -/
def pending (x : Executor K R) : List (Job K R) := x.queue.toList

def queued (x : Executor K R) : Nat := x.queue.size

/-- The state of a job by its number. -/
def stateOf? (x : Executor K R) (number : Nat) : Option TaskState :=
  x.records[number]?.map TaskRecord.state

/-- Move a job to a state. -/
def move (x : Executor K R) (state : TaskState) (number : Nat) : Executor K R :=
  { x with records := x.records.modify number fun record => { record with state } }

/-- Move several jobs to one state. -/
def moveAll (x : Executor K R) (state : TaskState) (jobs : List (Job K R)) : Executor K R :=
  jobs.foldl (fun x job => x.move state job.number) x

/-- Make a job. It is queued from the start, though in no queue: the user who made it holds it. -/
def make (x : Executor K R) (order : JobOrder K R) : Executor K R :=
  { x with
    records := x.records ++ [⟨order.key, .queued⟩]
    hands := x.hands ++ [.ofOrder x.records.length order] }

/-- A job that a user holds, as its owner sees it. -/
def owned? (x : Executor K R) (number : Nat) : Option (OwnedJob K R) :=
  (Job.pick? number x.hands).map fun picked =>
    ⟨some picked.1, (x.stateOf? number).getD .queued⟩

/-- Users let go of the jobs with certain numbers, as far as they hold them. -/
def handOver (x : Executor K R) (numbers : List Nat) : List (Job K R) × Executor K R :=
  let (jobs, hands) := Job.handOver numbers x.hands
  (jobs, { x with hands })

/-- Users get jobs back. -/
def giveBack (x : Executor K R) (jobs : List (Job K R)) : Executor K R :=
  { x with hands := x.hands ++ jobs }

/-- Execute a job, whatever its state and its rank are. -/
def execute (x : Executor K R) (job : Job K R) : Except ExecutorError Unit × Executor K R :=
  if x.stopped then (.error .shutDown, x)
  else (.ok (), { x with submitted := x.submitted + 1, queue := x.queue.add job })

/-- Refresh the pending jobs, cancel those that a test accepts, add others as they are and sort. The
cancelled jobs are returned in the order in which they would have been run. -/
def executeAndCancel [Ord R] (ranker : Job K R → R) (x : Executor K R) (jobs : List (Job K R))
    (test : Test (Job K R) S) (s : S) : Except ExecutorError (List (Job K R)) × Executor K R :=
  if x.stopped then (.error .shutDown, x)
  else
    let refreshed := x.queue.changeAll (fun job (_ : Unit) => (job.refresh ranker, ())) ()
    let (removed, kept) := refreshed.removeIf test s
    (.ok removed,
      { x.moveAll .cancelled removed with
        queue := (kept.addAll jobs).sort Job.byRank
        submitted := x.submitted + .ofNat jobs.length
        cancelled := x.cancelled + .ofNat removed.length })

/-- What the test of `executeAndCancel` remembers in the end; an executor that was shut down shows it
nothing. -/
def remembered (ranker : Job K R → R) (x : Executor K R) (test : Test (Job K R) S) (s : S) : S :=
  if x.stopped then s
  else (x.queue.changeAll (fun job (_ : Unit) => (job.refresh ranker, ())) ()).remembered test s

/-- Accept no more jobs. The pending ones will still be run. -/
def shutdown (x : Executor K R) : Executor K R :=
  { x with stopped := true, queue := x.queue.close }

/-- Accept no more jobs and cancel the pending ones, which are returned in the order in which they
would have been run. -/
def shutdownNow (x : Executor K R) : List (Job K R) × Executor K R :=
  let stopped := x.shutdown
  let (drained, left) := stopped.queue.drainAll
  (drained,
    { stopped.moveAll .cancelled drained with
      queue := left
      cancelled := stopped.cancelled + .ofNat drained.length })

/-- An idle worker takes the job at the front and begins to run it. It exits if the queue has ended;
while the queue is only empty it goes on waiting. -/
def takeJob (x : Executor K R) (worker : Nat) : Executor K R :=
  match x.workers[worker]? with
  | some .idle =>
    match x.queue.take with
    | (.element job, rest) =>
      { x.move .running job.number with
        queue := rest
        workers := x.workers.set worker (.holding job)
        ran := x.ran ++ [job.number] }
    | (.ended, _) => { x with workers := x.workers.set worker .exited }
    | (.waits, _) => x
  | _ => x

/-- The body of the job that a worker holds ends. -/
def finishJob (x : Executor K R) (worker : Nat) : Executor K R :=
  match x.workers[worker]? with
  | some (.holding job) =>
    let moved := x.move (.ofOutcome job.body) job.number
    let workers := x.workers.set worker .idle
    match job.body with
    | .returned => { moved with workers, completed := x.completed + 1 }
    | .panicked => { moved with workers, panicked := x.panicked + 1 }
  | _ => x

/-- Whether every worker has exited. -/
def terminated [DecidableEq K] [DecidableEq R] (x : Executor K R) : Bool :=
  x.workers.all fun worker => worker = .exited

end Executor

end Vicinity

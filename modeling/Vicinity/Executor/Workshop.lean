import Vicinity.Executor.Events
import Vicinity.Table

/-! # Executors that can be held

A workshop is an executor whose jobs take their ranks from one table, and whose workers can be held:
a gate is a job that does not end before it is released, and there is one for every worker. A gate
has no key. While the gates are held, jobs pile up; otherwise the workers run whatever is pending,
and `settle` lets them do so until nothing is left.
-/

namespace Vicinity

/-- The ranks of jobs by their keys; a key without one has rank zero. -/
abbrev RankTable (K : Type) := Table K Int

def RankTable.rank {K : Type} [DecidableEq K] (ranks : RankTable K) (key : K) : Int :=
  (ranks.get? key).getD 0

/-- What a job is made from: its key, the rank to note for the key beforehand, if any, and how its
body will end. -/
structure WorkOrder (K : Type) where
  key : K
  rank : Option Int
  body : Outcome
deriving DecidableEq, Repr, Inhabited

structure Workshop (K : Type) where
  executor : Executor (Option K) Int
  ranks : RankTable K
  held : Bool

/-- Why gates cannot be set. -/
inductive GateError where
  | alreadyHeld
  | refused (error : ExecutorError)
deriving DecidableEq, Repr, Inhabited

namespace Workshop

variable {K S : Type}

def new (workers : Nat) : Workshop K := ⟨.new workers, ∅, false⟩

/-- All jobs with their states, in the order of making; gates are left out. -/
def tasks (w : Workshop K) : List (K × TaskState) :=
  w.executor.records.filterMap fun record => record.key.map fun key => (key, record.state)

/-- The keys of the jobs whose bodies were run, gates left out. -/
def ranKeys (w : Workshop K) : List K :=
  w.executor.ran.filterMap fun number => w.executor.records[number]?.bind TaskRecord.key

/-- The keys of some jobs, gates left out. -/
def keys (jobs : List (Job (Option K) Int)) : List K := jobs.filterMap Job.key

/-! ## Workers -/

/-- The first worker that is idle. -/
def idleWorker? (w : Workshop K) : Option Nat :=
  w.executor.workers.findIdx? fun worker =>
    match worker with
    | .idle => true
    | _ => false

/-- Let idle workers run pending jobs, for so many jobs. -/
def work : Nat → Workshop K → Workshop K
  | 0, w => w
  | jobs + 1, w =>
    match w.idleWorker? with
    | none => w
    | some worker =>
      work jobs { w with executor := (w.executor.takeJob worker).finishJob worker }

/-- The numbers of the workers. -/
def workers (w : Workshop K) : List Nat := List.range w.executor.poolSize

/-- Let the workers run until nothing is pending; those for whom the queue has ended exit. Held
workers run nothing. -/
def settle (w : Workshop K) : Workshop K :=
  let done := work w.executor.queued w
  if done.held then done
  else { done with executor := done.workers.foldl Executor.takeJob done.executor }

/-! ## Gates -/

/-- Make a job and hand it in. -/
def submitNew (x : Executor (Option K) Int) (order : JobOrder (Option K) Int) :
    Except ExecutorError Unit × Executor (Option K) Int :=
  (x.make order).submit x.records.length

/-- Give a gate to every worker of a list, one after another. -/
def gateEach : List Nat → Executor (Option K) Int →
    Except ExecutorError Unit × Executor (Option K) Int
  | [], x => (.ok (), x)
  | worker :: rest, x =>
    match submitNew x ⟨none, 0, .returned⟩ with
    | (.ok (), submitted) => gateEach rest (submitted.takeJob worker)
    | (.error e, refused) => (.error e, refused)

/-- Hold every worker. Without workers there is nothing to hold. -/
def gate (w : Workshop K) : Except GateError Unit × Workshop K :=
  if w.held then (.error .alreadyHeld, w)
  else
    match gateEach w.workers w.executor with
    | (.ok (), executor) => (.ok (), { w with executor, held := !w.workers.isEmpty })
    | (.error e, executor) => (.error (.refused e), { w with executor })

/-- Let the held workers go on. -/
def release (w : Workshop K) : Workshop K :=
  if w.held then
    { w with executor := w.workers.foldl Executor.finishJob w.executor, held := false }
  else w

/-- Whether waiting for all workers to exit comes to an end. -/
def canAwaitTermination (w : Workshop K) : Bool := w.executor.stopped && !w.held

/-! ## Jobs -/

def shutdown (w : Workshop K) : Workshop K := { w with executor := w.executor.shutdown }

/-- Shut down and cancel the pending jobs; their keys are returned in running order. -/
def shutdownNow (w : Workshop K) : List K × Workshop K :=
  let (drained, executor) := w.executor.shutdownNow
  (keys drained, { w with executor := executor.giveBack drained })

variable [DecidableEq K]

def setRank (w : Workshop K) (key : K) (rank : Int) : Workshop K :=
  { w with ranks := w.ranks.insert key rank }

/-- Note the rank that an order brings, and rank the job by the table. -/
def place (w : Workshop K) (order : WorkOrder K) : JobOrder (Option K) Int × Workshop K :=
  let noted := match order.rank with
    | some rank => w.setRank order.key rank
    | none => w
  (⟨some order.key, noted.ranks.rank order.key, order.body⟩, noted)

/-- Place orders one after another. -/
def placeAll (w : Workshop K) : List (WorkOrder K) → List (JobOrder (Option K) Int) × Workshop K
  | [] => ([], w)
  | order :: rest =>
    let (placed, noted) := w.place order
    let (others, last) := noted.placeAll rest
    (placed :: others, last)

/-- The rank the table has for a job now. -/
def ranker (w : Workshop K) (job : Job (Option K) Int) : Int :=
  match job.key with
  | some key => w.ranks.rank key
  | none => job.rank

def execute (w : Workshop K) (order : WorkOrder K) : Except ExecutorError Unit × Workshop K :=
  let (placed, noted) := w.place order
  let (result, executor) := submitNew noted.executor placed
  (result, { noted with executor })

/-- Refresh, cancel, add and sort; the keys of the cancelled jobs are returned in running order. -/
def executeAndCancel (w : Workshop K) (orders : List (WorkOrder K))
    (test : Test (Job (Option K) Int) S) (s : S) :
    Except ExecutorError (List K) × Workshop K :=
  let (placed, noted) := w.placeAll orders
  let numbers := List.range' noted.executor.records.length placed.length
  let event := .executeAndCancel noted.ranker numbers test s
  let (result, executor) := (placed.foldl Executor.make noted.executor).serve event
  (result.map keys, { noted with executor })

end Workshop

end Vicinity

import Vicinity.Channel.Delivery
import Vicinity.Text.Numeral
import Vicinity.Text.Quoted

/-! # Jobs

A job has a key, by which it can be told apart, and a rank: of two jobs the one with the smaller
rank is to run first. The rank is taken from outside when the job is made, and again when it is
refreshed; in between it does not follow what it was taken from. A job is meant to be queued, then
running, then completed or failed; or queued and then cancelled. Nothing in a job sees to that: whoever
has it may overwrite its state.

A job is in one place at a time. Whoever holds it can hand it over, and then has it no longer.
-/

namespace Vicinity

/-- How far a job has come. -/
inductive TaskState where
  | queued
  | running
  | completed
  | cancelled
  | failed
deriving DecidableEq, Repr, Inhabited

namespace TaskState

def all : List TaskState := [queued, running, completed, cancelled, failed]

def name : TaskState → String
  | queued => "Queued"
  | running => "Running"
  | completed => "Completed"
  | cancelled => "Cancelled"
  | failed => "Failed"

/-- Whether nothing more will happen to the job. -/
def isTerminal : TaskState → Bool
  | queued | running => false
  | completed | cancelled | failed => true

/-- The state in which a body leaves its job. -/
def ofOutcome : Outcome → TaskState
  | .returned => completed
  | .panicked => failed

/-- An observer of the state, as diagnostics show it. -/
def describe (state : TaskState) : String :=
  "TaskHandle \x7b state: " ++ state.name ++ " \x7d"

end TaskState

/-- What a job is made from: its key, its rank at that moment, and how its body will end. -/
structure JobOrder (K R : Type) where
  key : K
  rank : R
  body : Outcome
deriving DecidableEq, Repr, Inhabited

/-- A job, numbered in the order of making. -/
structure Job (K R : Type) where
  number : Nat
  key : K
  rank : R
  body : Outcome
deriving DecidableEq, Repr, Inhabited

namespace Job

variable {K R : Type}

def ofOrder (number : Nat) (order : JobOrder K R) : Job K R :=
  ⟨number, order.key, order.rank, order.body⟩

/-- The job with the rank it would be given now. -/
def refresh (ranker : Job K R → R) (job : Job K R) : Job K R := { job with rank := ranker job }

/-- Jobs are compared by their ranks. -/
def byRank [Ord R] (a b : Job K R) : Ordering := compare a.rank b.rank

/-- The job with a number, and the others. -/
def pick? (number : Nat) : List (Job K R) → Option (Job K R × List (Job K R))
  | [] => none
  | job :: rest =>
    if job.number = number then some (job, rest)
    else (pick? number rest).map fun picked => (picked.1, job :: picked.2)

/-- Hand over the jobs with certain numbers, as far as they are there: those, in the order of their
numbers, and what is left. -/
def handOver : List Nat → List (Job K R) → List (Job K R) × List (Job K R)
  | [], jobs => ([], jobs)
  | number :: rest, jobs =>
    match pick? number jobs with
    | none => handOver rest jobs
    | some (job, others) =>
      let (later, left) := handOver rest others
      (job :: later, left)

/-- A job and its state, as diagnostics show them. -/
def describe (job : Job String Int) (state : TaskState) : String :=
  "RankedJob \x7b key: " ++ Text.quoted job.key ++ ", rank: " ++ Numeral.integer job.rank ++
    ", state: " ++ state.name ++ " \x7d"

end Job

/-- A job in the hands of its owner, who may give it another rank, move it to any state, and run it;
running uses the job up and leaves its state. -/
structure OwnedJob (K R : Type) where
  job : Option (Job K R)
  state : TaskState
deriving DecidableEq, Repr, Inhabited

namespace OwnedJob

variable {K R : Type}

def ofOrder (order : JobOrder K R) : OwnedJob K R := ⟨some (.ofOrder 0 order), .queued⟩

def refresh (ranker : Job K R → R) (owned : OwnedJob K R) : OwnedJob K R :=
  { owned with job := owned.job.map (Job.refresh ranker) }

def moveTo (owned : OwnedJob K R) (state : TaskState) : OwnedJob K R := { owned with state }

/-- Run the job, if it has not been used up: its key, how the body ended, and what is left. -/
def run (owned : OwnedJob K R) : Option (K × Outcome × OwnedJob K R) :=
  owned.job.map fun job => (job.key, job.body, ⟨none, .ofOutcome job.body⟩)

end OwnedJob

end Vicinity

import Vicinity.Executor.Basic

/-! # Events of an executor

Requests of users and steps of workers, in whatever order, are the events of an executor. Users make
jobs and hand in jobs that they hold, told by their numbers; it makes no difference whether a job is
new or has been given back. Nobody can hand in what he does not hold: such numbers are passed over.
What owners do with a job that they hold, other than handing it in, is not among the events.
-/

namespace Vicinity

variable {K R : Type}

/-- What happens to an executor. A test of pending jobs may remember what it was shown. -/
inductive ExecutorEvent (K R : Type) : Type 1 where
  | make (order : JobOrder K R)
  | execute (number : Nat)
  | executeAndCancel {S : Type} (ranker : Job K R → R) (numbers : List Nat)
      (test : Test (Job K R) S) (s : S)
  | shutdown
  | shutdownNow
  | take (worker : Nat)
  | finish (worker : Nat)

/-- The numbers of the jobs that users want to hand in with an event. -/
def ExecutorEvent.numbers : ExecutorEvent K R → List Nat
  | execute number => [number]
  | executeAndCancel _ numbers _ _ => numbers
  | _ => []

namespace Executor

/-- Hand in a job that a user holds. -/
def submit (x : Executor K R) (number : Nat) : Except ExecutorError Unit × Executor K R :=
  match x.handOver [number] with
  | (job :: _, left) => left.execute job
  | ([], left) => (.ok (), left)

variable [Ord R]

/-- What comes of an event: jobs that are given back to the users, or an error. -/
def serve (x : Executor K R) :
    ExecutorEvent K R → Except ExecutorError (List (Job K R)) × Executor K R
  | .make order => (.ok [], x.make order)
  | .execute number => ((x.submit number).1.map fun _ => [], (x.submit number).2)
  | .executeAndCancel ranker numbers test s =>
    let (jobs, left) := x.handOver numbers
    match left.executeAndCancel ranker jobs test s with
    | (.ok removed, after) => (.ok removed, after.giveBack removed)
    | (.error e, after) => (.error e, after)
  | .shutdown => (.ok [], x.shutdown)
  | .shutdownNow => (.ok x.shutdownNow.1, x.shutdownNow.2.giveBack x.shutdownNow.1)
  | .take worker => (.ok [], x.takeJob worker)
  | .finish worker => (.ok [], x.finishJob worker)

end Executor

end Vicinity

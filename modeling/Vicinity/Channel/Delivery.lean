/-! # Delivery

A callback is called in some world, which the call may change; the call either returns or panics.
Delivering a message calls every callback once, one after another, each in the world its predecessor
left. A panic is counted and does not keep the message from the callbacks that follow.
-/

namespace Vicinity

/-- How the call of a callback ended. -/
inductive Outcome where
  | returned
  | panicked
deriving DecidableEq, Repr, Inhabited

/-- What became of one message: the calls that returned and the calls that panicked. -/
structure DeliveryReport where
  delivered : Nat
  failed : Nat
deriving DecidableEq, Repr, Inhabited

namespace DeliveryReport

def none : DeliveryReport := ⟨0, 0⟩

def record (report : DeliveryReport) : Outcome → DeliveryReport
  | .returned => ⟨report.delivered + 1, report.failed⟩
  | .panicked => ⟨report.delivered, report.failed + 1⟩

end DeliveryReport

variable {C W : Type}

/-- Call the callbacks in order, counting onto a report. -/
def deliverFrom (call : C → W → Outcome × W) :
    DeliveryReport → List C → W → DeliveryReport × W
  | report, [], world => (report, world)
  | report, callback :: rest, world =>
    let (outcome, next) := call callback world
    deliverFrom call (report.record outcome) rest next

/-- Call the callbacks in order. -/
def deliverAll (call : C → W → Outcome × W) (callbacks : List C) (world : W) :
    DeliveryReport × W :=
  deliverFrom call .none callbacks world

private theorem deliverFrom_total (call : C → W → Outcome × W) (report : DeliveryReport)
    (callbacks : List C) (world : W) :
    (deliverFrom call report callbacks world).1.delivered +
        (deliverFrom call report callbacks world).1.failed =
      report.delivered + report.failed + callbacks.length := by
  induction callbacks generalizing report world with
  | nil => rfl
  | cons callback rest ih =>
    simp only [deliverFrom, ih, List.length_cons]
    cases (call callback world).1 <;> simp only [DeliveryReport.record] <;> omega

/-- Every callback is counted once. -/
theorem deliverAll_total (call : C → W → Outcome × W) (callbacks : List C) (world : W) :
    (deliverAll call callbacks world).1.delivered + (deliverAll call callbacks world).1.failed =
      callbacks.length := by
  have total := deliverFrom_total call .none callbacks world
  simp only [DeliveryReport.none, Nat.zero_add] at total
  exact total

/-- A call that leaves the world alone but for noting that it was made. -/
def noting (outcomeOf : C → Outcome) (callback : C) (made : List C) : Outcome × List C :=
  (outcomeOf callback, made ++ [callback])

end Vicinity

import Vicinity.Channel.Delivery

/-! # Runs of callbacks

A delivery leaves its world as one call after another leaves it: `runAll` is that run without the
counting. Calls that do alike in related worlds deliver alike; in particular calls that only touch one
part of their world deliver on that part alone, and the rest of the world stays as it was.
-/

namespace Vicinity

variable {C E J V W : Type}

/-- The world after a row of calls. -/
def runAll (call : C → W → Outcome × W) (callbacks : List C) (world : W) : W :=
  callbacks.foldl (fun w callback => (call callback w).2) world

theorem runAll_append (call : C → W → Outcome × W) (first second : List C) (world : W) :
    runAll call (first ++ second) world = runAll call second (runAll call first world) :=
  List.foldl_append

theorem runAll_map (call : C → W → Outcome × W) (f : E → C) (entries : List E) (world : W) :
    runAll call (entries.map f) world = runAll (fun entry => call (f entry)) entries world :=
  List.foldl_map

private theorem deliverFrom_snd (call : C → W → Outcome × W) (report : DeliveryReport)
    (callbacks : List C) (world : W) :
    (deliverFrom call report callbacks world).2 = runAll call callbacks world := by
  induction callbacks generalizing report world with
  | nil => rfl
  | cons callback rest ih => exact ih _ _

/-- Delivering calls every callback once, in order. -/
theorem deliverAll_snd (call : C → W → Outcome × W) (callbacks : List C) (world : W) :
    (deliverAll call callbacks world).2 = runAll call callbacks world :=
  deliverFrom_snd call _ callbacks world

/-- How the calls of a row end. -/
def outcomes (call : C → W → Outcome × W) : List C → W → List Outcome
  | [], _ => []
  | callback :: rest, world =>
    let (outcome, next) := call callback world
    outcome :: outcomes call rest next

/-- Calls that end alike in every world end so one by one. -/
theorem outcomes_eq_map {call : C → W → Outcome × W} {outcome : C → Outcome}
    (fixed : ∀ callback world, (call callback world).1 = outcome callback) (callbacks : List C)
    (world : W) : outcomes call callbacks world = callbacks.map outcome := by
  induction callbacks generalizing world with
  | nil => rfl
  | cons callback rest ih => simp only [outcomes, fixed, ih, List.map_cons]

private theorem deliverFrom_failed (call : C → W → Outcome × W) (report : DeliveryReport)
    (callbacks : List C) (world : W) :
    (deliverFrom call report callbacks world).1.failed =
      report.failed + (outcomes call callbacks world).count .panicked := by
  induction callbacks generalizing report world with
  | nil => rfl
  | cons callback rest ih =>
    simp only [deliverFrom, outcomes, ih, List.count_cons]
    cases (call callback world).1 with
    | returned => rfl
    | panicked =>
      simp only [DeliveryReport.record, BEq.rfl, ↓reduceIte]
      omega

/-- The calls that panicked are counted as failed. -/
theorem deliverAll_failed (call : C → W → Outcome × W) (callbacks : List C) (world : W) :
    (deliverAll call callbacks world).1.failed =
      (outcomes call callbacks world).count .panicked := by
  rw [deliverAll, deliverFrom_failed, DeliveryReport.none, Nat.zero_add]

theorem length_outcomes (call : C → W → Outcome × W) (callbacks : List C) (world : W) :
    (outcomes call callbacks world).length = callbacks.length := by
  induction callbacks generalizing world with
  | nil => rfl
  | cons callback rest ih => simp only [outcomes, List.length_cons, ih]

/-- A call that did not panic has returned. -/
theorem count_outcomes (list : List Outcome) :
    list.count .returned + list.count .panicked = list.length := by
  induction list with
  | nil => rfl
  | cons outcome rest ih => cases outcome <;> simp <;> omega

/-- The calls that returned are counted as delivered. -/
theorem deliverAll_delivered (call : C → W → Outcome × W) (callbacks : List C) (world : W) :
    (deliverAll call callbacks world).1.delivered =
      (outcomes call callbacks world).count .returned := by
  have total := deliverAll_total call callbacks world
  have failed := deliverAll_failed call callbacks world
  have ends := count_outcomes (outcomes call callbacks world)
  rw [length_outcomes] at ends
  omega

private theorem deliverFrom_map (call : C → W → Outcome × W) (f : E → C) (report : DeliveryReport)
    (entries : List E) (world : W) :
    deliverFrom call report (entries.map f) world =
      deliverFrom (fun entry => call (f entry)) report entries world := by
  induction entries generalizing report world with
  | nil => rfl
  | cons entry rest ih => exact ih _ _

theorem deliverAll_map (call : C → W → Outcome × W) (f : E → C) (entries : List E) (world : W) :
    deliverAll call (entries.map f) world = deliverAll (fun entry => call (f entry)) entries world :=
  deliverFrom_map call f _ entries world

private theorem deliverFrom_related {R : W → V → Prop} {call : C → W → Outcome × W}
    {other : C → V → Outcome × V} (report : DeliveryReport) {callbacks : List C}
    (alike : ∀ callback ∈ callbacks, ∀ w v, R w v →
      (call callback w).1 = (other callback v).1 ∧ R (call callback w).2 (other callback v).2)
    {w : W} {v : V} (start : R w v) :
    (deliverFrom call report callbacks w).1 = (deliverFrom other report callbacks v).1 ∧
      R (deliverFrom call report callbacks w).2 (deliverFrom other report callbacks v).2 := by
  induction callbacks generalizing report w v with
  | nil => exact ⟨rfl, start⟩
  | cons callback rest ih =>
    obtain ⟨ends, related⟩ := alike callback (List.mem_cons_self ..) w v start
    simp only [deliverFrom, ← ends]
    exact ih _ (fun later member => alike later (List.mem_cons_of_mem _ member)) related

/-- Calls that end alike in related worlds, and leave related worlds, deliver alike. -/
theorem deliverAll_related {R : W → V → Prop} {call : C → W → Outcome × W}
    {other : C → V → Outcome × V} {callbacks : List C}
    (alike : ∀ callback ∈ callbacks, ∀ w v, R w v →
      (call callback w).1 = (other callback v).1 ∧ R (call callback w).2 (other callback v).2)
    {w : W} {v : V} (start : R w v) :
    (deliverAll call callbacks w).1 = (deliverAll other callbacks v).1 ∧
      R (deliverAll call callbacks w).2 (deliverAll other callbacks v).2 :=
  deliverFrom_related .none alike start

/-- Calls that act on an embedded part of their world deliver on that part. -/
theorem deliverAll_embed (call : C → W → Outcome × W) (run : C → J → Outcome × J) (embed : J → W)
    (commutes : ∀ callback j, call callback (embed j) = (run callback j).map id embed)
    (callbacks : List C) (journal : J) :
    deliverAll call callbacks (embed journal) = (deliverAll run callbacks journal).map id embed := by
  have alike : ∀ callback ∈ callbacks, ∀ w j, w = embed j →
      (call callback w).1 = (run callback j).1 ∧ (call callback w).2 = embed (run callback j).2 := by
    rintro callback - _ j rfl
    rw [commutes]
    exact ⟨rfl, rfl⟩
  obtain ⟨report, world⟩ := deliverAll_related alike rfl
  exact Prod.ext report world

end Vicinity

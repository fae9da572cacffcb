import Mathlib.Algebra.BigOperators.Group.List.Basic
import Vicinity.Proofs.Delivery
import Vicinity.Proofs.Network.Course

/-! # Logs in numbers

A log says how often a node was asked to publish, how often that came to nothing, how many
subscribers the node found, and how its calls ended. All of these add up over parts of a log, in
whatever order they stand.
-/

namespace Vicinity

variable {T S C J M W : Type}

namespace Incident

/-- A publication on a node. -/
def isPublished (n : Nat) : Incident → Bool
  | published m _ => m == n
  | handed .. | ended .. => false

/-- A publication on a node that comes to nothing. -/
def isDropped (n : Nat) : Incident → Bool
  | published m fate => m == n && fate.isDropped
  | handed .. | ended .. => false

/-- How many subscribers a node finds for a publication inside the process. -/
def heardAt (n : Nat) : Incident → Nat
  | published m fate => if m = n then fate.audience else 0
  | handed .. | ended .. => 0

/-- How many subscribers a node finds for a frame. -/
def handedAt (n : Nat) : Incident → Nat
  | handed m audience => if m = n then audience else 0
  | published .. | ended .. => 0

end Incident

open Incident

/-- The counters of a node, from a log. -/
def tally (n : Nat) (log : List Incident) : BrokerMetrics where
  published := .ofNat (log.countP (isPublished n))
  dropped := .ofNat (log.countP (isDropped n))
  delivered := .ofNat (log.count (.ended n .returned))
  failed := .ofNat (log.count (.ended n .panicked))

/-- The subscribers that a node finds, taken together. -/
def audiences (n : Nat) (log : List Incident) : Nat :=
  (log.map (heardAt n)).sum + (log.map (handedAt n)).sum

/-- The calls of a node that have ended. -/
def ends (n : Nat) (log : List Incident) : Nat :=
  log.count (.ended n .returned) + log.count (.ended n .panicked)

theorem tally_nil (n : Nat) : tally n [] = .zero := rfl

theorem tally_append (n : Nat) (log later : List Incident) :
    tally n (log ++ later) = (tally n log).plus (tally n later) := by
  simp [tally, BrokerMetrics.plus, List.countP_append, List.count_append, UInt64.ofNat_add]

theorem tally_perm (n : Nat) {log other : List Incident} (perm : log.Perm other) :
    tally n log = tally n other := by
  simp only [tally, perm.countP_eq, perm.count_eq]

theorem audiences_append (n : Nat) (log later : List Incident) :
    audiences n (log ++ later) = audiences n log + audiences n later := by
  simp only [audiences, List.map_append, List.sum_append]
  omega

theorem audiences_perm (n : Nat) {log other : List Incident} (perm : log.Perm other) :
    audiences n log = audiences n other := by
  rw [audiences, audiences, (perm.map _).sum_eq, (perm.map _).sum_eq]

theorem ends_append (n : Nat) (log later : List Incident) :
    ends n (log ++ later) = ends n log + ends n later := by
  simp only [ends, List.count_append]
  omega

theorem ends_perm (n : Nat) {log other : List Incident} (perm : log.Perm other) :
    ends n log = ends n other := by
  rw [ends, ends, perm.count_eq, perm.count_eq]

theorem tally_published (n m : Nat) (fate : Fate) :
    tally n [.published m fate] = if m = n then .ofFate fate else .zero := by
  by_cases same : m = n
  · cases dropped : fate.isDropped <;>
      simp [tally, BrokerMetrics.ofFate, isPublished, isDropped, same, dropped]
  · simp [tally, BrokerMetrics.zero, isPublished, isDropped, same]

theorem tally_handed (n m audience : Nat) : tally n [.handed m audience] = .zero := rfl

theorem count_ended (n m : Nat) (outcome : Outcome) (list : List Outcome) :
    (list.map (Incident.ended m)).count (.ended n outcome) =
      if m = n then list.count outcome else 0 := by
  by_cases same : m = n
  · subst same
    have distinct : Function.Injective (Incident.ended m) := fun _ _ equal => by cases equal; rfl
    rw [if_pos rfl, List.count_map_of_injective list _ distinct]
  · rw [if_neg same, List.count_eq_zero]
    intro member
    obtain ⟨other, -, equal⟩ := List.mem_map.mp member
    cases equal
    exact same rfl

/-- The ends of a round are counted as its report says, at the node that makes the calls. -/
theorem tally_ends (n m : Nat) (call : C → W → Outcome × W) (callbacks : List C) (world : W) :
    tally n ((outcomes call callbacks world).map (.ended m)) =
      if m = n then .ofReport (deliverAll call callbacks world).1 else .zero := by
  have none (p : Incident → Bool) (silent : ∀ outcome, p (.ended m outcome) = false) :
      ((outcomes call callbacks world).map (Incident.ended m)).countP p = 0 := by
    rw [List.countP_eq_zero]
    intro incident member
    obtain ⟨outcome, -, rfl⟩ := List.mem_map.mp member
    rw [silent]
    exact Bool.false_ne_true
  rw [tally, none _ fun _ => rfl, none _ fun _ => rfl, count_ended, count_ended]
  by_cases same : m = n
  · simp only [if_pos same, BrokerMetrics.ofReport, deliverAll_failed, deliverAll_delivered]
    rfl
  · simp only [if_neg same]
    rfl

theorem ends_outcomes (m n : Nat) (list : List Outcome) :
    ends m (list.map (.ended n)) = if n = m then list.length else 0 := by
  rw [ends, count_ended, count_ended, ← count_outcomes]
  split <;> rfl

theorem audiences_outcomes (m n : Nat) (list : List Outcome) :
    audiences m (list.map (.ended n)) = 0 := by
  induction list with
  | nil => rfl
  | cons outcome rest ih => simpa [audiences, heardAt, handedAt] using ih

/-- A publication comes to nothing for one of four reasons. -/
theorem countP_isDropped (n : Nat) (log : List Incident) :
    log.countP (isDropped n) =
      log.count (.published n .unheard) + log.count (.published n .closed) +
        log.count (.published n .unencodable) + log.count (.published n .refused) := by
  induction log with
  | nil => rfl
  | cons incident rest ih =>
    rw [List.countP_cons, ih]
    simp only [List.count_cons]
    cases incident with
    | handed | ended => rfl
    | published m fate =>
      by_cases same : m = n
      · cases fate <;> simp [isDropped, Fate.isDropped, same] <;> omega
      · simp [isDropped, same]

/-- Counters that tell how many publications there were, how many of them were dropped and how many
calls returned or panicked, where as many calls are due as there were subscribers. -/
structure BrokerMetrics.Balances (m : BrokerMetrics)
    (published dropped returned panicked audience : Nat) : Prop where
  published : m.published = .ofNat published
  dropped : m.dropped = .ofNat dropped
  delivered : m.delivered = .ofNat returned
  failed : m.failed = .ofNat panicked
  called : returned + panicked = audience
  total : audience < UInt64.size → m.delivered.toNat + m.failed.toNat = audience

theorem balances_tally {n : Nat} {log : List Incident} {dropped audience : Nat}
    (sum : log.countP (isDropped n) = dropped)
    (called : log.count (.ended n .returned) + log.count (.ended n .panicked) = audience) :
    (tally n log).Balances (log.countP (isPublished n)) dropped (log.count (.ended n .returned))
      (log.count (.ended n .panicked)) audience where
  published := rfl
  dropped := congrArg UInt64.ofNat sum
  delivered := rfl
  failed := rfl
  called := called
  total small := by
    rw [← called]
    exact congrArg₂ (· + ·) (UInt64.toNat_ofNat_of_lt' (by omega))
      (UInt64.toNat_ofNat_of_lt' (by omega))

end Vicinity

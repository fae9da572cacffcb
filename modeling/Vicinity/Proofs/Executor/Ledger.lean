import Mathlib.Data.List.Nodup
import Mathlib.Logic.Function.Basic
import Mathlib.Logic.Relation
import Vicinity.Executor.Job

/-! # Ledgers of jobs

For the life of a job neither its rank nor its key matters: a job is a number that users hold, that
waits in a queue, or that a worker has begun with; and if it was refused it is nowhere. A ledger keeps
the numbers and their states, and every step of an executor comes to one of six entries in it:
nothing, a job that is made, jobs that are refused, pending jobs that are cancelled and given back
while others are accepted, a job that a worker begins with, and a job that ends.

Nothing in an executor keeps a state from being overwritten. What keeps the states in order is where
the jobs are. `Balanced` counts each number over all places: a job is in one place at most, so its
body is run at most once; and every acceptance of it has led to its coming back, its waiting or its
being run. The same job may be accepted again whenever it has come back.
-/

namespace Vicinity

/-- Whether the body of a job in this state has been run, or is being run. -/
def TaskState.hasRun : TaskState → Bool
  | running | completed | failed => true
  | queued | cancelled => false

/-- How far a job has come: its state, and whether it has ever come back to a user. -/
structure Progress where
  state : TaskState
  back : Bool

namespace Progress

open TaskState

/-- The moves that a job can make. A job that has come back may be run nevertheless, if it is handed
in again. -/
inductive Next : Progress → Progress → Prop
  | start : Next ⟨queued, false⟩ ⟨running, false⟩
  | cancel : Next ⟨queued, false⟩ ⟨cancelled, true⟩
  | again : Next ⟨cancelled, true⟩ ⟨running, true⟩
  | finish (back : Bool) (outcome : Outcome) : Next ⟨running, back⟩ ⟨ofOutcome outcome, back⟩

/-- The states that a job has been in before, one after another. -/
def past : Progress → List TaskState
  | ⟨queued, _⟩ => []
  | ⟨cancelled, _⟩ => [queued]
  | ⟨running, back⟩ => if back then [queued, cancelled] else [queued]
  | ⟨completed, back⟩ | ⟨failed, back⟩ =>
    if back then [queued, cancelled, running] else [queued, running]

/-- The states that a job has been in, the present one included. -/
def life (p : Progress) : List TaskState := p.past ++ [p.state]

variable {p next : Progress}

theorem Next.past (move : p.Next next) : next.past = p.life := by
  cases move with
  | start => rfl
  | cancel => rfl
  | again => rfl
  | finish back outcome => cases back <;> cases outcome <;> rfl

theorem Next.ne (move : p.Next next) : p.state ≠ next.state := by
  cases move with
  | start => decide
  | cancel => decide
  | again => decide
  | finish back outcome => cases outcome <;> exact nofun

/-- There are four ways for a job to go. -/
theorem life_prefix (p : Progress) :
    p.life <+: [queued, running, completed] ∨ p.life <+: [queued, running, failed] ∨
      p.life <+: [queued, cancelled, running, completed] ∨
      p.life <+: [queued, cancelled, running, failed] := by
  obtain ⟨state, back⟩ := p
  cases state <;> cases back <;> decide

/-- A job that does not come back, or is not run, goes one of three ways. -/
theorem life_prefix_of_once (once : p.back = false ∨ p.state.hasRun = false) :
    p.life <+: [queued, running, completed] ∨ p.life <+: [queued, running, failed] ∨
      p.life <+: [queued, cancelled] := by
  obtain ⟨state, back⟩ := p
  cases state <;> cases back <;> revert once <;> decide

theorem running_mem_life (p : Progress) : running ∈ p.life ↔ p.state.hasRun = true := by
  obtain ⟨state, back⟩ := p
  cases state <;> cases back <;> decide

/-- A job that has begun to run is never one that has not. -/
theorem Next.hasRun (move : p.Next next) (ran : p.state.hasRun = true) :
    next.state.hasRun = true := by
  cases move with
  | start => rfl
  | cancel => contradiction
  | again => rfl
  | finish back outcome => cases outcome <;> rfl

end Progress

/-- The jobs of an executor by their numbers: how far each has come, where it is, and the counters. -/
@[ext]
structure Ledger where
  /-- How many jobs have been made; they are numbered from zero. -/
  made : Nat
  /-- The state of each job; a job that is yet to be made counts as queued. -/
  state : Nat → TaskState
  hands : List Nat
  waiting : List Nat
  held : List Nat
  ran : List Nat
  submitted : UInt64
  completed : UInt64
  cancelled : UInt64
  panicked : UInt64

namespace Ledger

/-- Count how a body has ended. -/
def recordOutcome (l : Ledger) : Outcome → Ledger
  | .returned => { l with completed := l.completed + 1 }
  | .panicked => { l with panicked := l.panicked + 1 }

/-- What a step enters in a ledger, with the jobs that it accepts and those that come back. -/
inductive Entry (l : Ledger) : List Nat → List Nat → Ledger → Prop
  | still : Entry l [] [] l
  | make : Entry l [] [] { l with made := l.made + 1, hands := l.hands ++ [l.made] }
  | refuse {lost rest : List Nat} (parts : (lost ++ rest).Perm l.hands) :
      Entry l [] [] { l with hands := rest }
  | refresh {new rest removed kept waiting : List Nat} (handed : (new ++ rest).Perm l.hands)
      (parts : (removed ++ kept).Perm l.waiting) (left : waiting.Perm (new ++ kept)) :
      Entry l new removed
        { l with
          state := fun k => if k ∈ removed then .cancelled else l.state k
          hands := rest ++ removed
          waiting
          submitted := l.submitted + .ofNat new.length
          cancelled := l.cancelled + .ofNat removed.length }
  | start {k : Nat} {rest held : List Nat} (first : l.waiting = k :: rest)
      (taken : held.Perm (k :: l.held)) :
      Entry l [] []
        { l with
          state := Function.update l.state k .running
          waiting := rest
          held
          ran := l.ran ++ [k] }
  | finish {k : Nat} {held : List Nat} (outcome : Outcome) (given : l.held.Perm (k :: held)) :
      Entry l [] []
        { l.recordOutcome outcome with
          state := Function.update l.state k (.ofOutcome outcome)
          held }

/-- Where a job is says how far it has come. `accepted` and `returned` have a number as often as its
job has been accepted and has come back. -/
structure Balanced (l : Ledger) (accepted returned : List Nat) : Prop where
  once : ∀ k, l.hands.count k + l.waiting.count k + l.ran.count k ≤ 1
  ways : ∀ k, accepted.count k = returned.count k + l.waiting.count k + l.ran.count k
  known : ∀ k ∈ l.hands ++ accepted, k < l.made
  held_once : l.held.Nodup
  mem_held : ∀ k, k ∈ l.held ↔ l.state k = .running
  mem_ran : ∀ k, k ∈ l.ran ↔ (l.state k).hasRun = true
  mem_cancelled : ∀ k, l.state k = .cancelled ↔ k ∈ returned ∧ k ∉ l.ran

/-- A ledger without jobs. -/
def empty : Ledger := ⟨0, fun _ => .queued, [], [], [], [], 0, 0, 0, 0⟩

theorem balanced_empty : empty.Balanced [] [] := by
  constructor <;> simp [empty, TaskState.hasRun]

variable {l after : Ledger} {accepted returned new removed : List Nat} {k : Nat}

/-! ## One place at most -/

namespace Balanced

variable (balanced : l.Balanced accepted returned)
include balanced

theorem places_once : (l.hands ++ l.waiting ++ l.ran).Nodup := by
  refine List.nodup_iff_count_le_one.mpr fun k => ?_
  rw [List.count_append, List.count_append]
  exact balanced.once k

theorem hands_once : l.hands.Nodup := balanced.places_once.of_append_left.of_append_left

theorem waits_once : l.waiting.Nodup := balanced.places_once.of_append_left.of_append_right

theorem ran_once : l.ran.Nodup := balanced.places_once.of_append_right

theorem not_waiting_of_hands (holds : k ∈ l.hands) : k ∉ l.waiting :=
  List.disjoint_of_nodup_append balanced.places_once.of_append_left holds

theorem not_ran_of_hands (holds : k ∈ l.hands) : k ∉ l.ran :=
  List.disjoint_of_nodup_append balanced.places_once (List.mem_append_left _ holds)

theorem not_ran_of_waiting (waits : k ∈ l.waiting) : k ∉ l.ran :=
  List.disjoint_of_nodup_append balanced.places_once (List.mem_append_right _ waits)

/-- Every acceptance has led to a return, to a job that waits or to one that was run. -/
theorem accepted_perm : accepted.Perm (returned ++ l.waiting ++ l.ran) := by
  refine List.perm_iff_count.mpr fun k => ?_
  rw [List.count_append, List.count_append, balanced.ways]

theorem accepted_of_returned (back : k ∈ returned) : k ∈ accepted :=
  balanced.accepted_perm.mem_iff.mpr (List.mem_append_left _ (List.mem_append_left _ back))

theorem accepted_of_waiting (waits : k ∈ l.waiting) : k ∈ accepted :=
  balanced.accepted_perm.mem_iff.mpr (List.mem_append_left _ (List.mem_append_right _ waits))

theorem accepted_of_ran (ran : k ∈ l.ran) : k ∈ accepted :=
  balanced.accepted_perm.mem_iff.mpr (List.mem_append_right _ ran)

theorem known_of_accepted (member : k ∈ accepted) : k < l.made :=
  balanced.known k (List.mem_append_right _ member)

theorem known_of_hands (holds : k ∈ l.hands) : k < l.made :=
  balanced.known k (List.mem_append_left _ holds)

/-- A job that waits has been made. -/
theorem made_of_waiting (waits : k ∈ l.waiting) : k < l.made :=
  balanced.known_of_accepted (balanced.accepted_of_waiting waits)

theorem ran_of_held (holds : k ∈ l.held) : k ∈ l.ran := by
  rw [balanced.mem_ran, (balanced.mem_held k).mp holds]
  rfl

theorem not_held_of_waiting (waits : k ∈ l.waiting) : k ∉ l.held := fun holds =>
  balanced.not_ran_of_waiting waits (balanced.ran_of_held holds)

theorem not_held_of_hands (holds : k ∈ l.hands) : k ∉ l.held := fun runs =>
  balanced.not_ran_of_hands holds (balanced.ran_of_held runs)

/-- A job that is yet to be made is nowhere. -/
theorem nowhere_of_later (later : l.made ≤ k) : k ∉ l.hands ∧ k ∉ l.waiting ∧ k ∉ l.ran := by
  refine ⟨fun holds => ?_, fun waits => ?_, fun ran => ?_⟩
  · exact absurd (balanced.known_of_hands holds) (Nat.not_lt.mpr later)
  · exact absurd (balanced.made_of_waiting waits) (Nat.not_lt.mpr later)
  · exact absurd (balanced.known_of_accepted (balanced.accepted_of_ran ran)) (Nat.not_lt.mpr later)

/-- A job that has not been run is cancelled if it has ever come back, and otherwise queued. -/
theorem state_of_not_ran (unrun : k ∉ l.ran) :
    l.state k = if k ∈ returned then .cancelled else .queued := by
  split
  case isTrue back => exact (balanced.mem_cancelled k).mpr ⟨back, unrun⟩
  case isFalse absent =>
    have uncancelled : l.state k ≠ .cancelled := fun cancelled =>
      absent ((balanced.mem_cancelled k).mp cancelled).1
    have never : ¬ (l.state k).hasRun = true := fun ran => unrun ((balanced.mem_ran k).mpr ran)
    cases state : l.state k with
    | queued => rfl
    | cancelled => exact absurd state uncancelled
    | running | completed | failed =>
      rw [state] at never
      exact absurd rfl never

/-- A job that has been run and is not held has ended. -/
theorem ended_of_ran (ran : k ∈ l.ran) (given : k ∉ l.held) :
    l.state k = .completed ∨ l.state k = .failed := by
  have begun := (balanced.mem_ran k).mp ran
  rw [balanced.mem_held] at given
  cases state : l.state k with
  | completed => exact .inl rfl
  | failed => exact .inr rfl
  | running => exact absurd state given
  | queued | cancelled =>
    rw [state] at begun
    contradiction

/-! ## Entries -/

theorem make : Balanced { l with made := l.made + 1, hands := l.hands ++ [l.made] }
    accepted returned := by
  obtain ⟨unheld, unqueued, unrun⟩ := balanced.nowhere_of_later (Nat.le_refl l.made)
  refine { balanced with once := fun k => ?once, known := fun k member => ?known }
  case once =>
    have once := balanced.once k
    dsimp only
    rw [List.count_append, List.count_singleton]
    split
    case isTrue same =>
      obtain rfl := beq_iff_eq.mp same
      have hands := List.count_eq_zero.mpr unheld
      have waiting := List.count_eq_zero.mpr unqueued
      have ran := List.count_eq_zero.mpr unrun
      omega
    case isFalse => omega
  case known =>
    dsimp only at member ⊢
    rcases List.mem_append.mp member with holds | old
    · rcases List.mem_append.mp holds with held | young
      · exact Nat.lt_succ_of_lt (balanced.known_of_hands held)
      · rw [List.mem_singleton.mp young]
        exact Nat.lt_succ_self _
    · exact Nat.lt_succ_of_lt (balanced.known_of_accepted old)

theorem refuse {lost rest : List Nat} (parts : (lost ++ rest).Perm l.hands) :
    Balanced { l with hands := rest } accepted returned := by
  refine { balanced with once := fun k => ?once, known := fun k member => ?known }
  case once =>
    have once := balanced.once k
    have split := parts.count_eq k
    rw [List.count_append] at split
    dsimp only
    omega
  case known =>
    rcases List.mem_append.mp member with holds | old
    · exact balanced.known_of_hands (parts.mem_iff.mp (List.mem_append_right _ holds))
    · exact balanced.known_of_accepted old

/-- Cancelled jobs go from the queue to the users, others come in their place, and what a worker has
is left alone. -/
theorem refresh {rest kept waiting : List Nat} (handed : (new ++ rest).Perm l.hands)
    (parts : (removed ++ kept).Perm l.waiting) (left : waiting.Perm (new ++ kept))
    (submitted cancelled : UInt64) :
    Balanced
      { l with
        state := fun k => if k ∈ removed then .cancelled else l.state k
        hands := rest ++ removed
        waiting, submitted, cancelled } (accepted ++ new) (returned ++ removed) := by
  have waited {k : Nat} (member : k ∈ removed) : k ∈ l.waiting :=
    parts.mem_iff.mp (List.mem_append_left _ member)
  have unrun {k : Nat} (member : k ∈ removed) : k ∉ l.ran :=
    balanced.not_ran_of_waiting (waited member)
  have counts (k : Nat) : new.count k + rest.count k = l.hands.count k ∧
      removed.count k + kept.count k = l.waiting.count k ∧
      waiting.count k = new.count k + kept.count k := by
    have first := handed.count_eq k
    have second := parts.count_eq k
    have third := left.count_eq k
    rw [List.count_append] at first second third
    exact ⟨first, second, third⟩
  constructor
  case once =>
    intro k
    obtain ⟨first, second, third⟩ := counts k
    have once := balanced.once k
    dsimp only
    rw [List.count_append]
    omega
  case ways =>
    intro k
    obtain ⟨-, second, third⟩ := counts k
    have ways := balanced.ways k
    dsimp only
    rw [List.count_append, List.count_append]
    omega
  case known =>
    intro k member
    rcases List.mem_append.mp member with holds | known
    · rcases List.mem_append.mp holds with stays | back
      · exact balanced.known_of_hands (handed.mem_iff.mp (List.mem_append_right _ stays))
      · exact balanced.made_of_waiting (waited back)
    · rcases List.mem_append.mp known with old | young
      · exact balanced.known_of_accepted old
      · exact balanced.known_of_hands (handed.mem_iff.mp (List.mem_append_left _ young))
  case held_once => exact balanced.held_once
  case mem_held =>
    intro k
    dsimp only
    split
    case isTrue member =>
      exact iff_of_false (balanced.not_held_of_waiting (waited member)) nofun
    case isFalse => exact balanced.mem_held k
  case mem_ran =>
    intro k
    dsimp only
    split
    case isTrue member => exact iff_of_false (unrun member) nofun
    case isFalse => exact balanced.mem_ran k
  case mem_cancelled =>
    intro k
    dsimp only
    split
    case isTrue member =>
      exact iff_of_true rfl ⟨List.mem_append_right _ member, unrun member⟩
    case isFalse stays => rw [balanced.mem_cancelled, List.mem_append, or_iff_left stays]

/-- A job that a worker begins with has been waiting, and is held from then on. -/
theorem start {rest held : List Nat} (first : l.waiting = k :: rest)
    (taken : held.Perm (k :: l.held)) :
    Balanced
      { l with
        state := Function.update l.state k .running
        waiting := rest
        held
        ran := l.ran ++ [k] } accepted returned := by
  have waits : k ∈ l.waiting := by
    rw [first]
    exact List.mem_cons_self ..
  have counts (j : Nat) : rest.count j + (l.ran ++ [k]).count j =
      l.waiting.count j + l.ran.count j := by
    rw [first, List.count_cons, List.count_append, List.count_singleton]
    omega
  constructor
  case once =>
    intro j
    have once := balanced.once j
    have moved := counts j
    dsimp only
    omega
  case ways =>
    intro j
    have ways := balanced.ways j
    have moved := counts j
    dsimp only
    omega
  case known => exact balanced.known
  case held_once =>
    rw [taken.nodup_iff, List.nodup_cons]
    exact ⟨balanced.not_held_of_waiting waits, balanced.held_once⟩
  case mem_held =>
    intro j
    dsimp only
    rw [taken.mem_iff, List.mem_cons, Function.update_apply]
    split
    case isTrue same => exact iff_of_true (.inl same) rfl
    case isFalse different => rw [or_iff_right different, balanced.mem_held]
  case mem_ran =>
    intro j
    dsimp only
    rw [List.mem_append, List.mem_singleton, Function.update_apply]
    split
    case isTrue same => exact iff_of_true (.inr same) rfl
    case isFalse different => rw [or_iff_left different, balanced.mem_ran]
  case mem_cancelled =>
    intro j
    dsimp only
    rw [List.mem_append, List.mem_singleton, Function.update_apply]
    split
    case isTrue same => exact iff_of_false nofun fun both => both.2 (.inr same)
    case isFalse different => rw [or_iff_left different, balanced.mem_cancelled]

/-- A job that ends is no longer held. -/
theorem finish {held : List Nat} (outcome : Outcome) (given : l.held.Perm (k :: held)) :
    Balanced
      { l.recordOutcome outcome with
        state := Function.update l.state k (.ofOutcome outcome)
        held } accepted returned := by
  have holds : k ∈ l.held := given.mem_iff.mpr (List.mem_cons_self ..)
  obtain ⟨gone, held_once⟩ := List.nodup_cons.mp (given.nodup_iff.mp balanced.held_once)
  have counted : { l.recordOutcome outcome with
      state := Function.update l.state k (.ofOutcome outcome), held } =
      { l with
        state := Function.update l.state k (.ofOutcome outcome), held
        completed := (l.recordOutcome outcome).completed
        panicked := (l.recordOutcome outcome).panicked } := by
    cases outcome <;> rfl
  rw [counted]
  constructor
  case once => exact balanced.once
  case ways => exact balanced.ways
  case known => exact balanced.known
  case held_once => exact held_once
  case mem_held =>
    intro j
    have before := balanced.mem_held j
    rw [given.mem_iff, List.mem_cons] at before
    dsimp only
    rw [Function.update_apply]
    split
    case isTrue same =>
      refine iff_of_false (same ▸ gone) ?_
      cases outcome <;> exact nofun
    case isFalse different => rw [← before, or_iff_right different]
  case mem_ran =>
    intro j
    dsimp only
    rw [Function.update_apply]
    split
    case isTrue same =>
      refine iff_of_true (same ▸ balanced.ran_of_held holds) ?_
      cases outcome <;> rfl
    case isFalse => exact balanced.mem_ran j
  case mem_cancelled =>
    intro j
    dsimp only
    rw [Function.update_apply]
    split
    case isTrue same =>
      refine iff_of_false ?_ fun both => both.2 (same ▸ balanced.ran_of_held holds)
      cases outcome <;> exact nofun
    case isFalse => exact balanced.mem_cancelled j

/-- Every entry keeps a ledger balanced. -/
theorem entry (entry : l.Entry new removed after) :
    after.Balanced (accepted ++ new) (returned ++ removed) := by
  cases entry with
  | refresh handed parts left => exact balanced.refresh handed parts left _ _
  | still =>
    rw [List.append_nil, List.append_nil]
    exact balanced
  | make =>
    rw [List.append_nil, List.append_nil]
    exact balanced.make
  | refuse parts =>
    rw [List.append_nil, List.append_nil]
    exact balanced.refuse parts
  | start first taken =>
    rw [List.append_nil, List.append_nil]
    exact balanced.start first taken
  | finish outcome given =>
    rw [List.append_nil, List.append_nil]
    exact balanced.finish outcome given

end Balanced

/-! ## What an entry changes -/

/-- How far a job has come by a ledger, if certain jobs have come back. -/
def progress (l : Ledger) (returned : List Nat) (k : Nat) : Progress :=
  ⟨l.state k, decide (k ∈ returned)⟩

/-- A job that is accepted once at most has not come back if it was run. -/
theorem Balanced.once_of_count (balanced : l.Balanced accepted returned)
    (few : accepted.count k ≤ 1) :
    (l.progress returned k).back = false ∨ (l.progress returned k).state.hasRun = false := by
  by_cases back : k ∈ returned
  · right
    refine Bool.eq_false_iff.mpr fun ran => ?_
    have ways := balanced.ways k
    have came := List.count_pos_iff.mpr back
    have begun := List.count_pos_iff.mpr ((balanced.mem_ran k).mpr ran)
    omega
  · exact .inl (decide_eq_false back)

/-- The body of a job has been run once if its state says so. -/
theorem Balanced.count_ran (balanced : l.Balanced accepted returned) (k : Nat) :
    l.ran.count k = 1 ↔ (l.state k).hasRun = true := by
  rw [← balanced.mem_ran]
  constructor
  · intro one
    exact List.count_pos_iff.mp (one ▸ Nat.one_pos)
  · exact List.count_eq_one_of_mem balanced.ran_once

/-- An entry leaves a job as it is, or moves it on. -/
theorem Balanced.moves (balanced : l.Balanced accepted returned)
    (entry : l.Entry new removed after) (k : Nat) :
    after.progress (returned ++ removed) k = l.progress returned k ∨
      (l.progress returned k).Next (after.progress (returned ++ removed) k) := by
  cases entry with
  | refresh handed parts left =>
    dsimp only [progress]
    split
    case isTrue member =>
      have unrun := balanced.not_ran_of_waiting (parts.mem_iff.mp (List.mem_append_left _ member))
      have before := balanced.state_of_not_ran unrun
      rw [decide_eq_true (List.mem_append_right returned member)]
      split at before
      case isTrue back =>
        rw [before, decide_eq_true back]
        exact .inl rfl
      case isFalse absent =>
        rw [before, decide_eq_false absent]
        exact .inr .cancel
    case isFalse stays =>
      left
      simp only [List.mem_append, stays, or_false]
  | @start j rest held first taken =>
    dsimp only [progress]
    rw [List.append_nil, Function.update_apply]
    split
    case isTrue same =>
      subst same
      have waits : k ∈ l.waiting := by
        rw [first]
        exact List.mem_cons_self ..
      have before := balanced.state_of_not_ran (balanced.not_ran_of_waiting waits)
      split at before
      case isTrue back =>
        rw [before, decide_eq_true back]
        exact .inr .again
      case isFalse absent =>
        rw [before, decide_eq_false absent]
        exact .inr .start
    case isFalse => exact .inl rfl
  | @finish j held outcome given =>
    dsimp only [progress]
    rw [List.append_nil, Function.update_apply]
    split
    case isTrue same =>
      subst same
      have running := (balanced.mem_held k).mp (given.mem_iff.mpr (List.mem_cons_self ..))
      rw [running]
      exact .inr (.finish _ outcome)
    case isFalse =>
      left
      cases outcome <;> rfl
  | _ =>
    rw [List.append_nil]
    exact .inl rfl

/-- What an entry accepts was in the hands of users. -/
theorem Entry.new_of_hands (entry : l.Entry new removed after) (member : k ∈ new) : k ∈ l.hands := by
  cases entry with
  | refresh handed parts left => exact handed.mem_iff.mp (List.mem_append_left _ member)
  | _ => contradiction

/-- What comes back is cancelled, and in the hands of users. -/
theorem Entry.removed_of_waiting (entry : l.Entry new removed after) (member : k ∈ removed) :
    k ∈ l.waiting ∧ k ∈ after.hands ∧ after.state k = .cancelled := by
  cases entry with
  | refresh handed parts left =>
    exact ⟨parts.mem_iff.mp (List.mem_append_left _ member), List.mem_append_right _ member,
      if_pos member⟩
  | _ => contradiction

/-- A job that neither waits nor is held nor is accepted stays as it is. -/
theorem Entry.idle (entry : l.Entry new removed after) (unqueued : k ∉ l.waiting)
    (unheld : k ∉ l.held) (unaccepted : k ∉ new) :
    after.state k = l.state k ∧ k ∉ after.waiting ∧ k ∉ after.held := by
  cases entry with
  | still => exact ⟨rfl, unqueued, unheld⟩
  | make => exact ⟨rfl, unqueued, unheld⟩
  | refuse parts => exact ⟨rfl, unqueued, unheld⟩
  | refresh handed parts left =>
    have stays : k ∉ removed := fun member =>
      unqueued (parts.mem_iff.mp (List.mem_append_left _ member))
    refine ⟨if_neg stays, fun waits => ?_, unheld⟩
    rcases List.mem_append.mp (left.mem_iff.mp waits) with young | old
    · exact unaccepted young
    · exact unqueued (parts.mem_iff.mp (List.mem_append_right _ old))
  | start first taken =>
    rw [first, List.mem_cons, not_or] at unqueued
    refine ⟨Function.update_of_ne unqueued.1 _ _, unqueued.2, fun holds => ?_⟩
    rcases List.mem_cons.mp (taken.mem_iff.mp holds) with same | held
    · exact unqueued.1 same
    · exact unheld held
  | finish outcome given =>
    rw [given.mem_iff, List.mem_cons, not_or] at unheld
    refine ⟨Function.update_of_ne unheld.1 _ _, ?_, unheld.2⟩
    cases outcome <;> exact unqueued

/-- A job that has been made and that nobody has any longer is never accepted. -/
theorem Entry.gone (entry : l.Entry new removed after) (made : k < l.made) (unheld : k ∉ l.hands)
    (unqueued : k ∉ l.waiting) : k < after.made ∧ k ∉ after.hands ∧ k ∉ after.waiting ∧ k ∉ new := by
  cases entry with
  | still => exact ⟨made, unheld, unqueued, List.not_mem_nil⟩
  | make =>
    refine ⟨Nat.lt_succ_of_lt made, fun holds => ?_, unqueued, List.not_mem_nil⟩
    rcases List.mem_append.mp holds with old | young
    · exact unheld old
    · exact absurd (List.mem_singleton.mp young) (Nat.ne_of_lt made)
  | refuse parts =>
    exact ⟨made, fun holds => unheld (parts.mem_iff.mp (List.mem_append_right _ holds)), unqueued,
      List.not_mem_nil⟩
  | refresh handed parts left =>
    have unaccepted : k ∉ new := fun young =>
      unheld (handed.mem_iff.mp (List.mem_append_left _ young))
    refine ⟨made, fun holds => ?_, fun waits => ?_, unaccepted⟩
    · rcases List.mem_append.mp holds with stays | back
      · exact unheld (handed.mem_iff.mp (List.mem_append_right _ stays))
      · exact unqueued (parts.mem_iff.mp (List.mem_append_left _ back))
    · rcases List.mem_append.mp (left.mem_iff.mp waits) with young | old
      · exact unaccepted young
      · exact unqueued (parts.mem_iff.mp (List.mem_append_right _ old))
  | start first taken =>
    rw [first, List.mem_cons, not_or] at unqueued
    exact ⟨made, unheld, unqueued.2, List.not_mem_nil⟩
  | finish outcome given =>
    cases outcome <;> exact ⟨made, unheld, unqueued, List.not_mem_nil⟩

theorem Entry.made_le (entry : l.Entry new removed after) : l.made ≤ after.made := by
  cases entry with
  | make => exact Nat.le_succ _
  | finish outcome given => cases outcome <;> exact Nat.le_refl _
  | _ => exact Nat.le_refl _

end Ledger

end Vicinity

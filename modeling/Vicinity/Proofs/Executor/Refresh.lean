import Vicinity.Proofs.Executor.Events
import Vicinity.Proofs.Queue.Shown
import Vicinity.Proofs.Queue.Sort

/-! # Refreshing the pending jobs

`executeAndCancel` is four operations of the queue in one step. What they come to together is told by
two records that the executor does not keep itself: what the test was shown and what it answered, and
the numbers of all jobs that were ever accepted, in the order in which they were. A job that came back
and was accepted again is there more than once; what counts is where it was accepted last. The number
of its slot is that place, whatever sorts and changes of rank there have been, so this is the order in
which jobs of the same rank will be run.

The ranks of the pending jobs are taken anew. Those of the jobs that are handed in are not: they have
the rank that they were made with, or, if they have come back, that of the refresh that cancelled
them.
-/

namespace Vicinity

variable {K R E S : Type}

/-- A job is to run before another one: by their ranks, or as it was submitted before the other one.
`history` has the numbers of all submissions, and the last of each job counts. -/
def Job.Precedes [Ord R] (history : List Nat) (front later : Job K R) : Prop :=
  front.byRank later = .lt ∨ front.byRank later = .eq ∧
    history.reverse.idxOf later.number < history.reverse.idxOf front.number

namespace Slot

/-- A change that remembers nothing leaves the numbers as they are. -/
theorem mem_changeAll_plain {change : E → E} {slots : List (Slot E)} {slot : Slot E}
    (member : slot ∈ (changeAll (fun e (_ : Unit) => (change e, ())) slots ()).1) :
    ∃ old ∈ slots, slot = ⟨old.number, change old.element⟩ := by
  induction slots with
  | nil => contradiction
  | cons first rest ih =>
    rcases List.mem_cons.mp member with rfl | later
    · exact ⟨first, List.mem_cons_self .., rfl⟩
    · obtain ⟨old, there, same⟩ := ih later
      exact ⟨old, List.mem_cons_of_mem _ there, same⟩

end Slot

/-! ## The order of submission -/

namespace Queue

/-- The number of every slot is the place of the last submission of its job, counted from the end. -/
structure Dated (q : Queue (Job K R)) (history : List Nat) : Prop where
  next : q.next = history.length
  places : ∀ slot ∈ q.slots,
    history.reverse.idxOf slot.element.number + slot.number + 1 = history.length

variable {q : Queue (Job K R)} {history : List Nat}

theorem dated_empty : (∅ : Queue (Job K R)).Dated [] :=
  ⟨rfl, fun _ member => absurd member List.not_mem_nil⟩

/-- Slots may be taken out and put in another order. -/
theorem Dated.of_subset (dated : q.Dated history) {after : Queue (Job K R)}
    (next : after.next = q.next) (slots : after.slots ⊆ q.slots) : after.Dated history :=
  ⟨next.trans dated.next, fun slot member => dated.places slot (slots member)⟩

/-- Nothing is submitted. -/
theorem Dated.append_nil (dated : q.Dated history) : q.Dated (history ++ []) :=
  (List.append_nil history).symm ▸ dated

/-- A job that is submitted while it is not pending was submitted last of all. -/
theorem Dated.add (dated : q.Dated history) {job : Job K R}
    (absent : job.number ∉ q.toList.map Job.number) :
    (q.add job).Dated (history ++ [job.number]) := by
  constructor
  case next =>
    rw [List.length_append, ← dated.next]
    rfl
  case places =>
    intro slot member
    rw [List.reverse_concat, List.length_append, List.length_singleton]
    rcases List.mem_cons.mp member with rfl | older
    · rw [List.idxOf_cons_self, dated.next, Nat.zero_add]
    · have other : job.number ≠ slot.element.number := by
        rintro same
        exact absent (same ▸ List.mem_map_of_mem (List.mem_map_of_mem older))
      have place := dated.places slot older
      rw [List.idxOf_cons_ne _ other]
      omega

theorem Dated.addAll (dated : q.Dated history) {jobs : List (Job K R)}
    (distinct : (q.toList.map Job.number ++ jobs.map Job.number).Nodup) :
    (q.addAll jobs).Dated (history ++ jobs.map Job.number) := by
  induction jobs generalizing q history with
  | nil => exact dated.append_nil
  | cons job rest ih =>
    rw [List.map_cons] at distinct
    have moved := List.perm_middle.nodup_iff.mp distinct
    have absent := fun there => (List.nodup_cons.mp moved).1 (List.mem_append_left _ there)
    have later := ih (dated.add absent) moved
    rw [List.append_assoc] at later
    exact later

/-- A job with a new rank is the same job. -/
theorem Dated.refresh (dated : q.Dated history) (ranker : Job K R → R) :
    (q.changeAll (fun job (_ : Unit) => (job.refresh ranker, ())) ()).Dated history := by
  refine ⟨dated.next, fun slot member => ?_⟩
  obtain ⟨old, there, rfl⟩ := Slot.mem_changeAll_plain member
  exact dated.places old there

theorem Dated.sort (dated : q.Dated history) (compare : Job K R → Job K R → Ordering) :
    (q.sort compare).Dated history :=
  dated.of_subset rfl (List.mergeSort_perm _ _).subset

/-- A sorted queue has its jobs in the order of their ranks, and those of the same rank in the order
of their submission. -/
theorem Dated.pairwise_sort [Ord R] [Std.TransCmp (Job.byRank (K := K) (R := R))]
    (dated : (q.sort Job.byRank).Dated history) :
    (q.sort Job.byRank).toList.Pairwise (Job.Precedes history) := by
  refine List.pairwise_map.mpr
    ((Slot.pairwise_before_mergeSort q.distinct).imp_of_mem fun {a b} first second before => ?_)
  -- Two jobs of one rank stand in the order of their slots' numbers, and these are their places.
  have place_a := dated.places a first
  have place_b := dated.places b second
  refine before.imp_right fun tie => ⟨tie.1, ?_⟩
  have earlier := tie.2
  omega

/-! ## Noting removals -/

theorem removeIf_noting (q : Queue E) (test : Test E S) (s : S) :
    q.removeIf test.noting (s, []) = q.removeIf test s := by
  have sifted := Slot.sift_noting test q.slots s []
  refine Prod.ext (congrArg (fun result => result.1) sifted) (ext ?_ rfl rfl)
  exact congrArg (fun result => result.2.1) sifted

theorem remembered_noting (q : Queue E) (test : Test E S) (s : S) :
    q.remembered test.noting (s, []) = (q.remembered test s, test.answers q.toList s) :=
  congrArg (fun result => result.2.2) (Slot.sift_noting test q.slots s [])

end Queue

namespace Executor

/-- The job that is made with an event, as it is made. -/
def made (x : Executor K R) : ExecutorEvent K R → List (Job K R)
  | .make order => [.ofOrder x.records.length order]
  | _ => []

/-- The jobs that are made in a run. -/
def madeAll [Ord R] (x : Executor K R) : List (ExecutorEvent K R) → List (Job K R)
  | [] => []
  | event :: rest => x.made event ++ (x.serve event).2.madeAll rest

/-- A worker that looks for a job leaves the queue as it is or takes one element. -/
theorem dated_takeJob {x : Executor K R} {history : List Nat} (dated : x.queue.Dated history)
    (worker : Nat) : (x.takeJob worker).queue.Dated history := by
  have taken : x.queue.take.2.Dated history := by
    have drained : x.queue.take.2 = (x.queue.drain 1).2 := congrArg Prod.snd x.queue.take_eq
    rw [drained]
    exact dated.of_subset rfl (List.drop_subset 1 x.queue.slots)
  rw [takeJob]
  split
  · split
    · next found =>
      rw [found] at taken
      exact taken
    · exact dated
    · exact dated
  · exact dated

theorem queue_finishJob (x : Executor K R) (worker : Nat) : (x.finishJob worker).queue = x.queue := by
  rw [finishJob]
  split
  · split <;> rfl
  · rfl

theorem hands_takeJob (x : Executor K R) (worker : Nat) : (x.takeJob worker).hands = x.hands := by
  rw [takeJob]
  split
  · split <;> rfl
  · rfl

theorem hands_finishJob (x : Executor K R) (worker : Nat) : (x.finishJob worker).hands = x.hands := by
  rw [finishJob]
  split
  · split <;> rfl
  · rfl

theorem hands_handOver (x : Executor K R) (numbers : List Nat) :
    (x.handOver numbers).2.hands ⊆ x.hands := fun _ member =>
  (Job.handOver_perm numbers x.hands).mem_iff.mp (List.mem_append_right _ member)

variable [Ord R] {x : Executor K R} {history accepted returned : List Nat}

/-! ## The order of submission -/

/-- What fails submits nothing. -/
theorem dated_failed (dated : x.queue.Dated history) {event : ExecutorEvent K R} {e : ExecutorError}
    (failed : (x.serve event).1 = .error e) :
    (x.serve event).2.queue.Dated (history ++ x.accepted event) := by
  rw [Executor.accepted, failed, (serve_failed failed).2]
  exact dated.append_nil

theorem dated_execute (balanced : x.ledger.Balanced accepted returned)
    (dated : x.queue.Dated history) (number : Nat) :
    (x.serve (.execute number)).2.queue.Dated (history ++ x.accepted (.execute number)) := by
  rcases x.serve_execute_cases number with
    ⟨nothing, served⟩ | ⟨-, served⟩ | ⟨job, -, single, served⟩
  · rw [Executor.accepted, served, offered_of_missing nothing]
    exact dated.append_nil
  · exact dated_failed dated (congrArg Prod.fst served)
  · obtain ⟨offered, holds⟩ := offered_of_held single
    rw [Executor.accepted, served, offered]
    exact dated.add (balanced.not_waiting_of_hands holds)

theorem dated_executeAndCancel (balanced : x.ledger.Balanced accepted returned)
    (dated : x.queue.Dated history) (ranker : Job K R → R) (numbers : List Nat)
    (test : Test (Job K R) S) (s : S) :
    let event : ExecutorEvent K R := .executeAndCancel ranker numbers test s
    (x.serve event).2.queue.Dated (history ++ x.accepted event) := by
  intro event
  cases stopped : x.stopped with
  | true =>
    exact dated_failed dated
      (congrArg Prod.fst (serve_executeAndCancel_stopped stopped ranker numbers test s))
  | false =>
    have served : x.serve event = _ :=
      serve_executeAndCancel_running stopped ranker numbers test s
    have waits := (balanced_serve balanced event).waits_once
    rw [served] at waits
    have parts := (x.toList_exchange numbers ((x.refreshed ranker).removeIf test s)).map Job.number
    rw [List.map_append] at parts
    rw [Executor.accepted, served]
    refine Queue.Dated.sort (Queue.Dated.addAll ?_ (parts.nodup_iff.mp waits)) _
    exact (dated.refresh ranker).of_subset rfl (Slot.sift_sublist ..).subset

/-- One event. -/
theorem dated_serve (balanced : x.ledger.Balanced accepted returned) (dated : x.queue.Dated history)
    (event : ExecutorEvent K R) : (x.serve event).2.queue.Dated (history ++ x.accepted event) := by
  cases event with
  | make order => exact dated.append_nil
  | execute number => exact dated_execute balanced dated number
  | executeAndCancel ranker numbers test s =>
    exact dated_executeAndCancel balanced dated ranker numbers test s
  | shutdown => exact Queue.Dated.append_nil (dated.of_subset rfl (List.Subset.refl _))
  | shutdownNow =>
    have queue : (x.serve .shutdownNow).2.queue = x.shutdown.queue.drainAll.2 := rfl
    rw [queue]
    exact Queue.Dated.append_nil (dated.of_subset rfl (List.drop_subset ..))
  | take worker => exact (dated_takeJob dated worker).append_nil
  | finish worker =>
    have same : (x.serve (.finish worker)).2.queue = x.queue := x.queue_finishJob worker
    rw [same]
    exact dated.append_nil

theorem dated_run (balanced : x.ledger.Balanced accepted returned) (dated : x.queue.Dated history)
    (events : List (ExecutorEvent K R)) :
    (x.run events).queue.Dated (history ++ x.acceptedAll events) := by
  induction events generalizing x history accepted returned with
  | nil => exact dated.append_nil
  | cons event rest ih =>
    have later := ih (balanced_serve balanced event) (dated_serve balanced dated event)
    rw [List.append_assoc] at later
    exact later

/-! ## The ranks of the jobs that are handed in -/

/-- Users get no job but those that they make and those that come back. -/
theorem hands_serve (x : Executor K R) (event : ExecutorEvent K R) {job : Job K R}
    (holds : job ∈ (x.serve event).2.hands) :
    job ∈ x.hands ∨ job.number ∈ x.returned event ∨ job ∈ x.made event := by
  cases event with
  | make order => exact (List.mem_append.mp holds).imp_right .inr
  | execute number =>
    have kept : (x.serve (.execute number)).2.hands = (x.handOver [number]).2.hands := by
      rcases x.serve_execute_cases number with ⟨-, served⟩ | ⟨-, served⟩ | ⟨other, -, -, served⟩ <;>
        rw [served]
    exact .inl (x.hands_handOver [number] (kept ▸ holds))
  | executeAndCancel ranker numbers test s =>
    cases stopped : x.stopped with
    | true =>
      rw [serve_executeAndCancel_stopped stopped] at holds
      exact .inl (x.hands_handOver numbers holds)
    | false =>
      rw [returned, serve_executeAndCancel_running stopped]
      rw [serve_executeAndCancel_running stopped] at holds
      exact (List.mem_append.mp holds).imp (x.hands_handOver numbers ·)
        fun back => .inl (List.mem_map_of_mem back)
  | shutdown => exact .inl holds
  | shutdownNow =>
    have same : x.shutdownNow.2.hands = x.hands := by
      rw [shutdownNow_eq, moveAll_eq]
      rfl
    refine (List.mem_append.mp holds).imp (same ▸ ·) fun back => .inl ?_
    exact List.mem_map_of_mem back
  | take worker => exact .inl (x.hands_takeJob worker ▸ holds)
  | finish worker => exact .inl (x.hands_finishJob worker ▸ holds)

/-- A job that has not come back is as it was made. -/
theorem made_of_hands {made : List (Job K R)}
    (kept : ∀ job ∈ x.hands, job.number ∉ returned → job ∈ made) (events : List (ExecutorEvent K R)) :
    ∀ job ∈ (x.run events).hands, job.number ∉ returned ++ x.returnedAll events →
      job ∈ made ++ x.madeAll events := by
  induction events generalizing x made returned with
  | nil =>
    rw [returnedAll, madeAll, List.append_nil, List.append_nil]
    exact kept
  | cons event rest ih =>
    have still : ∀ job ∈ (x.serve event).2.hands, job.number ∉ returned ++ x.returned event →
        job ∈ made ++ x.made event := by
      intro job holds never
      rw [List.mem_append, not_or] at never
      rcases x.hands_serve event holds with old | back | new
      · exact List.mem_append_left _ (kept job old never.1)
      · exact absurd back never.2
      · exact List.mem_append_right _ new
    have later := ih still
    rw [List.append_assoc, List.append_assoc] at later
    exact later

/-! ## What a refresh comes to -/

/-- What the pending jobs, the test and the jobs that are handed in come to. `shown` are the pending
jobs with their new ranks, each with the answer of the test, and `history` has the numbers of all
submissions, those of this event included. -/
structure Refreshes (x : Executor K R) (ranker : Job K R → R) (numbers : List Nat)
    (history : List Nat) (shown : List (Job K R × Bool)) (removed : List (Job K R))
    (after : Executor K R) : Prop where
  shown_once : shown.map Prod.fst = x.pending.map (Job.refresh ranker)
  never_new : ∀ old ∈ shown, ∀ job ∈ (x.handOver numbers).1, old.1.number ≠ job.number
  returned : removed = (shown.filter fun job => job.2).map Prod.fst
  /-- The jobs that are handed in are added as they are. -/
  pending : after.pending.Perm
    ((shown.filter fun job => !job.2).map Prod.fst ++ (x.handOver numbers).1)
  pending_once : (after.pending.map Job.number).Nodup
  accepted : ∀ job ∈ after.pending, job.number ∈ history
  ordered : after.pending.Pairwise (Job.Precedes history)
  hands : after.hands = (x.handOver numbers).2.hands ++ removed
  cancelled : ∀ job ∈ removed, after.stateOf? job.number = some .cancelled
  others : ∀ k, k ∉ removed.map Job.number → after.stateOf? k = x.stateOf? k
  running : ∀ k, x.stateOf? k = some .running → after.stateOf? k = some .running
  workers : after.workers = x.workers ∧ after.ran = x.ran
  counted : after.submitted = x.submitted + .ofNat (x.handOver numbers).1.length ∧
    after.cancelled = x.cancelled + .ofNat removed.length ∧
    after.completed = x.completed ∧ after.panicked = x.panicked

omit [Ord R] in
theorem remembered_running (running : x.stopped = false) (ranker : Job K R → R)
    (test : Test (Job K R) S) (s : S) :
    x.remembered ranker test s = (x.refreshed ranker).remembered test s :=
  if_neg (Bool.eq_false_iff.mp running)

/-- An exchange leaves workers, and what they have done, alone. -/
theorem exchange_frame (x : Executor K R) (numbers : List Nat)
    (parts : List (Job K R) × Queue (Job K R)) :
    let after := x.exchange numbers parts
    (after.workers = x.workers ∧ after.ran = x.ran) ∧
      after.completed = x.completed ∧ after.panicked = x.panicked := by
  rw [exchange, moveAll_eq]
  exact ⟨⟨rfl, rfl⟩, rfl, rfl⟩

/-- An exchange cancels what is removed, and changes no other state. -/
theorem stateOf?_exchange (x : Executor K R) (numbers : List Nat)
    (parts : List (Job K R) × Queue (Job K R)) (known : ∀ job ∈ parts.1, job.number < x.ledger.made)
    (k : Nat) : (x.exchange numbers parts).stateOf? k =
      if k ∈ parts.1.map Job.number then some .cancelled else x.stateOf? k := by
  have entered := x.ledger_exchange numbers parts known
  have length : (x.exchange numbers parts).records.length = x.records.length :=
    congrArg Ledger.made entered
  rcases Nat.lt_or_ge k x.records.length with made | later
  · rw [stateOf?_of_made _ (length ▸ made), stateOf?_of_made _ made, entered]
    dsimp only
    split <;> rfl
  · have absent : k ∉ parts.1.map Job.number := by
      intro member
      obtain ⟨job, there, rfl⟩ := List.mem_map.mp member
      exact Nat.not_lt.mpr later (known job there)
    rw [stateOf?_eq_none _ (length ▸ later), stateOf?_eq_none _ later, if_neg absent]

variable [Std.TransOrd R]

instance : Std.TransCmp (Job.byRank (K := K) (R := R)) :=
  inferInstanceAs (Std.TransCmp (compareOn Job.rank))

theorem refreshes_exchange (balanced : x.ledger.Balanced accepted returned) (ranker : Job K R → R)
    (numbers : List Nat) (test : Test (Job K R) S) (s : S) {after : Executor K R}
    (exchanged : after = x.exchange numbers ((x.refreshed ranker).removeIf test s))
    {back : List Nat} (later : after.ledger.Balanced history back)
    (dated : after.queue.Dated history) :
    Refreshes x ranker numbers history (test.answers (x.pending.map (Job.refresh ranker)) s)
      ((x.refreshed ranker).removeIf test s).1 after := by
  subst exchanged
  have listed : (x.refreshed ranker).toList = _ := x.toList_refreshed ranker
  have waits := waiting_of_removed (x := x) ranker test s
  have state := x.stateOf?_exchange numbers ((x.refreshed ranker).removeIf test s)
    fun job member => balanced.made_of_waiting (waits job member)
  have frame := x.exchange_frame numbers ((x.refreshed ranker).removeIf test s)
  constructor
  case shown_once => exact test.map_fst_answers _ s
  case never_new =>
    intro shown there job new same
    have pending := List.mem_map_of_mem (f := Prod.fst) there
    rw [test.map_fst_answers] at pending
    obtain ⟨old, member, refreshed⟩ := List.mem_map.mp pending
    have holds : job.number ∈ x.ledger.hands :=
      (x.handed numbers).mem_iff.mp (List.mem_append_left _ (List.mem_map_of_mem new))
    have waits : old.number ∈ x.ledger.waiting := List.mem_map_of_mem member
    have number : old.number = job.number := (congrArg Job.number refreshed).trans same
    exact balanced.not_waiting_of_hands holds (number ▸ waits)
  case returned =>
    rw [← listed]
    exact Slot.sift_removed test _ s
  case pending =>
    have kept : ((x.refreshed ranker).removeIf test s).2.toList = _ :=
      Slot.sift_kept test (x.refreshed ranker).slots s
    rw [← listed]
    exact kept ▸ x.toList_exchange numbers _
  case pending_once => exact later.waits_once
  case accepted => exact fun job member => later.accepted_of_waiting (List.mem_map_of_mem member)
  case ordered => exact Queue.Dated.pairwise_sort dated
  case hands => rfl
  case cancelled =>
    intro job member
    exact (state job.number).trans (if_pos (List.mem_map_of_mem member))
  case others => exact fun k stays => (state k).trans (if_neg stays)
  case running =>
    intro k runs
    refine ((state k).trans (if_neg fun removed => ?_)).trans runs
    obtain ⟨job, member, rfl⟩ := List.mem_map.mp removed
    have held := (balanced.mem_held job.number).mpr
      (congrArg (fun state? : Option TaskState => state?.getD .queued) runs)
    exact balanced.not_held_of_waiting (waits job member) held
  case workers => exact frame.1
  case counted => exact ⟨rfl, rfl, frame.2⟩

/-- From whatever has happened before, an executor that accepts jobs shows the test each pending job
once, in the order in which they would be run and with their new ranks. Those that the test accepts
are cancelled and returned in this order; the others and the jobs that are handed in will be run in
the order of their ranks, and jobs of the same rank in the order in which they were submitted,
whatever ranks they had before. Users may hand in any jobs that they hold, in any order; those that
have not come back have the ranks that they were made with. Jobs that are running, and all jobs that
are done with, stay as they are. -/
theorem refreshes_run {pool : Nat} {events : List (ExecutorEvent K R)}
    (running : ((new pool).run events).stopped = false) (ranker : Job K R → R)
    (numbers : List Nat) (test : Test (Job K R) S) (s : S) :
    let x := (new pool).run events
    let event : ExecutorEvent K R := .executeAndCancel ranker numbers test s
    let history := (new pool).acceptedAll (events ++ [event])
    let shown := test.answers (x.pending.map (Job.refresh ranker)) s
    ∃ removed after, x.serve event = (.ok removed, after) ∧
      x.serve (.executeAndCancel ranker numbers test.noting (s, [])) = (.ok removed, after) ∧
      x.remembered ranker test.noting (s, []) = (x.remembered ranker test s, shown) ∧
      (numbers.Nodup → numbers ⊆ x.hands.map Job.number →
        (x.handOver numbers).1.map Job.number = numbers) ∧
      (∀ job ∈ (x.handOver numbers).1, job.number ∉ (new pool).returnedAll events →
        job ∈ (new pool).madeAll events) ∧
      Refreshes x ranker numbers history shown removed after := by
  intro x event history shown
  have served := serve_executeAndCancel_running running ranker numbers test s
  have noted := serve_executeAndCancel_running running ranker numbers test.noting (s, [])
  rw [Queue.removeIf_noting] at noted
  refine ⟨_, _, served, noted, ?_, fun once there => ?_, fun job handed never => ?_, ?_⟩
  · rw [remembered_running running, remembered_running running, Queue.remembered_noting,
      toList_refreshed]
  · exact Job.map_number_handOver once fun number member => there member
  · have holds : job ∈ x.hands :=
      (Job.handOver_perm numbers x.hands).mem_iff.mp (List.mem_append_left _ handed)
    have nothing : ∀ job ∈ (new pool : Executor K R).hands, job.number ∉ [] → job ∈ [] :=
      fun other nowhere => absurd nowhere List.not_mem_nil
    exact made_of_hands nothing events job holds never
  · have reached : (new pool).run (events ++ [event]) =
        x.exchange numbers ((x.refreshed ranker).removeIf test s) :=
      (run_append _ events [event]).trans (congrArg Prod.snd served)
    have later := balanced_run (balanced_new pool) (events ++ [event])
    have dated := dated_run (balanced_new pool) Queue.dated_empty (events ++ [event])
    rw [reached] at later dated
    exact refreshes_exchange (balanced_run (balanced_new pool) events) ranker numbers test s rfl later
      dated

/-- Four jobs are sorted the later before the earlier, with a fifth one in between, and the first in
this order is taken. Once the others have come to the same rank, a test that accepts every second of
them is shown them in this order; what it leaves is run as it was submitted. -/
theorem refreshes_run_ties :
    let make (rank : Nat) : ExecutorEvent Nat Nat := .make ⟨0, rank, .returned⟩
    let events : List (ExecutorEvent Nat Nat) :=
      [make 40, make 30, make 20, make 10, make 25, .execute 0, .execute 1, .execute 2, .execute 3,
        .executeAndCancel Job.rank [4] (.plain fun _ => false) (), .take 0, make 7, make 3]
    let x := (new 1).run events
    x.stopped = false ∧ x.pending.map Job.number = [2, 4, 1, 0] ∧
      ∃ shown removed after,
        x.serve (.executeAndCancel (fun _ => 7) [5, 6] (.everyNth 2) 0) = (.ok removed, after) ∧
        Refreshes x (fun _ => 7) [5, 6] [0, 1, 2, 3, 4, 5, 6] shown removed after ∧
        removed.map Job.number = [4, 0] ∧ after.pending.map Job.number = [6, 1, 2, 5] := by
  intro make events x
  have running : x.stopped = false := by
    dsimp only [x, events]
    cbv
  have history : (new 1).acceptedAll (events ++
      [.executeAndCancel (fun _ => 7) [5, 6] (.everyNth 2) 0]) = [0, 1, 2, 3, 4, 5, 6] := by
    dsimp only [events, make]
    cbv
  have outcome : let served := x.serve (.executeAndCancel (fun _ => 7) [5, 6] (.everyNth 2) 0)
      served.1.map (List.map Job.number) = .ok [4, 0] ∧
        served.2.pending.map Job.number = [6, 1, 2, 5] := by
    dsimp only [x, events, make]
    constructor
    · cbv
    · cbv
  obtain ⟨removed, after, served, -, -, -, -, refreshes⟩ :=
    refreshes_run running (fun _ => 7) [5, 6] (.everyNth 2) 0
  rw [served] at outcome
  rw [history] at refreshes
  refine ⟨running, ?_, _, removed, after, served, refreshes, Except.ok.inj outcome.1, outcome.2⟩
  dsimp only [x, events, make]
  cbv

/-- A job was made with rank 10 and comes back with rank 2. When it is handed in again, that is the
rank it keeps, and it is to run before a job that was made with rank 5. -/
theorem rank_of_returned :
    let events : List (ExecutorEvent Nat Nat) :=
      [.make ⟨0, 10, .returned⟩, .make ⟨1, 5, .returned⟩, .execute 0,
        .executeAndCancel (fun _ => 2) [] (.plain fun _ => true) ()]
    let x := (new 1).run events
    let after := (x.serve (.executeAndCancel (fun _ => 2) [0, 1] (.plain fun _ => false) ())).2
    x.stopped = false ∧ ((new 1).madeAll events).map Job.rank = [10, 5] ∧
      after.pending.map (fun job => (job.number, job.rank)) = [(0, 2), (1, 5)] := by
  intro events x after
  refine ⟨?_, ?_, ?_⟩ <;>
    dsimp only [after, x, events] <;>
    cbv

end Executor

end Vicinity

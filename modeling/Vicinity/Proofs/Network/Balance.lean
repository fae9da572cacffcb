import Vicinity.Proofs.Network.Accounts
import Vicinity.Proofs.Network.Dispatch

/-! # The counters of a node

In a network that has come about by any course, the counters of a node are those that the log of the
course gives. A node inside the process and a middleware node drop publications for different
reasons, and the one calls subscribers for its publications and the other for the frames it gets.
-/

namespace Vicinity

variable {T S C J M : Type}

open Incident

namespace Network

variable {w : Network T S C J}

/-- The publications of a node suit its kind. -/
theorem kind_of_published {log : List Incident} (fits : ∀ incident ∈ log, w.Fits incident) {n : Nat}
    {node : Node T S C} (there : w.node? n = some node) {fate : Fate}
    (member : .published n fate ∈ log) : fate.isInProcess = node.isInProcess := by
  obtain ⟨other, found, kind⟩ := fits _ member
  obtain rfl : node = other := Option.some.inj (there.symm.trans found)
  exact kind

theorem count_published_eq_zero {log : List Incident} (fits : ∀ incident ∈ log, w.Fits incident)
    {n : Nat} {node : Node T S C} (there : w.node? n = some node) {fate : Fate}
    (other : fate.isInProcess ≠ node.isInProcess) : log.count (.published n fate) = 0 :=
  List.count_eq_zero.mpr fun member => other (kind_of_published fits there member)

/-- A node that does not serve inside the process calls no one for its publications. -/
theorem sum_heardAt_eq_zero {log : List Incident} (fits : ∀ incident ∈ log, w.Fits incident)
    {n : Nat} {node : Node T S C} (there : w.node? n = some node)
    (kind : node.isInProcess = false) : (log.map (heardAt n)).sum = 0 := by
  refine List.sum_eq_zero fun count member => ?_
  obtain ⟨incident, logged, rfl⟩ := List.mem_map.mp member
  cases incident with
  | handed | ended => rfl
  | published m fate =>
    rw [heardAt]
    split
    · next same =>
      subst same
      exact Fate.audience_eq_zero ((kind_of_published fits there logged).trans kind)
    · rfl

/-- A node inside the process is handed no frames. -/
theorem sum_handedAt_eq_zero {log : List Incident} (fits : ∀ incident ∈ log, w.Fits incident)
    {n : Nat} {node : Node T S C} (there : w.node? n = some node)
    (kind : node.isInProcess = true) : (log.map (handedAt n)).sum = 0 := by
  refine List.sum_eq_zero fun count member => ?_
  obtain ⟨incident, logged, rfl⟩ := List.mem_map.mp member
  cases incident with
  | published | ended => rfl
  | handed m audience =>
    rw [handedAt]
    split
    · next same =>
      subst same
      obtain ⟨other, found, remote⟩ := fits _ logged
      obtain rfl : node = other := Option.some.inj (there.symm.trans found)
      rw [kind] at remote
      contradiction
    · rfl

theorem orderly_new [DecidableEq T] [Hashable T] (journal : J) :
    (new journal : Network T S C J).Orderly := by
  intro n node there
  contradiction

variable [DecidableEq T] [Hashable T] [DecidableEq S]

/-- Whatever has happened since a network was made, the counters of each of its nodes tell of it.

A node inside the process has counted its publications, as dropped those made while the topic had no
subscriber, and the calls that it made for the others, by how they ended; these are as many as the
topics had subscribers, taken together. A middleware node has counted its publications, as dropped
those made while it was closed, or whose encoding failed, or that the transport refused, and the
calls that it made for the frames it could decode, which are as many as it had subscribers for them
when they came. -/
theorem balances_of_course {wire : Wire T M} {journal : J} {log : List Incident}
    (course : Course wire (new journal) log w) (n : Nat) :
    (∀ broker, w.node? n = some (.inProcess broker) →
      broker.stats.Balances (log.countP (isPublished n)) (log.count (.published n .unheard))
        (log.count (.ended n .returned)) (log.count (.ended n .panicked))
        (log.map (heardAt n)).sum) ∧
    (∀ broker, w.node? n = some (.middleware broker) →
      broker.metrics.Balances (log.countP (isPublished n))
        (log.count (.published n .closed) + log.count (.published n .unencodable) +
          log.count (.published n .refused))
        (log.count (.ended n .returned)) (log.count (.ended n .panicked))
        (log.map (handedAt n)).sum) := by
  have accounts := course.accounts (orderly_new journal)
  have stats : w.stats n = tally n log := (accounts.stats n).trans (BrokerMetrics.zero_plus _)
  have called := accounts.called n
  have dropped := countP_isDropped n log
  rw [ends, audiences] at called
  refine ⟨fun broker there => ?_, fun broker there => ?_⟩
  · have counted : broker.stats = tally n log := (stats_of_node? there).symm.trans stats
    have none (fate : Fate) (remote : fate.isInProcess ≠ true) :
        log.count (.published n fate) = 0 :=
      count_published_eq_zero accounts.fits there remote
    rw [none .closed Bool.false_ne_true, none .unencodable Bool.false_ne_true,
      none .refused Bool.false_ne_true] at dropped
    rw [sum_handedAt_eq_zero accounts.fits there rfl] at called
    rw [counted]
    exact balances_tally dropped called
  · have counted : broker.metrics = tally n log := (stats_of_node? there).symm.trans stats
    have none : log.count (.published n .unheard) = 0 :=
      count_published_eq_zero accounts.fits there Bool.false_ne_true.symm
    rw [none] at dropped
    rw [sum_heardAt_eq_zero accounts.fits there rfl] at called
    rw [Nat.zero_add] at dropped called
    rw [counted]
    exact balances_tally dropped called

/-- A subscriber inside the process passes on what it hears to a middleware node, where a subscriber
panics. Then no one hears a publication inside the process, and the middleware node is asked to
publish when it is closed. -/
theorem balances_of_course_relay :
    let wire : Wire String UInt8 := ⟨id, byteCodec⟩
    let log : List Incident := [.published 0 (.heard 1), .published 1 .sent, .ended 0 .returned,
      .published 0 .unheard, .handed 1 1, .ended 1 .panicked, .published 1 .closed]
    ∃ w : Network String Nat Nat Unit, Course wire (new ()) log w ∧
      (∃ broker, w.node? 0 = some (.inProcess broker) ∧ broker.stats.Balances 2 1 1 0 1) ∧
      ∃ broker, w.node? 1 = some (.middleware broker) ∧ broker.metrics.Balances 2 1 0 1 1 := by
  intro wire log
  let panics : Call String Nat Nat Unit UInt8 := fun _ _ w => (.panicked, w)
  have quiet (callback : Nat) (message : UInt8) (w : Network String Nat Nat Unit) :
      Course wire w [] (panics callback message w).2 := .rest w
  let passes : Call String Nat Nat Unit UInt8 := fun _ message w =>
    (.returned, (w.request wire panics 1 (.publish "news" message)).2)
  let logs : Logs String Nat Nat Unit UInt8 := fun _ message w =>
    w.requestLog wire panics (fun _ _ _ => []) 1 (.publish "news" message)
  have honest (callback : Nat) (message : UInt8) (w : Network String Nat Nat Unit) :
      Course wire w (logs callback message w) (passes callback message w).2 :=
    .request panics _ quiet w 1 (.publish "news" message)
  let inside : Network String Nat Nat Unit := (new ()).addInProcess .readWrite .concurrent
  have first : (new ()).addPlanned (.inProcess .readWrite .concurrent) {} = .ok inside := rfl
  let both : Network String Nat Nat Unit :=
    { inside.withHub "town" (inside.hub "town").connect.2 with
      nodes := inside.nodes ++
        [.middleware (.new 1 "loopback://town" .snapshot ⟨⟨"town", 0⟩, {}⟩)] }
  have second : inside.addPlanned (.middleware "loopback://town" .snapshot) {} = .ok both := rfl
  obtain ⟨w, told, course, rfl, first, second⟩ :
      ∃ (w : Network String Nat Nat Unit) (told : List Incident),
        Course wire (new ()) told w ∧ told = log ∧
        (w.node? 0).map Node.isInProcess = some true ∧
        (w.node? 1).map Node.isInProcess = some false := by
    refine ⟨_, _, .trans (.join first) <| .trans (.join second) <|
      .trans (.request passes logs honest _ 0 (.subscribe "news" 1 10)) <|
      .trans (.request passes logs honest _ 1 (.subscribe "news" 2 20)) <|
      .trans (.request passes logs honest _ 0 (.publish "news" 5)) <|
      .trans (.request passes logs honest _ 0 (.publish "other" 6)) <|
      .trans (.dispatch quiet _ "town") <|
      .trans (.request passes logs honest _ 1 .close) <|
      .request passes logs honest _ 1 (.publish "news" 7), ?_⟩
    clear honest quiet first second
    decide +kernel +revert
  obtain ⟨_, there, kind⟩ := Option.map_eq_some_iff.mp first
  obtain ⟨inProcess, rfl⟩ := Node.eq_inProcess kind
  obtain ⟨_, remote, kind⟩ := Option.map_eq_some_iff.mp second
  obtain ⟨middleware, rfl⟩ := Node.eq_middleware kind
  exact ⟨w, course, ⟨_, there, (balances_of_course course 0).1 _ there⟩,
    ⟨_, remote, (balances_of_course course 1).2 _ remote⟩⟩

end Network

end Vicinity

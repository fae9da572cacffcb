import Vicinity.Proofs.Hub.Passage
import Vicinity.Proofs.Hub.Recipients

/-! # What a hub promises

A hub dispatches every frame that it has accepted, once and in order, to the handlers that are routed
for its topic when its turn comes. A flush returns when the frames in front of it have been handed
out, and a shutdown when all have been; after that a hub is silent. None of this depends on which
thread takes which step when, and only that a frame gets its turn depends on the dispatcher's getting
its own.
-/

namespace Vicinity.Loopback

variable {H : Type}

/-! ## Flushes and shutdowns -/

theorem moves_start (name : String) (acts : List (Act H)) :
    (start name).Moves (history name acts) (after name acts) :=
  moves_run (start name) acts

/-- The queue holds the frames that have been accepted and not been dispatched. -/
theorem accepted_eq (name : String) (acts : List (Act H)) :
    accepted (history name acts) = dispatched (history name acts) ++ queued (after name acts) := by
  have entries : put (history name acts) = taken (history name acts) ++ (after name acts).hub.queue :=
    (moves_start name acts).entries
  rw [accepted, entries, List.filterMap_append]
  rfl

theorem recipients_eq (name : String) (acts : List (Act H)) :
    recipients (history name acts) = called (history name acts) ++ (after name acts).due :=
  (moves_start name acts).calls

/-- Every marker has a ticket of its own. -/
theorem marker_notMem {events : List (Event H)} {ticket n : Nat} {before later : List HubEntry}
    (tickets : (put events).filterMap ticket? = List.range n)
    (split : put events = before ++ .marker ticket :: later) :
    .marker ticket ∉ before ∧ .marker ticket ∉ later := by
  have distinct : ((put events).filterMap ticket?).Nodup := tickets ▸ List.nodup_range
  have own : (HubEntry.marker ticket :: later).filterMap ticket? =
      ticket :: later.filterMap ticket? := rfl
  rw [split, List.filterMap_append, own, List.nodup_middle, List.nodup_cons,
    ← List.filterMap_append] at distinct
  have absent : .marker ticket ∉ before ++ later := fun there =>
    distinct.1 (List.mem_filterMap.mpr ⟨_, there, rfl⟩)
  rw [List.mem_append, not_or] at absent
  exact absent

theorem marked_step {w : Loopback H} {ticket : Nat} (marked : .marked ticket ∈ (w.step .flush).1) :
    (w.step .flush).1 = [.marked ticket] := by
  rw [step] at marked ⊢
  split
  · next own hub sent =>
    rw [sent] at marked
    obtain rfl : ticket = own := by simpa using marked
    rfl
  · next error sent =>
    rw [sent] at marked
    simp at marked

/-- When a marker has been reached, there was a point at which the frames in front of it, and no
others, had been dispatched, and all calls for them had been made. -/
theorem reached_flush {name : String} {acts during : List (Act H)} {ticket : Nat}
    (marked : .marked ticket ∈ ((after name acts).step .flush).1)
    (reached : ticket ∈ (after name (acts ++ .flush :: during)).hub.passed) :
    ∃ part, part <+: history name (acts ++ .flush :: during) ∧
      dispatched part = accepted (history name acts) ∧ called part = recipients part := by
  have moves := moves_start name (acts ++ .flush :: during)
  have entries : put (history name (acts ++ .flush :: during)) =
      taken (history name (acts ++ .flush :: during)) ++ _ := moves.entries
  -- The marker went into the queue behind what had been put in before the flush.
  obtain ⟨later, split⟩ : ∃ later, put (history name (acts ++ .flush :: during)) =
      put (history name acts) ++ .marker ticket :: later := by
    rw [history_append_cons, marked_step marked]
    exact ⟨_, put_append _ _⟩
  -- It came out of it behind what had been taken before it was reached.
  rw [moves.passed] at reached
  obtain ⟨entry, member, own⟩ := List.mem_filterMap.mp reached
  obtain ⟨event, there, takes⟩ := List.mem_filterMap.mp member
  obtain rfl : entry = .marker ticket := by
    cases entry with
    | message topic payload => contradiction
    | marker other => exact congrArg HubEntry.marker (Option.some.inj own)
  obtain ⟨part, rest, happened⟩ := List.append_of_mem there
  have taken_eq : taken (history name (acts ++ .flush :: during)) =
      taken part ++ .marker ticket :: taken rest := by
    rw [happened, taken_append]
    exact congrArg _ (List.filterMap_cons_some takes)
  rw [taken_eq, List.append_assoc, List.cons_append] at entries
  have tickets : (put (history name (acts ++ .flush :: during))).filterMap ticket? = List.range _ :=
    moves.tickets.symm
  have apart := marker_notMem tickets split
  have same : put (history name acts) = taken part :=
    ((List.append_cons_inj_of_notMem apart.1 apart.2).mp (split.symm.trans entries)).1
  have within : part ++ [event] <+: history name (acts ++ .flush :: during) :=
    ⟨rest, by rw [happened, List.append_assoc, List.singleton_append]⟩
  refine ⟨part, (List.prefix_append part [event]).trans within, ?_, ?_⟩
  · rw [dispatched, accepted, same]
  · exact (moves.paced part event within (by rw [takes]; rfl)).symm

/-- Nothing passes through a hub that refuses everything and has nothing left to pass on. -/
theorem run_of_stopped {w : Loopback H} (closed : w.hub.accepting = false)
    (queue : w.hub.queue = []) (due : w.due = []) (acts : List (Act H)) :
    dispatched (w.run acts).1 = [] ∧ called (w.run acts).1 = [] ∧
      (w.run acts).2.hub.accepting = false := by
  have moves := moves_run w acts
  obtain ⟨none, still⟩ := moves.refuses closed
  have entries := moves.entries
  rw [queue, none, List.nil_append, eq_comm, List.append_eq_nil_iff] at entries
  have calls := moves.calls
  rw [due, recipients_of_taken entries.1, List.nil_append, eq_comm, List.append_eq_nil_iff] at calls
  exact ⟨by rw [dispatched, entries.1, List.filterMap_nil], calls.1, still⟩

/-- A shutdown returns when the hub refuses everything and has nothing left to pass on. -/
theorem stopped_step {name : String} {acts : List (Act H)}
    (stopped : .stopped ∈ ((after name acts).step .finishShutdown).1) :
    (after name acts).hub.accepting = false ∧ (after name acts).hub.queue = [] ∧
      (after name acts).due = [] ∧
      (after name acts).step .finishShutdown =
        ([.stopped], { after name acts with shutdown := .returned }) := by
  rw [step] at stopped ⊢
  split at stopped
  · next ready =>
    obtain ⟨waits, queue, due⟩ := ready
    have charged : (after name acts).shutdown ≠ .pending := by
      rw [waits]
      decide
    have closed := ((moves_start name acts).charge charged).resolve_left fun other => other rfl
    exact ⟨closed, queue, due, if_pos ⟨waits, queue, due⟩⟩
  · contradiction

/-- When a shutdown has returned, nothing passes any more. -/
theorem after_stopped {name : String} {acts : List (Act H)}
    (stopped : .stopped ∈ ((after name acts).step .finishShutdown).1) (later : List (Act H)) :
    dispatched (history name (acts ++ .finishShutdown :: later)) = dispatched (history name acts) ∧
      called (history name (acts ++ .finishShutdown :: later)) = called (history name acts) ∧
      (after name (acts ++ .finishShutdown :: later)).hub.accepting = false := by
  obtain ⟨closed, queue, due, same⟩ := stopped_step stopped
  have silent : dispatched [(Event.stopped : Event H)] = [] ∧ called [(Event.stopped : Event H)] = [] :=
    ⟨rfl, rfl⟩
  rw [history_append_cons, after_append_cons, same]
  obtain ⟨frames, calls, refuses⟩ :=
    run_of_stopped (w := { after name acts with shutdown := .returned }) closed queue due later
  rw [dispatched_append, dispatched_append, called_append, called_append, silent.1, silent.2, frames,
    calls]
  exact ⟨List.append_nil _, List.append_nil _, refuses⟩

/-! ## The dispatcher's turns -/

section Schedule

variable (acts : List (Act H)) (schedule : Nat → Act H)

/-- A schedule on which the dispatcher gets its turn again and again. -/
def Fair : Prop := ∀ n, ∃ m, n ≤ m ∧ schedule m = .dispatch

/-- Acts, and then some of those on a schedule. -/
def upTo (n : Nat) : List (Act H) := acts ++ (List.range n).map schedule

theorem upTo_succ (n : Nat) : upTo acts schedule (n + 1) = upTo acts schedule n ++ [schedule n] := by
  rw [upTo, upTo, List.range_succ, List.map_append, List.append_assoc]
  rfl

theorem put_upTo (name : String) (n : Nat) :
    put (history name acts) <+: put (history name (upTo acts schedule n)) := by
  rw [upTo, history_append, put_append]
  exact List.prefix_append _ _

variable {schedule} (name : String)

/-- The dispatcher gets its turn before anything is taken or called. -/
theorem next_turn (fair : Fair schedule) (m : Nat) :
    ∃ n, schedule n = .dispatch ∧
      (after name (upTo acts schedule n)).due = (after name (upTo acts schedule m)).due ∧
      taken (history name (upTo acts schedule n)) = taken (history name (upTo acts schedule m)) := by
  obtain ⟨last, le, turn⟩ := fair m
  obtain ⟨gap, rfl⟩ := Nat.exists_eq_add_of_le le
  clear le
  induction gap generalizing m with
  | zero => exact ⟨m, turn, rfl, rfl⟩
  | succ gap ih =>
    by_cases own : schedule m = .dispatch
    · exact ⟨m, own, rfl, rfl⟩
    · obtain ⟨n, found, due, same⟩ := ih (m + 1) (by rwa [Nat.add_assoc, Nat.add_comm 1])
      obtain ⟨nothing, kept⟩ := taken_step (after name (upTo acts schedule m)) own
      refine ⟨n, found, ?_, ?_⟩
      · rw [due, upTo_succ, after_concat, kept]
      · rw [same, upTo_succ, history_concat, taken_append, nothing, List.append_nil]

/-- All calls that are due are made before the next entry is taken. -/
theorem calls_made (fair : Fair schedule) (m : Nat) :
    ∃ n, (after name (upTo acts schedule n)).due = [] ∧
      taken (history name (upTo acts schedule n)) = taken (history name (upTo acts schedule m)) := by
  generalize calls : (after name (upTo acts schedule m)).due = due
  induction due generalizing m with
  | nil => exact ⟨m, calls, rfl⟩
  | cons call rest ih =>
    obtain ⟨n, turn, due, same⟩ := next_turn acts name fair m
    have made : (after name (upTo acts schedule n)).dispatch =
        ([.called call], { after name (upTo acts schedule n) with due := rest }) := by
      rw [dispatch, due, calls]
    obtain ⟨last, done, kept⟩ := ih (n + 1) (by rw [upTo_succ, turn, after_concat, step, made])
    refine ⟨last, done, ?_⟩
    rw [kept, upTo_succ, turn, history_concat, step, made, taken_append, same]
    exact List.append_nil _

/-- As long as there is an entry, the dispatcher takes one. -/
theorem entry_taken (fair : Fair schedule) {m : Nat}
    (done : (after name (upTo acts schedule m)).due = [])
    (more : (taken (history name (upTo acts schedule m))).length < (put (history name acts)).length) :
    ∃ n, (taken (history name (upTo acts schedule n))).length =
      (taken (history name (upTo acts schedule m))).length + 1 := by
  obtain ⟨n, turn, due, same⟩ := next_turn acts name fair m
  refine ⟨n + 1, ?_⟩
  rw [upTo_succ, turn, history_concat, taken_append, same, List.length_append, step]
  have entries := (moves_start name (upTo acts schedule n)).entries
  have grown := (put_upTo acts schedule name n).length_le
  have turn := (after name (upTo acts schedule n)).turn_dispatch
  generalize after name (upTo acts schedule n) = w at due entries turn ⊢
  generalize w.dispatch = result at turn ⊢
  cases turn with
  | call calls =>
    rw [due, done] at calls
    contradiction
  | wait _ queue =>
    -- Nothing can be left: all that was put in would have been taken.
    have counted : (put (history name (upTo acts schedule n))).length =
        (taken (history name (upTo acts schedule n)) ++ w.hub.queue).length :=
      congrArg List.length entries
    rw [queue, List.append_nil, same] at counted
    omega
  | marker _ queue => rfl
  | message _ queue => rfl

/-- If the dispatcher gets its turn again and again, it takes all entries. -/
theorem entries_taken (fair : Fair schedule) {k : Nat}
    (within : k ≤ (put (history name acts)).length) :
    ∃ n, k ≤ (taken (history name (upTo acts schedule n))).length ∧
      (after name (upTo acts schedule n)).due = [] := by
  induction k with
  | zero =>
    obtain ⟨n, done, -⟩ := calls_made acts name fair 0
    exact ⟨n, Nat.zero_le _, done⟩
  | succ k ih =>
    obtain ⟨m, reached, done⟩ := ih (by omega)
    by_cases further : k + 1 ≤ (taken (history name (upTo acts schedule m))).length
    · exact ⟨m, further, done⟩
    · obtain ⟨n, next⟩ := entry_taken acts name fair done (by omega)
      obtain ⟨last, done, same⟩ := calls_made acts name fair n
      exact ⟨last, by rw [same, next]; omega, done⟩

theorem accepted_prefix (fair : Fair schedule) :
    ∃ n, accepted (history name acts) <+: dispatched (history name (upTo acts schedule n)) ∧
      called (history name (upTo acts schedule n)) =
        recipients (history name (upTo acts schedule n)) := by
  obtain ⟨n, long, done⟩ := entries_taken acts name fair (Nat.le_refl _)
  have entries : put (history name (upTo acts schedule n)) = taken _ ++ _ :=
    (moves_start name (upTo acts schedule n)).entries
  have whole := put_upTo acts schedule name n
  rw [entries] at whole
  refine ⟨n, ?_, ?_⟩
  · exact (List.prefix_of_prefix_length_le whole (List.prefix_append _ _) long).filterMap frame?
  · rw [recipients_eq, done, List.append_nil]

end Schedule

/-! ## The protocol -/

/-- What a hub promises to the threads that use it, at a point of a run and from there on. -/
structure Protocol (name : String) (acts : List (Act H)) : Prop where
  /-- The frames that have been accepted are dispatched in order, each once; the others wait. -/
  once : accepted (history name acts) = dispatched (history name acts) ++ queued (after name acts)
  /-- The calls for which they were dispatched are made in order, each once; the others are due. -/
  calls : recipients (history name acts) = called (history name acts) ++ (after name acts).due
  /-- If the dispatcher gets its turn again and again, none waits forever, and no call does. -/
  progress : ∀ schedule : Nat → Act H, Fair schedule →
    ∃ n, accepted (history name acts) <+: dispatched (history name (upTo acts schedule n)) ∧
      called (history name (upTo acts schedule n)) = recipients (history name (upTo acts schedule n))
  /-- A frame is dispatched to all handlers that are routed for its topic just then, and to no
  others. -/
  addressed : ∀ topic payload calls,
    .dispatched topic payload calls ∈ ((after name acts).step .dispatch).1 →
      calls.map Call.handler = (after name acts).hub.handlersFor topic ∧
      (calls.map Call.connection).Nodup ∧ ∀ call, call ∈ calls ↔ call.topic = topic ∧
        call.payload = payload ∧ routed acts topic call.connection = some call.handler
  /-- As long as nobody else gets a turn, the dispatcher goes on as `Hub.dispatchMany` does. -/
  alone : (after name acts).due = [] → ∀ {W : Type} (call : H → ByteArray → W → Outcome × W),
    (∀ handler payload world, (call handler payload world).1 = .returned) → ∀ steps world,
      ∃ turns events next, (after name acts).run (List.replicate turns .dispatch) =
          (events, ⟨next, [], (after name acts).shutdown⟩) ∧
        Hub.dispatchMany call steps (after name acts).hub world =
          (next, runAll (fun made => call made.handler made.payload) (called events) world)
  /-- A connection that keeps a handler for a topic gets the frames of that topic as they are
  dispatched, without gaps or repeats. -/
  stretch : ∀ during topic connection handler,
    (∀ part, part <+: during → routed (acts ++ part) topic connection = some handler) →
      ∃ payloads, payloadsOn topic (dispatched (history name (acts ++ during))) =
          payloadsOn topic (dispatched (history name acts)) ++ payloads ∧
        callsOf connection topic (recipients (history name (acts ++ during))) =
          callsOf connection topic (recipients (history name acts)) ++
            payloads.map fun payload => ⟨connection, topic, handler, payload⟩
  /-- When a flush returns, there has been a point at which the frames that were accepted before it,
  and no others, had been dispatched, and all calls for them had been made. -/
  flush : ∀ during ticket, .marked ticket ∈ ((after name acts).step .flush).1 →
    .flushed ticket ∈ ((after name (acts ++ .flush :: during)).step (.finishFlush ticket)).1 →
      ∃ part, part <+: history name (acts ++ .flush :: during) ∧
        dispatched part = accepted (history name acts) ∧ called part = recipients part
  /-- When the first shutdown returns, everything that was accepted has been dispatched, and all
  calls for it have been made. -/
  shutdown : .stopped ∈ ((after name acts).step .finishShutdown).1 →
    dispatched (history name acts) = accepted (history name acts) ∧
      called (history name acts) = recipients (history name acts)
  /-- From then on nothing is accepted, dispatched or called. -/
  stopped : .stopped ∈ ((after name acts).step .finishShutdown).1 → ∀ later,
    let w := after name (acts ++ .finishShutdown :: later)
    (∀ topic payload, w.step (.publish topic payload) = ([.refused .closed], w)) ∧
      w.step .flush = ([.refused .closed], w) ∧
      dispatched (history name (acts ++ .finishShutdown :: later)) =
        dispatched (history name acts) ∧
      called (history name (acts ++ .finishShutdown :: later)) = called (history name acts)

/-- A hub keeps its promises, whatever the threads do and in whichever order. -/
theorem keeps_protocol (name : String) (acts : List (Act H)) : Protocol name acts := by
  constructor
  case once => exact accepted_eq name acts
  case calls => exact recipients_eq name acts
  case progress => exact fun schedule fair => accepted_prefix acts name fair
  case addressed =>
    intro topic payload calls dispatched
    have turn := (after name acts).turn_dispatch
    rw [step] at dispatched
    rw [← route?_after name acts]
    generalize (after name acts).dispatch = result at turn dispatched
    cases turn with
    | call due => simp at dispatched
    | wait due queue => simp at dispatched
    | marker due queue => simp at dispatched
    | message due queue =>
      obtain ⟨rfl, rfl, rfl⟩ : _ ∧ _ ∧ _ := by simpa using dispatched
      exact ⟨handler_callsFor _ _ _, connection_callsFor _ _ _, fun call => mem_callsFor⟩
  case alone =>
    intro nothing W call returns steps world
    have idle : after name acts = ⟨(after name acts).hub, [], (after name acts).shutdown⟩ := by
      rw [← nothing]
    have drained := run_dispatchMany returns steps (after name acts).hub (after name acts).shutdown world
    rwa [← idle] at drained
  case stretch =>
    intro during topic connection handler stays
    have served := callsOf_run name acts during stays
    refine ⟨payloadsOn topic (dispatched ((after name acts).run during).1), ?_, ?_⟩
    · rw [history_append, dispatched_append, payloadsOn, payloadsOn, payloadsOn,
        List.filterMap_append]
    · rw [history_append, recipients_append, ← served, callsOf, callsOf, callsOf,
        List.filter_append]
  case flush =>
    intro during ticket marked flushed
    refine reached_flush marked ?_
    rw [step] at flushed
    by_contra absent
    rw [if_neg absent] at flushed
    contradiction
  case shutdown =>
    intro stopped
    obtain ⟨-, queue, due, -⟩ := stopped_step stopped
    refine ⟨?_, ?_⟩
    · rw [accepted_eq, queued, queue, List.filterMap_nil, List.append_nil]
    · rw [recipients_eq, due, List.append_nil]
  case stopped =>
    intro stopped later
    obtain ⟨frames, calls, refuses⟩ := after_stopped stopped later
    refine ⟨?_, ?_, frames, calls⟩
    · intro topic payload
      simp only [step, Hub.publish, Hub.send, refuses, Bool.false_and, Bool.false_eq_true, ↓reduceIte]
    · simp only [step, Hub.requestFlush, Hub.send, refuses, Bool.false_and, Bool.false_eq_true,
        ↓reduceIte]
      rfl

/-- A frame goes to the connection that listens, a flush waits for it, and a hub that is shut down
refuses the next. -/
example :
    history "hub" ([.subscribe 0 "a" 7, .publish "a" ⟨#[1]⟩, .flush, .dispatch, .dispatch, .dispatch,
      .finishFlush 0, .refuse, .publish "a" ⟨#[2]⟩, .takeCharge, .finishShutdown] : List (Act Nat)) =
      [.accepted "a" ⟨#[1]⟩, .marked 0, .dispatched "a" ⟨#[1]⟩ [⟨0, "a", 7, ⟨#[1]⟩⟩],
        .called ⟨0, "a", 7, ⟨#[1]⟩⟩, .reached 0, .flushed 0, .refused .closed, .stopped] := by
  rfl

end Vicinity.Loopback

import Vicinity.Proofs.Hub.Threads

/-! # Passage through a hub

`Moves` says what acts do to what passes through a hub, be it one act or any number of them: entries
come to the end of the queue and leave it at the front, and the calls for a frame become due when it
is taken and are made before another entry is.
-/

namespace Vicinity.Loopback

variable {H : Type}

/-! ## What passes through a hub -/

/-- What acts do to what passes through a hub. -/
structure Moves (w : Loopback H) (events : List (Event H)) (next : Loopback H) : Prop where
  entries : w.hub.queue ++ put events = taken events ++ next.hub.queue
  calls : w.due ++ recipients events = called events ++ next.due
  /-- When an entry is taken, all calls for the ones before have been made. -/
  paced : ∀ part event, part ++ [event] <+: events → event.taken?.isSome = true →
    w.due ++ recipients part = called part
  passed : next.hub.passed = w.hub.passed ++ (taken events).filterMap ticket?
  tickets : List.range next.hub.tickets =
    List.range w.hub.tickets ++ (put events).filterMap ticket?
  refuses : w.hub.accepting = false → put events = [] ∧ next.hub.accepting = false
  charge : next.shutdown ≠ .pending → w.shutdown ≠ .pending ∨ next.hub.accepting = false

theorem moves_self (w : Loopback H) : w.Moves [] w where
  entries := List.append_nil _
  calls := List.append_nil _
  paced part event within := by
    have short := within.length_le
    simp at short
  passed := (List.append_nil _).symm
  tickets := (List.append_nil _).symm
  refuses closed := ⟨rfl, closed⟩
  charge := .inl

theorem Moves.trans {w middle next : Loopback H} {events later : List (Event H)}
    (before : w.Moves events middle) (after : middle.Moves later next) :
    w.Moves (events ++ later) next where
  entries := by
    rw [put_append, ← List.append_assoc, before.entries, List.append_assoc, after.entries,
      taken_append, List.append_assoc]
  calls := by
    rw [recipients_append, ← List.append_assoc, before.calls, List.append_assoc, after.calls,
      called_append, List.append_assoc]
  paced part event within takes := by
    -- The event is one of the first acts, or of the second ones, which find due what the first left.
    rcases List.prefix_or_prefix_of_prefix within (List.prefix_append events later) with early | late
    · exact before.paced part event early takes
    rcases List.prefix_concat_iff.mp late with whole | ⟨rest, rfl⟩
    · exact before.paced part event (whole ▸ List.prefix_refl _) takes
    rw [List.append_assoc, List.prefix_append_right_inj] at within
    rw [recipients_append, ← List.append_assoc, before.calls, List.append_assoc,
      after.paced rest event within takes, called_append]
  passed := by
    rw [after.passed, before.passed, taken_append, List.filterMap_append, List.append_assoc]
  tickets := by
    rw [after.tickets, before.tickets, put_append, List.filterMap_append, List.append_assoc]
  refuses closed := by
    obtain ⟨none, still⟩ := before.refuses closed
    obtain ⟨later, last⟩ := after.refuses still
    exact ⟨by rw [put_append, none, later, List.append_nil], last⟩
  charge waits := by
    rcases after.charge waits with charged | closed
    · exact (before.charge charged).imp_right fun closed => (after.refuses closed).2
    · exact .inr closed

/-! ## Single acts -/

/-- Nothing passes when nothing is said of it and the queue and the calls stay as they are. -/
theorem moves_quiet {w : Loopback H} {events : List (Event H)} {routes : Table String (Table Nat H)}
    {connections : Nat} {accepting : Bool} {shutdown : Shutdown} (put : put events = [])
    (taken : taken events = []) (called : called events = [])
    (refuses : w.hub.accepting = false → accepting = false)
    (charge : shutdown ≠ .pending → w.shutdown ≠ .pending ∨ accepting = false) :
    w.Moves events { w with hub := { w.hub with routes, connections, accepting }, shutdown } where
  entries := by rw [put, taken, List.append_nil, List.nil_append]
  calls := by rw [recipients_of_taken taken, called, List.append_nil, List.nil_append]
  paced part event within takes := by
    have none := List.filterMap_eq_nil_iff.mp taken event (within.subset (by simp))
    rw [none] at takes
    contradiction
  passed := by rw [taken, List.filterMap_nil, List.append_nil]
  tickets := by rw [put, List.filterMap_nil, List.append_nil]
  refuses closed := ⟨put, refuses closed⟩
  charge := charge

private theorem eq_of_prefix_singleton {A : Type} {part : List A} {a b : A}
    (within : part ++ [a] <+: [b]) : part = [] ∧ a = b := by
  have short := within.length_le
  rw [List.length_append, List.length_singleton, List.length_singleton] at short
  obtain rfl : part = [] := List.eq_nil_of_length_eq_zero (by omega)
  exact ⟨rfl, (List.cons_prefix_cons.mp within).1⟩

/-- An event at which an entry is put into the queue. -/
theorem moves_put {w : Loopback H} {event : Event H} {entry : HubEntry}
    (accepting : w.hub.accepting = true) (puts : event.put? = some entry)
    (takes : event.taken? = none) (calls : event.called? = none) {tickets : Nat}
    (numbered : List.range tickets = List.range w.hub.tickets ++ [entry].filterMap ticket?) :
    w.Moves [event] { w with hub := { w.hub with queue := w.hub.queue ++ [entry], tickets } } := by
  have put : put [event] = [entry] := by simp [put, puts]
  have taken : taken [event] = [] := by simp [taken, takes]
  have called : called [event] = [] := by simp [called, calls]
  constructor
  case entries => rw [put, taken, List.nil_append]
  case calls => rw [recipients_of_taken taken, called, List.append_nil, List.nil_append]
  case paced =>
    intro part other within some
    rw [(eq_of_prefix_singleton within).2, takes] at some
    contradiction
  case passed => rw [taken, List.filterMap_nil, List.append_nil]
  case tickets => rw [put, numbered]
  case refuses =>
    intro closed
    rw [closed] at accepting
    contradiction
  case charge => exact .inl

/-- An event at which the oldest entry is taken from the queue. -/
theorem moves_take {w : Loopback H} {event : Event H} {entry : HubEntry} {rest : List HubEntry}
    {passed : List Nat} (queue : w.hub.queue = entry :: rest) (due : w.due = [])
    (takes : event.taken? = some entry) (puts : event.put? = none) (calls : event.called? = none)
    (counted : passed = w.hub.passed ++ [entry].filterMap ticket?) :
    w.Moves [event] { w with hub := { w.hub with queue := rest, passed }, due := event.calls } := by
  have put : put [event] = [] := by simp [put, puts]
  have taken : taken [event] = [entry] := by simp [taken, takes]
  have called : called [event] = [] := by simp [called, calls]
  have recipients : recipients [event] = event.calls := by simp [recipients]
  constructor
  case entries => rw [queue, put, taken, List.append_nil, List.singleton_append]
  case calls => rw [due, recipients, called]
  case paced =>
    intro part other within _
    rw [(eq_of_prefix_singleton within).1, due]
    rfl
  case passed => rw [taken, counted]
  case tickets => rw [put, List.filterMap_nil, List.append_nil]
  case refuses => exact fun closed => ⟨put, closed⟩
  case charge => exact .inl

/-- An event at which a call that is due is made. -/
theorem moves_call {w : Loopback H} {call : Call H} {rest : List (Call H)}
    (due : w.due = call :: rest) : w.Moves [.called call] { w with due := rest } where
  entries := List.append_nil _
  calls := by rw [due]; exact List.append_nil _
  paced part event within takes := by
    rw [(eq_of_prefix_singleton within).2] at takes
    contradiction
  passed := (List.append_nil _).symm
  tickets := (List.append_nil _).symm
  refuses closed := ⟨rfl, closed⟩
  charge := .inl

theorem moves_dispatch (w : Loopback H) : w.Moves w.dispatch.1 w.dispatch.2 := by
  have turn := w.turn_dispatch
  generalize w.dispatch = result at turn ⊢
  cases turn with
  | call due => exact moves_call due
  | wait due queue => exact moves_self w
  | @marker ticket rest due queue =>
    have none : (Event.reached ticket : Event H).calls = w.due := due.symm
    have taken := moves_take queue due (show (Event.reached ticket).taken? = _ from rfl) rfl rfl rfl
    rw [none] at taken
    exact taken
  | @message topic payload rest due queue =>
    let calls := callsFor w.hub topic payload
    exact moves_take queue due (show (Event.dispatched topic payload calls).taken? = _ from rfl)
      rfl rfl (List.append_nil _).symm

theorem moves_step (w : Loopback H) (act : Act H) : w.Moves (w.step act).1 (w.step act).2 := by
  cases act with
  | connect => exact moves_quiet rfl rfl rfl id .inl
  | subscribe connection topic handler => exact moves_quiet rfl rfl rfl id .inl
  | unsubscribe connection topic =>
    simp only [step, Hub.unsubscribe]
    split
    · exact moves_self w
    · exact moves_quiet rfl rfl rfl id .inl
  | close connection => exact moves_quiet rfl rfl rfl id .inl
  | publish topic payload =>
    simp only [step, Hub.publish]
    cases sent : w.hub.send (.message topic payload) with
    | error error => exact moves_quiet rfl rfl rfl id .inl
    | ok hub =>
      obtain ⟨accepting, rfl⟩ := Hub.eq_of_send sent
      exact moves_put accepting rfl rfl rfl (List.append_nil _).symm
  | flush =>
    simp only [step, Hub.requestFlush]
    cases sent : w.hub.send (.marker w.hub.tickets) with
    | error error => exact moves_quiet rfl rfl rfl id .inl
    | ok hub =>
      obtain ⟨accepting, rfl⟩ := Hub.eq_of_send sent
      exact moves_put accepting rfl rfl rfl List.range_succ
  | finishFlush ticket =>
    rw [step]
    split
    · exact moves_quiet rfl rfl rfl id .inl
    · exact moves_self w
  | refuse => exact moves_quiet rfl rfl rfl (fun _ => rfl) .inl
  | takeCharge =>
    rw [step]
    split
    · next ready => exact moves_quiet rfl rfl rfl id fun _ => .inr ready.1
    · exact moves_self w
  | finishShutdown =>
    rw [step]
    split
    · next ready =>
      refine moves_quiet rfl rfl rfl id fun _ => .inl ?_
      rw [ready.1]
      decide
    · exact moves_self w
  | dispatch => exact moves_dispatch w

theorem moves_run (w : Loopback H) (acts : List (Act H)) : w.Moves (w.run acts).1 (w.run acts).2 := by
  induction acts generalizing w with
  | nil => exact moves_self w
  | cons act rest ih => exact (moves_step w act).trans (ih _)

end Vicinity.Loopback

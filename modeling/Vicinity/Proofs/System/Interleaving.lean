import Vicinity.Proofs.System.Likeness

/-! # Updates of different subscribers

Every subscriber makes its updates one after another, but those of different subscribers may come in
any order, and may even overlap: an update changes the interests first and then makes its requests of
the broker one by one, and others may go on in between. Requests for one subscriber do not touch what
the broker has of another, so what matters of an order is only the order of each subscriber's own
updates, whatever topics come and go meanwhile.
-/

namespace Vicinity

variable {V S T M U J : Type}

/-- Whether a request makes a certain subscriber join or leave a topic. -/
def Request.IsFor {C : Type} (s : S) : Request T S C M → Prop
  | subscribe _ own _ | unsubscribe _ own => own = s
  | publish _ _ | close => False

variable [DecidableEq S]

/-! ## Requests for one subscriber -/

section Requests

variable [DecidableEq T] {C : Type}

omit [DecidableEq S] in
theorem Interests.isFor_of_mem_changes {s : S} {held wanted : TopicSet T} {callback : C}
    {r : Request T S C M} (member : r ∈ Interests.changes s held wanted callback) : r.IsFor s := by
  rcases List.mem_append.mp member with leaves | joins
  · obtain ⟨t, -, rfl⟩ := List.mem_map.mp leaves
    rfl
  · obtain ⟨t, -, rfl⟩ := List.mem_map.mp joins
    rfl

namespace PlainBroker

/-- Such a request calls nothing and counts nothing. -/
theorem serve_still (run : C → M → J → Outcome × J) (state : PlainBroker T S C × J) {s : S}
    {r : Request T S C M} (own : r.IsFor s) :
    (serve run state r).1.metrics = state.1.metrics ∧ (serve run state r).2 = state.2 := by
  cases r with
  | subscribe t _ callback => exact ⟨rfl, rfl⟩
  | unsubscribe t _ => exact ⟨rfl, rfl⟩
  | publish t message => contradiction
  | close => contradiction

theorem serveAll_still (run : C → M → J → Outcome × J) (state : PlainBroker T S C × J) {s : S}
    {requests : List (Request T S C M)} (own : ∀ r ∈ requests, r.IsFor s) :
    (serveAll run state requests).1.metrics = state.1.metrics ∧
      (serveAll run state requests).2 = state.2 := by
  induction requests generalizing state with
  | nil => exact ⟨rfl, rfl⟩
  | cons r rest ih =>
    have first := serve_still run state (own r (List.mem_cons_self ..))
    have later := ih (serve run state r) fun r member => own r (List.mem_cons_of_mem _ member)
    exact ⟨later.1.trans first.1, later.2.trans first.2⟩

/-- What is registered for another subscriber stays. -/
theorem get?_serve_of_ne (run : C → M → J → Outcome × J) (state : PlainBroker T S C × J)
    {s other : S} {r : Request T S C M} (own : r.IsFor s) (different : other ≠ s) (t : T) :
    ((serve run state r).1.registry t).get? other = (state.1.registry t).get? other := by
  cases r with
  | subscribe topic _ callback =>
    obtain rfl : _ = s := own
    simp [serve, Registry.get?_subscribe, different]
  | unsubscribe topic _ =>
    obtain rfl : _ = s := own
    simp [serve, Registry.get?_unsubscribe, different]
  | publish topic message => contradiction
  | close => contradiction

/-- What becomes of a subscriber's registrations is up to what it had. -/
theorem get?_serveAll_congr (run : C → M → J → Outcome × J) {state other : PlainBroker T S C × J}
    {s : S} {requests : List (Request T S C M)} (own : ∀ r ∈ requests, r.IsFor s)
    (same : ∀ t, (state.1.registry t).get? s = (other.1.registry t).get? s) (t : T) :
    ((serveAll run state requests).1.registry t).get? s =
      ((serveAll run other requests).1.registry t).get? s := by
  induction requests generalizing state other with
  | nil => exact same t
  | cons r rest ih =>
    refine ih (fun r member => own r (List.mem_cons_of_mem _ member)) fun t => ?_
    have mine := own r (List.mem_cons_self ..)
    cases r with
    | subscribe topic _ callback => simp [serve, Registry.get?_subscribe, same]
    | unsubscribe topic _ => simp [serve, Registry.get?_unsubscribe, same]
    | publish topic message => contradiction
    | close => contradiction

end PlainBroker

end Requests

/-! ## One update after another -/

/-- Some updates are made in an order that keeps the order of each subscriber's own. -/
structure SystemAction.Interleaves (keyOf : V → S) (family : S → List (Update V T U))
    (actions : List (SystemAction V T U M)) : Prop where
  updates : ∀ action ∈ actions, action.update?.isSome = true
  own : ∀ s, Update.own keyOf (history actions) s = family s

namespace MessagingSystem

variable [DecidableEq T] [Hashable T] {d : Deployment V S T M U J}

omit [DecidableEq S] in
theorem stats_of_mirrors {system : MessagingSystem V S T U J}
    {plain : PlainBroker T S (Registered V U) × J} (mirrors : system.network.Mirrors broker plain) :
    system.stats = plain.1.metrics := by
  obtain ⟨node, there, -, counted⟩ := mirrors.node
  rw [stats, there]
  exact counted

/-- An update calls nothing and counts nothing. -/
theorem Follows.update_still {system : MessagingSystem V S T U J} {past : List (Update V T U)}
    (follows : system.Follows d.keyOf past) (policy : Policy V T) (subscriber : V) (callback : U) :
    (system.update d policy subscriber callback).2.journal = system.journal ∧
      (system.update d policy subscriber callback).2.stats = system.stats := by
  obtain ⟨-, plain, mirrors, -⟩ := follows
  have served : (system.update d policy subscriber callback).2.network.Mirrors MessagingSystem.broker
      (PlainBroker.serveAll d.gated plain (system.update d policy subscriber callback).1) := by
    rw [MessagingSystem.update, requestAll, d.call_eq]
    exact mirrors.requestAll d.wire d.gated _
  have own : ∀ r ∈ (system.update d policy subscriber callback).1, r.IsFor (d.keyOf subscriber) :=
    fun r member => Interests.isFor_of_mem_changes member
  have still := PlainBroker.serveAll_still d.gated plain own
  constructor
  · exact (served.journal.trans still.2).trans mirrors.journal.symm
  · rw [stats_of_mirrors served, still.1, stats_of_mirrors mirrors]

theorem Follows.run_still {system : MessagingSystem V S T U J} {past : List (Update V T U)}
    (follows : system.Follows d.keyOf past) {actions : List (SystemAction V T U M)}
    (updates : ∀ action ∈ actions, action.update?.isSome = true) :
    (run d system actions).journal = system.journal ∧ (run d system actions).stats = system.stats := by
  induction actions generalizing system past with
  | nil => exact ⟨rfl, rfl⟩
  | cons action rest ih =>
    obtain ⟨journal, stats⟩ :=
      ih (follows.act action) fun other member => updates other (List.mem_cons_of_mem _ member)
    have first := updates action (List.mem_cons_self ..)
    cases action with
    | update policy subscriber callback =>
      have still := follows.update_still policy subscriber callback
      exact ⟨journal.trans still.1, stats.trans still.2⟩
    | broadcast policy publisher message => contradiction
    | close => contradiction

end MessagingSystem

/-! ## Updates that overlap -/

/-- A system with updates under way. -/
structure Updating (V S T U J : Type) (M : Type) where
  system : MessagingSystem V S T U J
  /-- The updates that each subscriber has yet to begin. -/
  ahead : S → List (Update V T U)
  /-- What each subscriber has yet to ask of the broker before it can begin another. -/
  unasked : S → List (Request T S (Registered V U) M)

namespace Updating

variable [DecidableEq T] [Hashable T]

/-- The subscribers of a system are about to make some updates. -/
def new (system : MessagingSystem V S T U J) (family : S → List (Update V T U)) :
    Updating V S T U J M :=
  ⟨system, family, fun _ => []⟩

/-- A subscriber begins with its next update: it is remembered with what it wants now. -/
def start (x : Updating V S T U J M) (s : S) (u : Update V T U) (later : List (Update V T U)) :
    Updating V S T U J M where
  system := { x.system with interests := x.system.interests.remember s u.wanted }
  ahead := Function.update x.ahead s later
  unasked := Function.update x.unasked s
    (Interests.changes s (x.system.interests.held s) u.wanted u.registered)

/-- A subscriber makes the next request of the update it is at. -/
def ask (d : Deployment V S T M U J) (x : Updating V S T U J M) (s : S)
    (r : Request T S (Registered V U) M) (later : List (Request T S (Registered V U) M)) :
    Updating V S T U J M where
  system := { x.system with
    network := (x.system.network.request d.wire d.call MessagingSystem.broker r).2 }
  ahead := x.ahead
  unasked := Function.update x.unasked s later

/-- It is a subscriber's turn to go on with its updates. -/
def turn (d : Deployment V S T M U J) (x : Updating V S T U J M) (s : S) : Updating V S T U J M :=
  match x.unasked s, x.ahead s with
  | r :: later, _ => x.ask d s r later
  | [], u :: later => x.start s u later
  | [], [] => x

/-- Subscribers take turns. -/
def turns (d : Deployment V S T M U J) (x : Updating V S T U J M) (schedule : List S) :
    Updating V S T U J M :=
  schedule.foldl (turn d) x

/-- All updates have been made. -/
structure Finished (x : Updating V S T U J M) : Prop where
  ahead : ∀ s, x.ahead s = []
  unasked : ∀ s, x.unasked s = []

/-- What a subscriber has yet to ask of the broker it can ask in as many turns. -/
theorem turns_ask (d : Deployment V S T M U J) (x : Updating V S T U J M) (s : S)
    {requests : List (Request T S (Registered V U) M)} (unasked : x.unasked s = requests) :
    (x.turns d (List.replicate requests.length s)).system =
      { x.system with network := MessagingSystem.requestAll d x.system.network requests } := by
  induction requests generalizing x with
  | nil => rfl
  | cons r rest ih =>
    have first : x.turn d s = x.ask d s r rest := by rw [turn, unasked]
    rw [List.length_cons, List.replicate_succ, turns, List.foldl_cons, first, ← turns]
    exact ih (x.ask d s r rest) (Function.update_self ..)

/-- An update that is not interrupted is an update of the system. -/
theorem turns_update (d : Deployment V S T M U J) (x : Updating V S T U J M) (policy : Policy V T)
    {u : Update V T U} {later : List (Update V T U)} (wanted : u.wanted = policy.interest u.subscriber)
    (idle : x.unasked (d.keyOf u.subscriber) = [])
    (next : x.ahead (d.keyOf u.subscriber) = u :: later) :
    let made := x.system.update d policy u.subscriber u.callback
    (x.turns d (List.replicate (made.1.length + 1) (d.keyOf u.subscriber))).system = made.2 := by
  intro made
  have first : x.turn d (d.keyOf u.subscriber) = x.start (d.keyOf u.subscriber) u later := by
    rw [turn, idle, next]
  have asks : (x.start (d.keyOf u.subscriber) u later).unasked (d.keyOf u.subscriber) = made.1 := by
    dsimp only [start]
    rw [Function.update_self, wanted]
    rfl
  rw [List.replicate_succ, turns, List.foldl_cons, first, ← turns, turns_ask d _ _ asks, start, wanted]
  rfl

/-- What every turn preserves: once a subscriber has asked for the rest, the broker has of it what the
updates have left that it has begun. -/
structure Tracks (d : Deployment V S T M U J) (x : Updating V S T U J M)
    (family : S → List (Update V T U)) (metrics : BrokerMetrics) (journal : J)
    (past : List (Update V T U)) : Prop where
  begun : ∀ s, Update.own d.keyOf past s ++ x.ahead s = family s
  keys : ∀ s, ∀ u ∈ x.ahead s, d.keyOf u.subscriber = s
  asks : ∀ s, ∀ r ∈ x.unasked s, r.IsFor s
  interests : x.system.interests.Keep d.keyOf past
  broker : ∃ plain : PlainBroker T S (Registered V U) × J,
    x.system.network.Mirrors MessagingSystem.broker plain ∧
    plain.1.metrics = metrics ∧ plain.2 = journal ∧
    ∀ s t r, ((PlainBroker.serveAll d.gated plain (x.unasked s)).1.registry t).get? s = some r ↔
      ∃ u, Update.Entered d.keyOf past s t u ∧ u.registered = r

variable {d : Deployment V S T M U J} {x : Updating V S T U J M} {family : S → List (Update V T U)}
  {metrics : BrokerMetrics} {journal : J} {past : List (Update V T U)}

theorem Tracks.start (tracks : Tracks d x family metrics journal past) {s : S} {u : Update V T U}
    {later : List (Update V T U)} (idle : x.unasked s = []) (next : x.ahead s = u :: later) :
    Tracks d (x.start s u later) family metrics journal (past ++ [u]) := by
  obtain ⟨begun, keys, asks, interests, plain, mirrors, counted, called, column⟩ := tracks
  obtain rfl : d.keyOf u.subscriber = s := keys s u (next ▸ List.mem_cons_self ..)
  constructor
  case begun =>
    intro s
    dsimp only [Updating.start]
    rw [Update.own_concat, Function.update_apply]
    by_cases own : d.keyOf u.subscriber = s
    · subst own
      rw [if_pos rfl, if_pos rfl, ← begun, next, List.append_assoc, List.singleton_append]
    · rw [if_neg own, if_neg (Ne.symm own), begun]
  case keys =>
    intro s v member
    dsimp only [Updating.start] at member
    rw [Function.update_apply] at member
    split at member
    · next own =>
      subst own
      exact keys _ v (next ▸ List.mem_cons_of_mem _ member)
    · exact keys s v member
  case asks =>
    intro s r member
    dsimp only [Updating.start] at member
    rw [Function.update_apply] at member
    split at member
    · next own =>
      subst own
      exact Interests.isFor_of_mem_changes member
    · exact asks s r member
  case interests => exact interests.remember u
  case broker =>
    refine ⟨plain, mirrors, counted, called, fun s t r => ?_⟩
    dsimp only [Updating.start]
    rw [Function.update_apply]
    split
    · next own =>
      subst own
      have known := column (d.keyOf u.subscriber)
      rw [idle] at known
      exact Registry.changes_own known (interests.mem_held_iff _) d.gated t r
    · next different =>
      rw [column s t r]
      simp [Update.entered_concat, Ne.symm different]

theorem Tracks.ask (tracks : Tracks d x family metrics journal past) {s : S}
    {r : Request T S (Registered V U) M} {later : List (Request T S (Registered V U) M)}
    (next : x.unasked s = r :: later) :
    Tracks d (x.ask d s r later) family metrics journal past := by
  obtain ⟨begun, keys, asks, interests, plain, mirrors, counted, called, column⟩ := tracks
  have own : r.IsFor s := asks s r (next ▸ List.mem_cons_self ..)
  constructor
  case begun => exact begun
  case keys => exact keys
  case asks =>
    intro other asked member
    dsimp only [Updating.ask] at member
    rw [Function.update_apply] at member
    split at member
    · next same =>
      subst same
      exact asks _ asked (next ▸ List.mem_cons_of_mem _ member)
    · exact asks other asked member
  case interests => exact interests
  case broker =>
    have served := mirrors.request d.wire d.gated r
    rw [← d.call_eq] at served
    have still := PlainBroker.serve_still d.gated plain own
    refine ⟨_, served, still.1.trans counted, still.2.trans called, fun other t asked => ?_⟩
    rw [← column other t asked]
    dsimp only [Updating.ask]
    rw [Function.update_apply]
    split
    · next same =>
      subst same
      rw [next]
      rfl
    · next different =>
      rw [PlainBroker.get?_serveAll_congr d.gated (asks other)
        fun t => PlainBroker.get?_serve_of_ne d.gated plain own different t]

/-- One turn. -/
theorem Tracks.turn (tracks : Tracks d x family metrics journal past) (s : S) :
    ∃ past', Tracks d (x.turn d s) family metrics journal past' := by
  rw [Updating.turn]
  split
  · next found => exact ⟨past, tracks.ask found⟩
  · next idle found => exact ⟨_, tracks.start idle found⟩
  · exact ⟨past, tracks⟩

theorem Tracks.turns (tracks : Tracks d x family metrics journal past) (schedule : List S) :
    ∃ past', Tracks d (x.turns d schedule) family metrics journal past' := by
  induction schedule generalizing x past with
  | nil => exact ⟨past, tracks⟩
  | cons s rest ih =>
    obtain ⟨next, turned⟩ := tracks.turn s
    exact ih turned

/-- When all updates have been made, the system follows a history of them. -/
theorem Tracks.follows (tracks : Tracks d x family metrics journal past) (finished : x.Finished) :
    x.system.Follows d.keyOf past ∧ (∀ s, Update.own d.keyOf past s = family s) ∧
      x.system.stats = metrics ∧ x.system.journal = journal := by
  obtain ⟨begun, -, -, interests, plain, mirrors, counted, called, column⟩ := tracks
  refine ⟨⟨interests, plain, mirrors, fun t s r => ?_⟩, fun s => ?_, ?_, ?_⟩
  · rw [← column s t r, finished.unasked s]
    rfl
  · rw [← begun s, finished.ahead s, List.append_nil]
  · rw [MessagingSystem.stats_of_mirrors mirrors, counted]
  · exact mirrors.journal.trans called

/-- A system that follows a history is ready to make further updates. -/
theorem tracks_new {system : MessagingSystem V S T U J} {past : List (Update V T U)}
    (follows : system.Follows d.keyOf past) {family : S → List (Update V T U)}
    (keys : ∀ s, ∀ u ∈ family s, d.keyOf u.subscriber = s) :
    Tracks d (new system family : Updating V S T U J M)
      (fun s => Update.own d.keyOf past s ++ family s) system.stats system.journal past := by
  obtain ⟨interests, plain, mirrors, records⟩ := follows
  constructor
  case begun => exact fun s => rfl
  case keys => exact keys
  case asks => exact fun s r member => absurd member List.not_mem_nil
  case interests => exact interests
  case broker =>
    refine ⟨plain, mirrors, ?_, mirrors.journal.symm, fun s t r => records t s r⟩
    exact (MessagingSystem.stats_of_mirrors mirrors).symm

end Updating

namespace MessagingSystem

variable [DecidableEq T] [Hashable T]

theorem Follows.run {d : Deployment V S T M U J} {system : MessagingSystem V S T U J}
    {past : List (Update V T U)} (follows : system.Follows d.keyOf past)
    (actions : List (SystemAction V T U M)) :
    (run d system actions).Follows d.keyOf (past ++ SystemAction.history actions) := by
  induction actions generalizing system past with
  | nil =>
    rw [SystemAction.history, List.filterMap_nil, List.append_nil]
    exact follows
  | cons action rest ih =>
    have later := ih (follows.act action)
    rw [List.append_assoc] at later
    have listed : SystemAction.history (action :: rest) =
        action.update?.toList ++ SystemAction.history rest := by
      cases action <;> rfl
    rw [listed]
    exact later

/-- From any point of a run, it makes no difference in which order several subscribers make their
updates, as long as each keeps to its own order: however the run goes on afterwards, the same
interests are remembered, the same callbacks are registered for the same topics, and a broadcast makes
the same calls. The updates themselves call and count nothing. The same holds if the updates overlap,
whatever turns the subscribers take, as soon as all have been made. -/
theorem interleavings_alike (d : Deployment V S T M U J) (layout : Layout) (kind : ChannelKind)
    (journal : J) (before : List (SystemAction V T U M)) {family : S → List (Update V T U)}
    {first second : List (SystemAction V T U M)}
    (one : SystemAction.Interleaves d.keyOf family first)
    (other : SystemAction.Interleaves d.keyOf family second) :
    let base := run d (inProcess layout kind journal) before
    let x := run d base first
    let y := run d base second
    (x.journal = y.journal ∧ x.stats = y.stats) ∧
    (∀ after, (run d x after).Delivers d ∧ (run d y after).Delivers d ∧
      Alike d (run d x after) (run d y after)) ∧
    ∀ schedule, ((Updating.new base family).turns d schedule).Finished →
      let z := ((Updating.new base family : Updating V S T U J M).turns d schedule).system
      (z.journal = x.journal ∧ z.stats = x.stats) ∧
      ∀ after, (run d z after).Delivers d ∧ Alike d (run d z after) (run d x after) := by
  intro base x y
  have start : base.Follows d.keyOf (SystemAction.history before) :=
    follows_run d layout kind journal before
  have follows {actions : List (SystemAction V T U M)} (after : List (SystemAction V T U M)) :=
    (start.run actions).run after
  have still {actions : List (SystemAction V T U M)}
      (interleaves : SystemAction.Interleaves d.keyOf family actions) :
      (run d base actions).journal = base.journal ∧ (run d base actions).stats = base.stats :=
    start.run_still interleaves.updates
  refine ⟨?_, ?_, ?_⟩
  · rw [(still one).1, (still one).2, (still other).1, (still other).2]
    exact ⟨rfl, rfl⟩
  · intro after
    refine ⟨(follows after).delivers, (follows after).delivers, (follows after).alike (follows after) ?_⟩
    intro s
    simp only [Update.own_append, one.own, other.own]
  · intro schedule finished z
    have keys : ∀ s, ∀ u ∈ family s, d.keyOf u.subscriber = s := by
      intro s u member
      rw [← one.own s] at member
      exact of_decide_eq_true (List.mem_filter.mp member).2
    obtain ⟨past, tracks⟩ := (Updating.tracks_new start keys).turns schedule
    obtain ⟨ends, own, stats, called⟩ := tracks.follows finished
    refine ⟨⟨called.trans (still one).1.symm, stats.trans (still one).2.symm⟩, fun after => ?_⟩
    refine ⟨(ends.run after).delivers, (ends.run after).alike (follows after) fun s => ?_⟩
    simp only [Update.own_append, own, one.own]

/-- One subscriber moves from the first topic to the second while another comes to the first and goes
again; in one order the first topic is never left, in the other it is. -/
theorem interleavings_alike_moved :
    let d : Deployment Bool Bool Nat Unit Unit (List Bool) :=
      { wire := ⟨toString, fun _ => .ok .empty, fun _ => .ok ()⟩
        keyOf := id
        filter := .acceptAll
        run := fun owner _ _ journal => (.returned, journal ++ [owner]) }
    let wants (topics : List Nat) : Policy Bool Nat := ⟨fun _ => .ofList topics, fun _ => .ok [1, 2]⟩
    let update (s : Bool) (topics : List Nat) : SystemAction Bool Nat Unit Unit :=
      .update (wants topics) s ()
    let first := [update true [1], update false [1], update true [2], update false []]
    let second := [update true [1], update true [2], update false [1], update false []]
    let family := Update.own d.keyOf (SystemAction.history first)
    let base : MessagingSystem Bool Bool Nat Unit (List Bool) := inProcess .concurrent .snapshot []
    let schedule := [true, false, true, true, false, false, true, false, true]
    SystemAction.Interleaves d.keyOf family first ∧ SystemAction.Interleaves d.keyOf family second ∧
    ((Updating.new base family).turns d schedule).Finished ∧
    Alike d (run d base first) (run d base second) ∧
    Alike d ((Updating.new base family).turns d schedule).system (run d base first) := by
  intro d wants update first second family base schedule
  have one : SystemAction.Interleaves d.keyOf family first := by
    constructor
    case updates => decide
    case own => exact fun s => rfl
  have other : SystemAction.Interleaves d.keyOf family second := by
    constructor
    case updates => decide
    case own =>
      intro s
      cases s <;> rfl
  have finished : ((Updating.new base family).turns d schedule).Finished := by
    constructor
    case ahead =>
      intro s
      apply List.isEmpty_iff.mp
      revert s
      decide +kernel
    case unasked =>
      intro s
      apply List.isEmpty_iff.mp
      revert s
      decide +kernel
  obtain ⟨-, alike, overlapped⟩ := interleavings_alike d .concurrent .snapshot [] [] one other
  exact ⟨one, other, finished, (alike []).2.2, ((overlapped schedule finished).2 []).2⟩

end MessagingSystem

end Vicinity

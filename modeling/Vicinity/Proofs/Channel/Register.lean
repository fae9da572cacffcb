import Vicinity.Proofs.Channel

/-! # Channels answer as a map

Whichever way a channel stores its subscribers, it answers a row of requests as one map from
subscribers to callbacks does, in which a subscriber that is there keeps the callback it has. That
map, `registered`, is read off the requests alone. The callbacks that a publication calls may do
what they like to a journal, which the channel is not in; in which order they are called is left
open.
-/

namespace Vicinity

variable {S C M J : Type}

/-- What can be asked of a channel. -/
inductive ChannelRequest (S C M : Type) where
  | subscribe (s : S) (callback : C)
  | unsubscribe (s : S)
  | publish (message : M)
  | size
  | isEmpty
  | isSubscribed (s : S)

inductive ChannelAnswer where
  | flag (yes : Bool)
  | count (n : Nat)
  | report (report : DeliveryReport)
deriving DecidableEq, Repr

namespace Channel

/-! ## The map -/

/-- The number of subscribers in a map. -/
noncomputable def population (map : S → Option C) : ℕ∞ := {s | (map s).isSome = true}.encard

/-- A publication to the subscribers in a map calls each one's callback once, in some order. -/
structure Delivers (run : C → J → Outcome × J) (map : S → Option C) (journal : J)
    (report : DeliveryReport) (after : J) : Prop where
  calls : ∃ order : List (S × C), (order.map Prod.fst).Nodup ∧
    (∀ s callback, (s, callback) ∈ order ↔ map s = some callback) ∧
    after = runAll (fun entry => run entry.2) order journal ∧
    report.failed = (outcomes (fun entry => run entry.2) order journal).count .panicked
  /-- If it depends on the callback alone whether its call panics, those that do are counted. -/
  failed : ∀ outcome : C → Outcome, (∀ callback j, (run callback j).1 = outcome callback) →
    {s | (map s).map outcome = some .panicked}.encard = report.failed
  delivered : population map = report.delivered + report.failed

/-- How a map answers a request. -/
def Answers (run : C → M → J → Outcome × J) (map : S → Option C) (journal : J)
    (answer : ChannelAnswer) (after : J) : ChannelRequest S C M → Prop
  | .subscribe s _ => answer = .flag (map s).isNone ∧ after = journal
  | .unsubscribe s => answer = .flag (map s).isSome ∧ after = journal
  | .publish message => ∃ report, answer = .report report ∧
    Delivers (fun callback => run callback message) map journal report after
  | .size => ∃ n : Nat, answer = .count n ∧ population map = n ∧ after = journal
  | .isEmpty => ∃ n : Nat, answer = .flag (n == 0) ∧ population map = n ∧ after = journal
  | .isSubscribed s => answer = .flag (map s).isSome ∧ after = journal

variable [DecidableEq S]

/-- What a request makes of a map. -/
def register (map : S → Option C) : ChannelRequest S C M → S → Option C
  | .subscribe s callback =>
    if (map s).isSome then map else Function.update map s (some callback)
  | .unsubscribe s => Function.update map s none
  | _ => map

/-- The callbacks of the subscribers after a row of requests. -/
def registered (requests : List (ChannelRequest S C M)) : S → Option C :=
  requests.foldl register fun _ => none

theorem registered_concat (before : List (ChannelRequest S C M)) (request : ChannelRequest S C M) :
    registered (before ++ [request]) = register (registered before) request :=
  List.foldl_concat ..

/-! ## The channel -/

/-- The answer to a request, the channel after it, and what its calls make of the journal. -/
def serve (run : C → M → J → Outcome × J) (channel : Channel S C) (journal : J) :
    ChannelRequest S C M → ChannelAnswer × Channel S C × J
  | .subscribe s callback =>
    let (added, next) := channel.subscribe s callback
    (.flag added, next, journal)
  | .unsubscribe s =>
    let (removed, next) := channel.unsubscribe s
    (.flag removed, next, journal)
  | .publish message =>
    let (report, after) := channel.publish (fun callback => run callback message) journal
    (.report report, channel, after)
  | .size => (.count channel.size, channel, journal)
  | .isEmpty => (.flag channel.isEmpty, channel, journal)
  | .isSubscribed s => (.flag (channel.isSubscribed s), channel, journal)

/-- Serve requests one after another. -/
def serveAll (run : C → M → J → Outcome × J) (channel : Channel S C) (journal : J)
    (requests : List (ChannelRequest S C M)) : Channel S C × J :=
  requests.foldl (fun state request => (state.1.serve run state.2 request).2) (channel, journal)

theorem get?_eq (channel : Channel S C) (s : S) : channel.get? s = channel.subscribers.get? s := by
  cases channel <;> rfl

omit [DecidableEq S] in
theorem size_eq (channel : Channel S C) : channel.size = channel.subscribers.size := by
  cases channel <;> rfl

theorem population_get? (channel : Channel S C) :
    population channel.get? = channel.subscribers.size := by
  rw [← Table.encard_keys]
  refine congrArg Set.encard (Set.ext fun s => ?_)
  rw [Set.mem_ofPred_eq, get?_eq]
  rfl

theorem delivers_publish (run : C → J → Outcome × J) (channel : Channel S C) (journal : J) :
    Delivers run channel.get? journal (channel.publish run journal).1
      (channel.publish run journal).2 := by
  rw [publish_eq]
  constructor
  case calls =>
    refine ⟨channel.subscribers.entries, channel.subscribers.nodup, ?_, ?_, ?_⟩
    · intro s callback
      rw [Table.mem_entries_iff, get?_eq]
    · rw [deliverAll_snd, Table.values, runAll_map]
    · rw [Table.values, deliverAll_map, deliverAll_failed]
  case failed =>
    intro outcome fixed
    let panicking := channel.subscribers.filter fun _ callback => outcome callback = .panicked
    have members : {s | (channel.get? s).map outcome = some .panicked} =
        {s | panicking.contains s = true} := by
      refine Set.ext fun s => ?_
      rw [Set.mem_ofPred_eq, Set.mem_ofPred_eq, Table.contains, Table.get?_filter, get?_eq]
      cases channel.subscribers.get? s with
      | none => simp
      | some callback => simp [Option.filter_some]
    rw [members, Table.encard_keys, deliverAll_failed, outcomes_eq_map fixed, Table.values,
      List.map_map, List.count, List.countP_map, List.countP_eq_length_filter]
    rfl
  case delivered =>
    have total := deliverAll_total run channel.subscribers.values journal
    rw [population_get?, ← Nat.cast_add, total, Table.values, List.length_map]
    rfl

theorem get?_serve (run : C → M → J → Outcome × J) (channel : Channel S C) (journal : J)
    (request : ChannelRequest S C M) :
    (channel.serve run journal request).2.1.get? = register channel.get? request := by
  funext other
  cases request with
  | subscribe s callback =>
    rw [serve, get?_subscribe, register]
    cases found : channel.get? s with
    | none =>
      by_cases same : other = s
      · simp [same, found]
      · simp [same]
    | some old =>
      by_cases same : other = s
      · simp [same, found]
      · simp [same]
  | unsubscribe s => rw [serve, get?_unsubscribe, register, Function.update_apply]
  | _ => rfl

/-- A channel answers a request as the map of its callbacks does. -/
theorem answers_serve (run : C → M → J → Outcome × J) (channel : Channel S C) (journal : J)
    (request : ChannelRequest S C M) :
    Answers run channel.get? journal (channel.serve run journal request).1
      (channel.serve run journal request).2.2 request := by
  cases request with
  | subscribe s callback =>
    have added : (channel.subscribe s callback).1 = (channel.get? s).isNone := by
      rw [subscribe_fst, isSubscribed, Option.not_isSome]
    exact ⟨congrArg ChannelAnswer.flag added, rfl⟩
  | unsubscribe s => exact ⟨congrArg ChannelAnswer.flag (unsubscribe_fst channel s), rfl⟩
  | publish message =>
    exact ⟨_, rfl, delivers_publish (fun callback => run callback message) channel journal⟩
  | size => exact ⟨_, congrArg ChannelAnswer.count (size_eq channel), population_get? channel, rfl⟩
  | isEmpty =>
    have empty : channel.isEmpty = (channel.subscribers.size == 0) := by
      rw [isEmpty_eq, Table.isEmpty, Table.size]
      cases channel.subscribers.entries <;> rfl
    exact ⟨_, congrArg ChannelAnswer.flag empty, population_get? channel, rfl⟩
  | isSubscribed s => exact ⟨rfl, rfl⟩

/-- After any requests, a channel holds what they have registered. -/
theorem get?_serveAll (run : C → M → J → Outcome × J) (channel : Channel S C) (journal : J)
    (requests : List (ChannelRequest S C M)) :
    (channel.serveAll run journal requests).1.get? = requests.foldl register channel.get? := by
  induction requests generalizing channel journal with
  | nil => rfl
  | cons request rest ih => rw [List.foldl_cons, ← get?_serve run channel journal, ← ih]; rfl

/-- Each of the three channels answers every request, after any others, as the map that those have
registered, and keeps to that map. -/
theorem serves_as_map (run : C → M → J → Outcome × J) (kind : ChannelKind) (journal : J)
    (before : List (ChannelRequest S C M)) (request : ChannelRequest S C M) :
    let (channel, reached) := (new kind).serveAll run journal before
    let (answer, next, after) := channel.serve run reached request
    Answers run (registered before) reached answer after request ∧
      next.get? = registered (before ++ [request]) := by
  have held : ((new kind).serveAll run journal before).1.get? = registered before := by
    rw [get?_serveAll, registered]
    congr 1
    exact funext fun s => get?_new kind s
  rw [registered_concat, ← held]
  exact ⟨answers_serve run _ _ request, get?_serve run _ _ request⟩

end Channel

end Vicinity

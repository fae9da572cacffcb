import Mathlib.Data.List.Chain
import Vicinity.Proofs.System.Interleaving

/-! # What updates ask of the broker

An update asks for the difference between the topics that a subscriber has and those that it wants,
and for nothing else: a subscriber that is new, one that loses all interest and one whose topics
change are cases of one law. Since what is remembered afterwards are the topics that are wanted, the
calls for a subscriber and a topic take turns over a whole run: no topic is joined twice without
being left in between, and none is left that has not been joined.
-/

namespace Vicinity

variable {V S T C M U J : Type} [DecidableEq S] [DecidableEq T]

/-! ## Calls that take turns -/

namespace Request

/-- Whether a request subscribes the subscriber to the topic or unsubscribes it, if it does either. -/
def joins? (s : S) (t : T) : Request T S C M → Option Bool
  | subscribe topic own _ => if topic = t ∧ own = s then some true else none
  | unsubscribe topic own => if topic = t ∧ own = s then some false else none
  | publish _ _ | close => none

/-- The calls for a subscriber and a topic among requests: `true` for a subscription and `false` for
an unsubscription. -/
def calls (s : S) (t : T) (requests : List (Request T S C M)) : List Bool :=
  requests.filterMap (joins? s t)

theorem calls_append (s : S) (t : T) (first second : List (Request T S C M)) :
    calls s t (first ++ second) = calls s t first ++ calls s t second :=
  List.filterMap_append

omit [DecidableEq S] in
/-- Of different topics, one is met at most once. -/
private theorem filterMap_once {topics : List T} (distinct : topics.Nodup) (t : T) (own : Prop)
    [Decidable own] (joins : Bool) :
    topics.filterMap (fun topic => if topic = t ∧ own then some joins else none) =
      if t ∈ topics ∧ own then [joins] else [] := by
  induction topics with
  | nil => simp
  | cons topic rest ih =>
    rw [List.nodup_cons] at distinct
    rw [List.filterMap_cons, ih distinct.2]
    by_cases same : topic = t
    · subst same
      by_cases mine : own <;> simp [mine, distinct.1]
    · simp [same, Ne.symm same]

theorem calls_unsubscribe {topics : List T} (distinct : topics.Nodup) (own s : S) (t : T) :
    calls s t (topics.map fun topic => (unsubscribe topic own : Request T S C M)) =
      if t ∈ topics ∧ own = s then [false] else [] := by
  rw [calls, List.filterMap_map]
  exact filterMap_once distinct t (own = s) false

theorem calls_subscribe {topics : List T} (distinct : topics.Nodup) (own s : S) (callback : C) (t : T) :
    calls s t (topics.map fun topic => (subscribe topic own callback : Request T S C M)) =
      if t ∈ topics ∧ own = s then [true] else [] := by
  rw [calls, List.filterMap_map]
  exact filterMap_once distinct t (own = s) true

end Request

/-- Calls that take turns. Each is the opposite of the one before it; the first one depends on whether
the subscriber was subscribed before, and the last one tells whether it is afterwards. -/
inductive Alternates : (before : Bool) → List Bool → (after : Bool) → Prop
  | nil (now : Bool) : Alternates now [] now
  | cons {now after : Bool} {later : List Bool} (rest : Alternates (!now) later after) :
      Alternates now ((!now) :: later) after

namespace Alternates

variable {before middle after : Bool} {first second : List Bool}

theorem append (one : Alternates before first middle) (other : Alternates middle second after) :
    Alternates before (first ++ second) after := by
  induction one with
  | nil => exact other
  | cons _ ih => exact .cons (ih other)

/-- No two calls of a kind follow one another. -/
theorem isChain (turns : Alternates before first after) : (before :: first).IsChain (· ≠ ·) := by
  induction turns with
  | nil now => exact List.isChain_singleton now
  | @cons now _ _ _ ih => exact List.isChain_cons_cons.mpr ⟨(Bool.not_ne_self now).symm, ih⟩

end Alternates

/-! ## One update -/

namespace Interests

/-- What an update comes to, told by what the subscriber wants now and what is remembered of it. One
that wants nothing leaves all its topics and is forgotten; one that is not remembered joins all that
it wants; of any other the topics that stay are left alone. -/
def revise (interests : Interests S T) (s : S) (wanted : TopicSet T) (callback : C) :
    List (Request T S C M) × Interests S T :=
  if wanted.isEmpty then
    match interests.get? s with
    | some held => (held.toList.map fun t => .unsubscribe t s, interests.erase s)
    | none => ([], interests)
  else
    match interests.get? s with
    | none => (wanted.toList.map fun t => .subscribe t s callback, interests.insert s wanted)
    | some held =>
      ((held.diff wanted).map (fun t => .unsubscribe t s) ++
        (wanted.diff held).map fun t => .subscribe t s callback, interests.insert s wanted)

/-- All these cases make the difference between what is held and what is wanted. -/
theorem revise_eq (interests : Interests S T) (s : S) (wanted : TopicSet T) (callback : C) :
    (interests.revise s wanted callback : List (Request T S C M) × Interests S T) =
      (changes s (interests.held s) wanted callback, interests.remember s wanted) := by
  rw [revise, changes, remember, held]
  cases blank : wanted.isEmpty with
  | true =>
    obtain rfl := TopicSet.eq_empty_of_isEmpty blank
    cases found : interests.get? s with
    | some held =>
      rw [Option.getD_some, TopicSet.diff_empty]
      exact congrArg (·, interests.erase s) (List.append_nil _).symm
    | none =>
      have absent := (interests.get?_eq_none_iff s).mp found
      simp only [if_true, Option.getD_none, Table.erase_of_absent absent]
      rfl
  | false =>
    cases interests.get? s with
    | some held => rfl
    | none =>
      simp only [Option.getD_none, TopicSet.diff_empty, Bool.false_eq_true, if_false]
      rfl

omit [DecidableEq T] in
/-- Afterwards the subscriber holds what it wants. -/
theorem held_remember (interests : Interests S T) (s other : S) (wanted : TopicSet T) :
    (interests.remember s wanted).held other = if other = s then wanted else interests.held other := by
  rw [held, held, remember]
  cases blank : wanted.isEmpty with
  | true =>
    rw [if_pos rfl, Table.get?_erase, TopicSet.eq_empty_of_isEmpty blank]
    split <;> rfl
  | false =>
    rw [if_neg Bool.false_ne_true, Table.get?_insert]
    split <;> rfl

/-- The calls of an update take the subscriber from what it held to what it wants. -/
theorem alternates_changes (interests : Interests S T) (own : S) (wanted : TopicSet T) (callback : C)
    (s : S) (t : T) :
    Alternates (decide (t ∈ interests.held s))
      (Request.calls s t (changes own (interests.held own) wanted callback : List (Request T S C M)))
      (decide (t ∈ (interests.remember own wanted).held s)) := by
  rw [changes, Request.calls_append, Request.calls_unsubscribe (TopicSet.nodup_diff ..),
    Request.calls_subscribe (TopicSet.nodup_diff ..), held_remember]
  simp only [TopicSet.mem_diff]
  by_cases mine : own = s
  · subst mine
    by_cases had : t ∈ interests.held own <;> by_cases wants : t ∈ wanted <;>
      simp only [had, wants, not_true, not_false_iff, and_self, and_true, and_false, if_true, if_false,
        decide_true, decide_false, List.append_nil, List.nil_append]
    · exact .nil true
    · exact .cons (.nil false)
    · exact .cons (.nil true)
    · exact .nil false
  · rw [if_neg (Ne.symm mine), if_neg fun both => mine both.2, if_neg fun both => mine both.2]
    exact .nil _

end Interests

namespace MessagingSystem

variable [Hashable T]

/-- What an update asks of the broker and what it leaves. The callback that is registered asks the
filter first. -/
structure Churn (d : Deployment V S T M U J) (system : MessagingSystem V S T U J) (subscriber : V)
    (wanted : TopicSet T) (callback : U) (requests : List (Request T S (Registered V U) M))
    (after : MessagingSystem V S T U J) : Prop where
  difference : ∃ left joined : List T,
    (left.Nodup ∧ ∀ t, t ∈ left ↔ t ∈ system.interests.held (d.keyOf subscriber) ∧ t ∉ wanted) ∧
    (joined.Nodup ∧ ∀ t, t ∈ joined ↔ t ∈ wanted ∧ t ∉ system.interests.held (d.keyOf subscriber)) ∧
    requests = left.map (fun t => .unsubscribe t (d.keyOf subscriber)) ++
      joined.map fun t => .subscribe t (d.keyOf subscriber) ⟨subscriber, callback⟩
  cases : (requests, after.interests) =
    system.interests.revise (d.keyOf subscriber) wanted ⟨subscriber, callback⟩
  filtered : ∀ message (network : Network T S (Registered V U) J),
    d.call ⟨subscriber, callback⟩ message network =
      if d.filter subscriber message then
        (d.run subscriber callback message network.journal).map id network.withJournal
      else (.returned, network)
  own : ∀ r ∈ requests, r.IsFor (d.keyOf subscriber)
  asked : after.network = requestAll d system.network requests
  held : after.interests.held (d.keyOf subscriber) = wanted
  others : ∀ other, other ≠ d.keyOf subscriber →
    after.interests.held other = system.interests.held other

theorem churn_update (d : Deployment V S T M U J) (policy : Policy V T)
    (system : MessagingSystem V S T U J) (subscriber : V) (callback : U) :
    let made := system.update d policy subscriber callback
    Churn d system subscriber (policy.interest subscriber) callback made.1 made.2 := by
  intro made
  constructor
  case difference =>
    refine ⟨_, _, ⟨TopicSet.nodup_diff .., fun t => ?_⟩, ⟨TopicSet.nodup_diff .., fun t => ?_⟩, rfl⟩
    · exact TopicSet.mem_diff ..
    · exact TopicSet.mem_diff ..
  case cases => exact (Interests.revise_eq ..).symm
  case filtered => exact fun message network => rfl
  case own => exact fun r member => Interests.isFor_of_mem_changes member
  case asked => rfl
  case held => exact (Interests.held_remember ..).trans (if_pos rfl)
  case others => exact fun other different => (Interests.held_remember ..).trans (if_neg different)

/-! ## Runs -/

/-- What an action asks of the broker. -/
def asks (d : Deployment V S T M U J) (system : MessagingSystem V S T U J) :
    SystemAction V T U M → List (Request T S (Registered V U) M)
  | .update policy subscriber callback => (system.update d policy subscriber callback).1
  | .broadcast policy publisher message =>
    match policy.targets publisher with
    | .error _ => []
    | .ok topics => topics.map fun t => .publish t message
  | .close => [.close]

/-- What a run asks of the broker, in order. -/
def asked (d : Deployment V S T M U J) (system : MessagingSystem V S T U J) :
    List (SystemAction V T U M) → List (Request T S (Registered V U) M)
  | [] => []
  | action :: rest => system.asks d action ++ asked d (act d system action) rest

theorem network_act (d : Deployment V S T M U J) (system : MessagingSystem V S T U J)
    (action : SystemAction V T U M) :
    (act d system action).network = requestAll d system.network (system.asks d action) := by
  cases action with
  | update policy subscriber callback => rfl
  | broadcast policy publisher message =>
    simp only [act, broadcast, asks]
    cases policy.targets publisher <;> rfl
  | close => rfl

/-- The broker is asked for these requests and for no others. -/
theorem network_run (d : Deployment V S T M U J) (system : MessagingSystem V S T U J)
    (actions : List (SystemAction V T U M)) :
    (run d system actions).network = requestAll d system.network (asked d system actions) := by
  induction actions generalizing system with
  | nil => rfl
  | cons action rest ih =>
    have later := ih (act d system action)
    rw [network_act, requestAll, requestAll, ← List.foldl_append] at later
    exact later

/-- One action: only an update subscribes or unsubscribes anyone. -/
theorem alternates_act (d : Deployment V S T M U J) (system : MessagingSystem V S T U J)
    (action : SystemAction V T U M) (s : S) (t : T) :
    Alternates (decide (t ∈ system.interests.held s)) (Request.calls s t (system.asks d action))
      (decide (t ∈ (act d system action).interests.held s)) := by
  cases action with
  | update policy subscriber callback => exact system.interests.alternates_changes ..
  | broadcast policy publisher message =>
    have same : (act d system (.broadcast policy publisher message)).interests = system.interests := by
      rw [act, broadcast]
      cases policy.targets publisher <;> rfl
    have none : Request.calls s t (system.asks d (.broadcast policy publisher message)) = [] := by
      rw [Request.calls, asks, List.filterMap_eq_nil_iff]
      cases policy.targets publisher with
      | error e => exact fun r member => absurd member List.not_mem_nil
      | ok topics =>
        intro r member
        obtain ⟨topic, -, rfl⟩ := List.mem_map.mp member
        rfl
    rw [same, none]
    exact .nil _
  | close => exact .nil _

theorem alternates_run (d : Deployment V S T M U J) (system : MessagingSystem V S T U J)
    (actions : List (SystemAction V T U M)) (s : S) (t : T) :
    Alternates (decide (t ∈ system.interests.held s)) (Request.calls s t (asked d system actions))
      (decide (t ∈ (run d system actions).interests.held s)) := by
  induction actions generalizing system with
  | nil => exact .nil _
  | cons action rest ih =>
    rw [asked, Request.calls_append]
    exact (alternates_act d system action s t).append (ih (act d system action))

/-- An update leaves the topics that are no longer wanted, each once, and then joins those that are
new, each once and with the same callback, which is called with what the filter lets pass; it asks the
broker for nothing else. So from any system the calls for a subscriber and a topic take turns, and if
nothing is remembered at first, they begin with a subscription. -/
theorem updates_alternate (d : Deployment V S T M U J) :
    (∀ (system : MessagingSystem V S T U J) (policy : Policy V T) (subscriber : V) (callback : U),
      let made := system.update d policy subscriber callback
      Churn d system subscriber (policy.interest subscriber) callback made.1 made.2) ∧
    (∀ (system : MessagingSystem V S T U J) (actions : List (SystemAction V T U M)),
      (run d system actions).network = requestAll d system.network (asked d system actions) ∧
      ∀ s t, (decide (t ∈ system.interests.held s) ::
        Request.calls s t (asked d system actions)).IsChain (· ≠ ·)) ∧
    ∀ (network : Network T S (Registered V U) J) (actions : List (SystemAction V T U M)) (s : S) (t : T),
      (false :: Request.calls s t (asked d ⟨∅, network⟩ actions)).IsChain (· ≠ ·) := by
  refine ⟨?update, fun system actions => ⟨?network, fun s t => ?turns⟩, fun network actions s t => ?new⟩
  case update => exact fun system policy => churn_update d policy system
  case network => exact network_run d system actions
  case turns => exact (alternates_run d system actions s t).isChain
  case new =>
    have turns := (alternates_run d ⟨∅, network⟩ actions s t).isChain
    have bare : decide (t ∈ (∅ : Interests S T).held s) = false :=
      decide_eq_false (TopicSet.not_mem_empty t)
    rw [bare] at turns
    exact turns

end MessagingSystem

end Vicinity

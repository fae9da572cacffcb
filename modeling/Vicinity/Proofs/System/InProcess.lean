import Vicinity.Proofs.Network.InProcess
import Vicinity.Proofs.System.History

/-! # Messaging systems over in-process brokers

A run of a system is a list of actions: updates of any subscribers, each with the policy as it is at
that moment, broadcasts, and attempts to close the broker. `Follows` is what every run preserves: the
interests are the topics that the latest updates have left, and the broker holds, for each topic and
subscriber, the callback of the update that entered the topic. From it follow where a broadcast
delivers and that interests and broker never drift apart.
-/

namespace Vicinity

variable {V S T M U J : Type} [DecidableEq S]

/-! ## What interests and registries remember of a history -/

/-- A registry has the callbacks of the updates that entered its topics, and no others. -/
def Registry.Records (keyOf : V → S) (g : Registry T S (Registered V U))
    (past : List (Update V T U)) : Prop :=
  ∀ t s r, (g t).get? s = some r ↔ ∃ u, Update.Entered keyOf past s t u ∧ u.registered = r

/-- Interests are what the latest updates have left. -/
def Interests.Keep (keyOf : V → S) (interests : Interests S T) (past : List (Update V T U)) : Prop :=
  ∀ s, interests.get? s = (Update.latest? keyOf past s).bind Update.kept?

theorem Registry.records_empty (keyOf : V → S) :
    Registry.Records keyOf (Registry.empty : Registry T S (Registered V U)) [] := by
  intro t s r
  have bare : ((Registry.empty : Registry T S (Registered V U)) t).get? s = none := rfl
  simp [bare, Update.not_entered_nil]

theorem Interests.mem_held_iff (interests : Interests S T) (s : S) (t : T) :
    t ∈ interests.held s ↔ ∃ topics, interests.get? s = some topics ∧ t ∈ topics := by
  rw [Interests.held]
  cases interests.get? s with
  | none => simp [TopicSet.not_mem_empty]
  | some topics => simp

/-- Some topics are remembered for a subscriber whose latest update wanted them and was not empty. -/
theorem Interests.Keep.get?_eq_some_iff {keyOf : V → S} {interests : Interests S T}
    {past : List (Update V T U)} (keep : interests.Keep keyOf past) (s : S) (topics : TopicSet T) :
    interests.get? s = some topics ↔
      ∃ u, Update.latest? keyOf past s = some u ∧ u.wanted.isEmpty = false ∧ u.wanted = topics := by
  rw [keep s, Option.bind_eq_some_iff]
  refine exists_congr fun u => and_congr_right fun _ => ?_
  rw [Update.kept?]
  cases u.wanted.isEmpty <;> simp

/-- A subscriber is remembered if its latest update wanted something. -/
theorem Interests.Keep.contains_iff {keyOf : V → S} {interests : Interests S T}
    {past : List (Update V T U)} (keep : interests.Keep keyOf past) (s : S) :
    interests.contains s = true ↔
      ∃ u, Update.latest? keyOf past s = some u ∧ u.wanted.isEmpty = false := by
  rw [Table.contains, Option.isSome_iff_exists]
  simp only [keep.get?_eq_some_iff]
  constructor
  · rintro ⟨_, u, last, occupied, _⟩
    exact ⟨u, last, occupied⟩
  · rintro ⟨u, last, occupied⟩
    exact ⟨_, u, last, occupied, rfl⟩

/-- The topics held for a subscriber are those it wants. -/
theorem Interests.Keep.mem_held_iff {keyOf : V → S} {interests : Interests S T}
    {past : List (Update V T U)} (keep : interests.Keep keyOf past) (s : S) (t : T) :
    t ∈ interests.held s ↔ Update.Wants keyOf past s t := by
  rw [Interests.mem_held_iff, Update.Wants]
  constructor
  · rintro ⟨topics, found, member⟩
    obtain ⟨u, last, _, rfl⟩ := (keep.get?_eq_some_iff s topics).mp found
    exact ⟨u, last, member⟩
  · rintro ⟨u, last, member⟩
    refine ⟨u.wanted, (keep.get?_eq_some_iff s _).mpr ⟨u, last, ?_, rfl⟩, member⟩
    rw [← Bool.not_eq_true, TopicSet.isEmpty_iff]
    exact fun bare => bare t member

theorem Interests.Keep.remember {keyOf : V → S} {interests : Interests S T}
    {past : List (Update V T U)} (keep : interests.Keep keyOf past) (u : Update V T U) :
    Interests.Keep keyOf (interests.remember (keyOf u.subscriber) u.wanted) (past ++ [u]) := by
  intro s
  rw [Update.latest?_concat, Interests.remember]
  by_cases own : keyOf u.subscriber = s
  · subst own
    cases blank : u.wanted.isEmpty <;>
      simp [Table.get?_erase, Table.get?_insert, Update.kept?, blank]
  · rw [if_neg own, ← keep s]
    cases u.wanted.isEmpty <;> simp [Table.get?_erase, Table.get?_insert, Ne.symm own]

/-- A registry has a callback for a subscriber on the topics that it wants. -/
theorem Registry.Records.isSome_iff {keyOf : V → S} {g : Registry T S (Registered V U)}
    {past : List (Update V T U)} (records : g.Records keyOf past) (s : S) (t : T) :
    ((g t).get? s).isSome = true ↔ Update.Wants keyOf past s t := by
  rw [Option.isSome_iff_exists, Update.wants_iff_entered]
  simp only [records t s]
  constructor
  · rintro ⟨_, u, entered, _⟩
    exact ⟨u, entered⟩
  · rintro ⟨u, entered⟩
    exact ⟨_, u, entered, rfl⟩

variable [DecidableEq T]

/-- The requests of an update bring up to date what a registry has of the subscriber, whatever it has
of others. -/
theorem Registry.changes_own {keyOf : V → S} {state : PlainBroker T S (Registered V U) × J}
    {past : List (Update V T U)} {u : Update V T U} (known : ∀ t r,
      (state.1.registry t).get? (keyOf u.subscriber) = some r ↔
        ∃ v, Update.Entered keyOf past (keyOf u.subscriber) t v ∧ v.registered = r)
    {held : TopicSet T} (current : ∀ t, t ∈ held ↔ Update.Wants keyOf past (keyOf u.subscriber) t)
    (run : Registered V U → M → J → Outcome × J) (t : T) (r : Registered V U) :
    ((PlainBroker.serveAll run state
      (Interests.changes (keyOf u.subscriber) held u.wanted u.registered)).1.registry t).get?
        (keyOf u.subscriber) = some r ↔
      ∃ v, Update.Entered keyOf (past ++ [u]) (keyOf u.subscriber) t v ∧ v.registered = r := by
  rw [Interests.changes, PlainBroker.serveAll_append, PlainBroker.serveAll_subscribe,
    PlainBroker.serveAll_unsubscribe]
  simp only [Update.entered_concat]
  -- A topic was wanted before or not, and is wanted now or not: only entering it anew registers.
  have left : t ∈ held.diff u.wanted ↔
      Update.Wants keyOf past (keyOf u.subscriber) t ∧ t ∉ u.wanted := by
    rw [TopicSet.mem_diff, current]
  have joined : t ∈ u.wanted.diff held ↔
      t ∈ u.wanted ∧ ¬ Update.Wants keyOf past (keyOf u.subscriber) t := by
    rw [TopicSet.mem_diff, current]
  by_cases had : Update.Wants keyOf past (keyOf u.subscriber) t
  · by_cases wanted : t ∈ u.wanted
    · simp [left, joined, wanted, had, known]
    · simp [left, joined, wanted, had]
  · have unentered (v : Update V T U) : ¬ Update.Entered keyOf past (keyOf u.subscriber) t v :=
      fun entered => had ((Update.wants_iff_entered past _ t).mpr ⟨v, entered⟩)
    have bare : (state.1.registry t).get? (keyOf u.subscriber) = none := by
      refine Option.eq_none_iff_forall_ne_some.mpr fun old found => ?_
      obtain ⟨v, entered, _⟩ := (known t old).mp found
      exact unentered v entered
    by_cases wanted : t ∈ u.wanted
    · simp [left, joined, wanted, had, bare, unentered]
    · simp [left, joined, wanted, had, bare, unentered]

/-- The requests of an update bring the records of a registry up to date. -/
theorem Registry.Records.changes {keyOf : V → S} {state : PlainBroker T S (Registered V U) × J}
    {past : List (Update V T U)} (records : state.1.registry.Records keyOf past) (u : Update V T U)
    (held : TopicSet T) (current : ∀ t, t ∈ held ↔ Update.Wants keyOf past (keyOf u.subscriber) t)
    (run : Registered V U → M → J → Outcome × J) :
    (PlainBroker.serveAll run state
      (Interests.changes (keyOf u.subscriber) held u.wanted u.registered)).1.registry.Records keyOf
        (past ++ [u]) := by
  intro t s r
  by_cases own : keyOf u.subscriber = s
  · subst own
    exact Registry.changes_own (fun t => records t _) current run t r
  · rw [Interests.changes, PlainBroker.serveAll_append, PlainBroker.serveAll_subscribe,
      PlainBroker.serveAll_unsubscribe]
    simp [Update.entered_concat, own, Ne.symm own, records t s r]

/-! ## Runs -/

/-- What may be asked of a system, with the policy as it is at that moment. -/
inductive SystemAction (V T U M : Type) where
  | update (policy : Policy V T) (subscriber : V) (callback : U)
  | broadcast (policy : Policy V T) (publisher : Publisher) (message : M)
  | close

namespace SystemAction

omit [DecidableEq T] in
/-- The update that an action is, if it is one. -/
def update? : SystemAction V T U M → Option (Update V T U)
  | update policy subscriber callback => some ⟨subscriber, policy.interest subscriber, callback⟩
  | broadcast _ _ _ => none
  | close => none

/-- The updates of a run, in order. -/
def history (actions : List (SystemAction V T U M)) : List (Update V T U) :=
  actions.filterMap update?

omit [DecidableEq T] in
theorem history_concat (actions : List (SystemAction V T U M)) (last : SystemAction V T U M) :
    history (actions ++ [last]) = history actions ++ last.update?.toList := by
  rw [history, List.filterMap_append, ← history]
  cases last <;> rfl

end SystemAction

/-- What a registered callback does to the journal once the filter has been asked. -/
def Deployment.gated (d : Deployment V S T M U J) (registered : Registered V U) (message : M)
    (journal : J) : Outcome × J :=
  if d.filter registered.owner message then
    d.run registered.owner registered.callback message journal
  else (.returned, journal)

omit [DecidableEq S] [DecidableEq T] in
theorem Deployment.call_eq (d : Deployment V S T M U J) : d.call = Network.onJournal d.gated := by
  funext registered message w
  simp only [call, Network.onJournal, gated]
  split <;> rfl

namespace MessagingSystem

/-- A system over an in-process broker. -/
def inProcess (layout : Layout) (kind : ChannelKind) (journal : J) : MessagingSystem V S T U J :=
  ⟨∅, (Network.new journal).addInProcess layout kind⟩

omit [DecidableEq S] [DecidableEq T] in
/-- Settings that plan for an in-process broker start such a system. -/
theorem start_inProcess (settings : BrokerSettings) (layout : Layout) (kind : ChannelKind)
    (planned : settings.plan = .ok (.inProcess layout kind)) (journal : J) :
    (start settings journal : Except BrokerError (MessagingSystem V S T U J)) =
      .ok (inProcess layout kind journal) := by
  rw [start, Network.addConfigured_eq, planned]
  rfl

variable [Hashable T]

def act (d : Deployment V S T M U J) (system : MessagingSystem V S T U J) :
    SystemAction V T U M → MessagingSystem V S T U J
  | .update policy subscriber callback => (system.update d policy subscriber callback).2
  | .broadcast policy publisher message => (system.broadcast d policy publisher message).2
  | .close => (system.close d).2

def run (d : Deployment V S T M U J) (system : MessagingSystem V S T U J)
    (actions : List (SystemAction V T U M)) : MessagingSystem V S T U J :=
  actions.foldl (act d) system

/-- Interests and broker agree with a history. -/
structure Follows (keyOf : V → S) (system : MessagingSystem V S T U J) (past : List (Update V T U)) :
    Prop where
  interests : system.interests.Keep keyOf past
  broker : ∃ plain : PlainBroker T S (Registered V U) × J,
    system.network.Mirrors broker plain ∧ plain.1.registry.Records keyOf past

theorem follows_inProcess (keyOf : V → S) (layout : Layout) (kind : ChannelKind) (journal : J) :
    (inProcess layout kind journal : MessagingSystem V S T U J).Follows keyOf [] :=
  ⟨fun _ => rfl, _, Network.mirrors_new layout kind journal, Registry.records_empty keyOf⟩

theorem Follows.update {d : Deployment V S T M U J} {system : MessagingSystem V S T U J}
    {past : List (Update V T U)} (follows : system.Follows d.keyOf past) (policy : Policy V T)
    (subscriber : V) (callback : U) :
    (system.update d policy subscriber callback).2.Follows d.keyOf
      (past ++ [⟨subscriber, policy.interest subscriber, callback⟩]) := by
  obtain ⟨interests, plain, mirrors, records⟩ := follows
  refine ⟨interests.remember ⟨subscriber, policy.interest subscriber, callback⟩, ?_⟩
  refine ⟨_, ?_, records.changes ⟨subscriber, policy.interest subscriber, callback⟩
    (system.interests.held (d.keyOf subscriber)) (interests.mem_held_iff _) d.gated⟩
  rw [MessagingSystem.update, requestAll, d.call_eq]
  exact mirrors.requestAll d.wire d.gated _

theorem Follows.broadcast {d : Deployment V S T M U J} {system : MessagingSystem V S T U J}
    {past : List (Update V T U)} (follows : system.Follows d.keyOf past) (policy : Policy V T)
    (publisher : Publisher) (message : M) :
    (system.broadcast d policy publisher message).2.Follows d.keyOf past := by
  rw [MessagingSystem.broadcast]
  cases policy.targets publisher with
  | error e => exact follows
  | ok topics =>
    obtain ⟨interests, plain, mirrors, records⟩ := follows
    refine ⟨interests,
      PlainBroker.serveAll d.gated plain (topics.map fun t => .publish t message), ?_, ?_⟩
    · dsimp only
      rw [requestAll, d.call_eq]
      exact mirrors.requestAll d.wire d.gated _
    · rw [(PlainBroker.serveAll_publish d.gated plain topics message).1]
      exact records

theorem Follows.close {d : Deployment V S T M U J} {system : MessagingSystem V S T U J}
    {past : List (Update V T U)} (follows : system.Follows d.keyOf past) :
    (system.close d).2.Follows d.keyOf past := by
  obtain ⟨interests, plain, mirrors, records⟩ := follows
  refine ⟨interests, plain, ?_, records⟩
  rw [MessagingSystem.close, d.call_eq]
  exact mirrors.request d.wire d.gated .close

theorem Follows.act {d : Deployment V S T M U J} {system : MessagingSystem V S T U J}
    {past : List (Update V T U)} (follows : system.Follows d.keyOf past)
    (action : SystemAction V T U M) :
    (act d system action).Follows d.keyOf (past ++ action.update?.toList) := by
  cases action with
  | update policy subscriber callback => exact follows.update policy subscriber callback
  | broadcast policy publisher message =>
    rw [SystemAction.update?, Option.toList_none, List.append_nil]
    exact follows.broadcast policy publisher message
  | close =>
    rw [SystemAction.update?, Option.toList_none, List.append_nil]
    exact follows.close

/-- A run keeps interests and broker in step with its updates. -/
theorem follows_run (d : Deployment V S T M U J) (layout : Layout) (kind : ChannelKind) (journal : J)
    (actions : List (SystemAction V T U M)) :
    (run d (inProcess layout kind journal) actions).Follows d.keyOf (SystemAction.history actions) := by
  induction actions using List.reverseRecOn with
  | nil => exact follows_inProcess d.keyOf layout kind journal
  | append_singleton actions last ih =>
    rw [run, List.foldl_append, List.foldl_cons, List.foldl_nil, ← run, SystemAction.history_concat]
    exact ih.act last

/-! ## Interests and the broker -/

/-- Whether the broker has a subscriber registered on a topic. -/
def isRegistered (system : MessagingSystem V S T U J) (s : S) (t : T) : Bool :=
  (system.network.subscribers broker t).contains s

def hasTopic (system : MessagingSystem V S T U J) (t : T) : Bool :=
  ((system.network.node? broker).map (·.hasTopic t)).getD false

/-- The topics that some subscriber is remembered with. -/
def topics (system : MessagingSystem V S T U J) : Set T :=
  {t | ∃ s held, system.interest? s = some held ∧ t ∈ held}

/-- Interests and broker show the same subscriptions, which are those that the latest updates of a
history wanted, and count them alike. -/
structure Agrees (keyOf : V → S) (system : MessagingSystem V S T U J) (past : List (Update V T U)) :
    Prop where
  registered : ∀ s t, system.isRegistered s t = true ↔
    ∃ held, system.interest? s = some held ∧ t ∈ held
  occupied : ∀ s held, system.interest? s = some held → held.isEmpty = false
  forgotten : ∀ s, system.interest? s = none ↔
    ∀ u, Update.latest? keyOf past s = some u → u.wanted.isEmpty = true
  remembered : ∀ s held, system.interest? s = some held →
    ∃ u, Update.latest? keyOf past s = some u ∧ u.wanted = held
  subscriberCount :
    {s | ∃ u, Update.latest? keyOf past s = some u ∧ u.wanted.isEmpty = false}.encard =
      system.subscriberCount
  topicCount : system.topics.encard = system.topicCount
  hasTopic : ∀ t, system.hasTopic t = true ↔ t ∈ system.topics

theorem Follows.agrees {keyOf : V → S} {system : MessagingSystem V S T U J}
    {past : List (Update V T U)} (follows : system.Follows keyOf past) :
    system.Agrees keyOf past := by
  obtain ⟨keep, plain, mirrors, records⟩ := follows
  obtain ⟨node, there, holds, _⟩ := mirrors.node
  have wanted (t : T) : plain.1.registry.hasTopic t = true ↔ t ∈ system.topics := by
    rw [Registry.hasTopic_iff]
    refine exists_congr fun s => ?_
    rw [← Option.isSome_iff_exists, records.isSome_iff, ← keep.mem_held_iff,
      Interests.mem_held_iff, interest?]
  refine ⟨?registered, ?occupied, ?forgotten, ?remembered, ?subscriberCount, ?topicCount, ?hasTopic⟩
  case registered =>
    intro s t
    rw [isRegistered, Network.subscribers_of_node? there, Node.subscribers, holds.subscribers,
      Table.contains, records.isSome_iff, ← keep.mem_held_iff, Interests.mem_held_iff, interest?]
  case occupied =>
    intro s held found
    obtain ⟨u, _, occupied, rfl⟩ := (keep.get?_eq_some_iff s held).mp found
    exact occupied
  case forgotten =>
    intro s
    rw [interest?, Table.get?_eq_none_iff, ← Bool.not_eq_true, keep.contains_iff]
    simp only [not_exists, not_and, Bool.not_eq_false]
  case remembered =>
    intro s held found
    obtain ⟨u, last, _, same⟩ := (keep.get?_eq_some_iff s held).mp found
    exact ⟨u, last, same⟩
  case subscriberCount =>
    simp only [← keep.contains_iff]
    exact system.interests.encard_keys
  case topicCount =>
    have counted : system.topicCount = node.topicCount := by
      rw [topicCount, there]
      rfl
    have same : system.topics = plain.1.registry.topics := Set.ext fun t => (wanted t).symm
    rw [counted, same]
    exact holds.topicCount
  case hasTopic =>
    intro t
    rw [hasTopic, there, ← wanted t, ← holds.hasTopic t]
    rfl

/-- Interests and broker never drift apart: they agree with each other and with the updates after
any run of updates, broadcasts and attempts to close. -/
theorem agrees_run (d : Deployment V S T M U J) (layout : Layout) (kind : ChannelKind) (journal : J)
    (actions : List (SystemAction V T U M)) :
    (run d (inProcess layout kind journal) actions).Agrees d.keyOf
      (SystemAction.history actions) :=
  (follows_run d layout kind journal actions).agrees

/-! ## What broadcasts reach -/

/-- The calls with which a message reaches the subscribers of one topic: for each that wants the
topic, the callback of the update that entered it, unless the filter rejects the message for the
subscriber as it was at that update. -/
structure Reaches (d : Deployment V S T M U J) (past : List (Update V T U)) (message : M) (t : T)
    (calls : List (S × Registered V U)) : Prop where
  once : (calls.map Prod.fst).Nodup
  mem_iff : ∀ s r, (s, r) ∈ calls ↔ ∃ u, Update.Entered d.keyOf past s t u ∧ u.registered = r ∧
    d.filter u.subscriber message = true

omit [DecidableEq T] [Hashable T] in
/-- What a registry has for a topic, less what the filter rejects, is what a message reaches. -/
theorem reaches_of_records {d : Deployment V S T M U J} {g : Registry T S (Registered V U)}
    {past : List (Update V T U)} (records : g.Records d.keyOf past) (message : M) (t : T) :
    Reaches d past message t ((g t).entries.filter fun call => d.filter call.2.owner message) where
  once := (g t).nodup.sublist (List.filter_sublist.map Prod.fst)
  mem_iff s r := by
    rw [List.mem_filter, Table.mem_entries_iff, records t s r]
    constructor
    · rintro ⟨⟨u, entered, rfl⟩, passed⟩
      exact ⟨u, entered, rfl, passed⟩
    · rintro ⟨u, entered, rfl, passed⟩
      exact ⟨⟨u, entered, rfl⟩, passed⟩

omit [DecidableEq S] [DecidableEq T] [Hashable T] in
/-- Gated callbacks leave the journal as the callbacks alone do that the filter lets through. -/
theorem runAll_gated (d : Deployment V S T M U J) (message : M)
    (calls : List (S × Registered V U)) (journal : J) :
    runAll (fun registered => d.gated registered message) (calls.map Prod.snd) journal =
      runAll (fun call => d.run call.2.owner call.2.callback message)
        (calls.filter fun call => d.filter call.2.owner message) journal := by
  rw [runAll_map, runAll, runAll, List.foldl_filter]
  congr 1
  funext j call
  rw [Deployment.gated]
  split <;> rfl

/-- After any run, a broadcast calls, for each topic it goes to and each subscriber that wants that
topic, exactly one callback if the filter accepts the message, and calls nothing else. It is the
callback of the update at which the topic entered the subscriber's interest, and the filter is asked
about the subscriber as it was then. A publisher that has no topics changes nothing. -/
theorem broadcast_calls_entered (d : Deployment V S T M U J) (layout : Layout) (kind : ChannelKind)
    (journal : J) (actions : List (SystemAction V T U M)) (policy : Policy V T)
    (publisher : Publisher) (message : M) :
    let system := run d (inProcess layout kind journal) actions
    let past := SystemAction.history actions
    (∀ s t, Update.Wants d.keyOf past s t ↔ ∃! u, Update.Entered d.keyOf past s t u) ∧
    match policy.targets publisher with
    | .error e => system.broadcast d policy publisher message = (.error e, system)
    | .ok topics =>
      (system.broadcast d policy publisher message).1 = .ok () ∧
      ∃ calls : List (List (S × Registered V U)),
        List.Forall₂ (Reaches d past message) topics calls ∧
        (system.broadcast d policy publisher message).2.journal =
          runAll (fun call => d.run call.2.owner call.2.callback message) calls.flatten
            system.journal := by
  intro system past
  refine ⟨fun s t => ?_, ?_⟩
  · rw [Update.wants_iff_entered]
    constructor
    · rintro ⟨u, entered⟩
      exact ⟨u, entered, fun v other => other.unique entered⟩
    · rintro ⟨u, entered, _⟩
      exact ⟨u, entered⟩
  · obtain ⟨_, plain, mirrors, records⟩ := follows_run d layout kind journal actions
    rw [MessagingSystem.broadcast]
    cases policy.targets publisher with
    | error e => rfl
    | ok topics =>
      refine ⟨rfl, topics.map fun t => (plain.1.registry t).entries.filter
        fun call => d.filter call.2.owner message, ?_, ?_⟩
      · rw [List.forall₂_map_right_iff, List.forall₂_same]
        exact fun t _ => reaches_of_records records message t
      · have served := mirrors.requestAll d.wire d.gated (topics.map fun t => .publish t message)
        have same : system.network.journal = plain.2 := mirrors.journal
        dsimp only [MessagingSystem.journal]
        rw [MessagingSystem.requestAll, d.call_eq]
        refine served.journal.trans ?_
        rw [(PlainBroker.serveAll_publish d.gated plain topics message).2, ← List.flatMap_def,
          ← List.filter_flatMap, ← runAll_gated, List.map_flatMap, same]
        rfl

end MessagingSystem

end Vicinity

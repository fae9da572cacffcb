import Vicinity.Proofs.System.InProcess

/-! # Systems that cannot be told apart

What a history says of a subscriber is said by that subscriber's own updates: neither its latest
update nor the one that entered a topic depends on when others made theirs. So two systems that have
seen the same updates of every subscriber remember the same interests and have the same callbacks
registered, though topics may have come and gone in another order, and a broadcast makes the same
calls in both.
-/

namespace Vicinity

variable {V S T M U J : Type} [DecidableEq S]

/-- Tables that show the same have the same entries, in whatever order. -/
theorem Table.entries_perm {left right : Table S U} (same : ∀ k, left.get? k = right.get? k) :
    left.entries.Perm right.entries := by
  refine (List.perm_ext_iff_of_nodup left.nodup.of_map right.nodup.of_map).mpr ?_
  rintro ⟨k, v⟩
  rw [mem_entries_iff, mem_entries_iff, same]

namespace Update

variable (keyOf : V → S)

/-- The updates of one subscriber. -/
def own (past : List (Update V T U)) (s : S) : List (Update V T U) :=
  past.filter fun u => keyOf u.subscriber = s

variable {keyOf}

theorem own_append (first second : List (Update V T U)) (s : S) :
    own keyOf (first ++ second) s = own keyOf first s ++ own keyOf second s :=
  List.filter_append ..

theorem own_concat (past : List (Update V T U)) (u : Update V T U) (s : S) :
    own keyOf (past ++ [u]) s =
      if keyOf u.subscriber = s then own keyOf past s ++ [u] else own keyOf past s := by
  rw [own_append]
  by_cases mine : keyOf u.subscriber = s <;> simp [mine, own]

theorem latest?_own (past : List (Update V T U)) (s : S) :
    latest? keyOf (own keyOf past s) s = latest? keyOf past s := by
  apply congrArg List.getLast?
  rw [own, List.filter_filter]
  simp

/-- Whether a topic was entered, and when, is up to the subscriber alone. -/
theorem entered_own (past : List (Update V T U)) (s : S) (t : T) (v : Update V T U) :
    Entered keyOf (own keyOf past s) s t v ↔ Entered keyOf past s t v := by
  induction past using List.reverseRecOn with
  | nil => rfl
  | append_singleton past u ih =>
    rw [own_concat]
    by_cases mine : keyOf u.subscriber = s
    · rw [if_pos mine, entered_concat, entered_concat, ih, Wants, Wants, latest?_own]
    · rw [if_neg mine, ih, entered_concat]
      simp [mine]

end Update

namespace MessagingSystem

variable [DecidableEq T] [Hashable T]

/-- The callbacks that the broker has for a topic. -/
def registered (system : MessagingSystem V S T U J) (t : T) : Table S (Registered V U) :=
  system.network.subscribers broker t

/-- The calls with which a message reaches the subscribers of a topic. -/
def calls (d : Deployment V S T M U J) (system : MessagingSystem V S T U J) (message : M) (t : T) :
    List (S × Registered V U) :=
  (system.registered t).entries.filter fun call => d.filter call.2.owner message

/-- Two systems cannot be told apart but by the order in which the subscribers of a topic are called. -/
structure Alike (d : Deployment V S T M U J) (x y : MessagingSystem V S T U J) : Prop where
  interest? : ∀ s, x.interest? s = y.interest? s
  subscriberCount : x.subscriberCount = y.subscriberCount
  registered : ∀ t s, (x.registered t).get? s = (y.registered t).get? s
  hasTopic : ∀ t, x.hasTopic t = y.hasTopic t
  topicCount : x.topicCount = y.topicCount
  calls : ∀ message t, (x.calls d message t).Perm (y.calls d message t)

/-- A broadcast makes the calls of the topics it goes to, topic by topic, and no others. -/
structure Delivers (d : Deployment V S T M U J) (system : MessagingSystem V S T U J) : Prop where
  refused : ∀ policy publisher message e, policy.targets publisher = .error e →
    system.broadcast d policy publisher message = (.error e, system)
  delivered : ∀ policy publisher message topics, policy.targets publisher = .ok topics →
    (system.broadcast d policy publisher message).1 = .ok () ∧
    (system.broadcast d policy publisher message).2.journal =
      runAll (fun call => d.run call.2.owner call.2.callback message)
        (topics.flatMap (system.calls d message)) system.journal

theorem Follows.delivers {d : Deployment V S T M U J} {system : MessagingSystem V S T U J}
    {past : List (Update V T U)} (follows : system.Follows d.keyOf past) : system.Delivers d := by
  obtain ⟨-, plain, mirrors, -⟩ := follows
  obtain ⟨node, there, holds, -⟩ := mirrors.node
  constructor
  case refused =>
    intro policy publisher message e refused
    rw [MessagingSystem.broadcast, refused]
  case delivered =>
    intro policy publisher message topics targets
    have served := mirrors.requestAll d.wire d.gated (topics.map fun t => .publish t message)
    have made : system.calls d message = fun t =>
        (plain.1.registry t).entries.filter fun call => d.filter call.2.owner message := by
      funext t
      rw [calls, registered, Network.subscribers_of_node? there, Node.subscribers, holds.subscribers]
    have before : system.journal = plain.2 := mirrors.journal
    rw [MessagingSystem.broadcast, targets]
    refine ⟨rfl, ?_⟩
    dsimp only [MessagingSystem.journal]
    rw [MessagingSystem.requestAll, d.call_eq]
    refine served.journal.trans ?_
    rw [(PlainBroker.serveAll_publish d.gated plain topics message).2, made, ← List.filter_flatMap,
      ← runAll_gated, List.map_flatMap, ← before]
    rfl

/-- Systems that have seen the same updates of every subscriber are alike. -/
theorem Follows.alike {d : Deployment V S T M U J} {x y : MessagingSystem V S T U J}
    {past other : List (Update V T U)} (first : x.Follows d.keyOf past)
    (second : y.Follows d.keyOf other)
    (same : ∀ s, Update.own d.keyOf past s = Update.own d.keyOf other s) : Alike d x y := by
  have interest (s : S) : x.interest? s = y.interest? s := by
    have latest : Update.latest? d.keyOf past s = Update.latest? d.keyOf other s :=
      congrArg List.getLast? (same s)
    rw [interest?, interest?, first.interests s, second.interests s, latest]
  have topics : x.topics = y.topics := by
    apply Set.ext
    intro t
    simp only [MessagingSystem.topics, interest]
  have registered (t : T) (s : S) : (x.registered t).get? s = (y.registered t).get? s := by
    obtain ⟨-, plain, mirrors, records⟩ := first
    obtain ⟨-, plain', mirrors', records'⟩ := second
    obtain ⟨node, there, holds, -⟩ := mirrors.node
    obtain ⟨node', there', holds', -⟩ := mirrors'.node
    rw [MessagingSystem.registered, MessagingSystem.registered, Network.subscribers_of_node? there,
      Network.subscribers_of_node? there', Node.subscribers, Node.subscribers, holds.subscribers,
      holds'.subscribers]
    apply Option.ext
    intro r
    rw [records, records']
    refine exists_congr fun u => and_congr_left fun _ => ?_
    rw [← Update.entered_own past, same, Update.entered_own]
  have agrees := first.agrees
  have agrees' := second.agrees
  constructor
  case interest? => exact interest
  case subscriberCount =>
    have counted := x.interests.encard_keys
    have counted' := y.interests.encard_keys
    have keys (s : S) : x.interests.contains s = y.interests.contains s :=
      congrArg Option.isSome (interest s)
    simp only [keys] at counted
    exact ENat.natCast_inj.mp (counted.symm.trans counted')
  case registered => exact registered
  case hasTopic =>
    intro t
    rw [Bool.eq_iff_iff, agrees.hasTopic, agrees'.hasTopic, topics]
  case topicCount =>
    have counted := agrees.topicCount
    rw [topics, agrees'.topicCount] at counted
    exact (ENat.natCast_inj.mp counted).symm
  case calls =>
    intro message t
    exact (Table.entries_perm (registered t)).filter _

end MessagingSystem

end Vicinity

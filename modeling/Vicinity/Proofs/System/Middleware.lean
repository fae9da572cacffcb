import Vicinity.Proofs.Network.Deferred
import Vicinity.Proofs.System.InProcess

/-! # Messaging systems over middleware brokers

A system over a middleware broker whose hub is flushed after every broadcast goes the same way as a
system over an in-process broker. `Couples` is what every run of the two preserves: they remember the
same interests, and their brokers keep step with one plain broker. What can be observed of the two is
then the same, but for the messages that no one has subscribed to, which only an in-process broker
counts as dropped.
-/

namespace Vicinity

variable {V S M U J : Type}

namespace MessagingSystem

section

variable [DecidableEq S] [Hashable String]

/-- A system over a middleware broker that joins a network. -/
def overMiddleware (w : Network String S (Registered V U) J) (uri : String) (kind : ChannelKind) :
    Except BrokerError (MessagingSystem V S String U J) :=
  (w.addMiddleware uri kind {}).map fun network => ⟨∅, network⟩

omit [DecidableEq S] [Hashable String] in
/-- Settings that plan for a middleware broker start such a system in a new network. -/
theorem start_overMiddleware (settings : BrokerSettings) {uri : String} {kind : ChannelKind}
    (planned : settings.plan = .ok (.middleware uri kind)) (journal : J) :
    (start settings journal : Except BrokerError (MessagingSystem V S String U J)) =
      overMiddleware (.new journal) uri kind := by
  rw [start, Network.addConfigured_eq, planned]
  rfl

/-- Wait until the hub of that name has dispatched all that the broker has sent. -/
def flush (d : Deployment V S String M U J) (name : String) (system : MessagingSystem V S String U J) :
    Except BrokerError (MessagingSystem V S String U J) :=
  let (result, network) := system.network.flush d.wire d.call system.network.queued name
  result.map fun _ => { system with network }

/-- Do what is asked of a system, and flush after a broadcast. -/
def actFlushed (d : Deployment V S String M U J) (name : String)
    (system : MessagingSystem V S String U J) (action : SystemAction V String U M) :
    Except BrokerError (MessagingSystem V S String U J) :=
  match action with
  | .broadcast policy publisher message => (system.broadcast d policy publisher message).2.flush d name
  | .update .. | .close => .ok (act d system action)

/-- A run that stops at the first flush that fails. -/
def runFlushed (d : Deployment V S String M U J) (name : String)
    (system : MessagingSystem V S String U J) (actions : List (SystemAction V String U M)) :
    Except BrokerError (MessagingSystem V S String U J) :=
  actions.foldlM (actFlushed d name) system

/-- Two systems remember the same interests, and the broker of one owes nothing of what the broker
of the other has done. -/
structure Couples (codec : Codec M) (name : String) (remote inside : MessagingSystem V S String U J) :
    Prop where
  interests : remote.interests = inside.interests
  brokers : ∃ plain : PlainBroker String S (Registered V U) × J,
    remote.network.Defers codec name plain [] ∧ inside.network.Mirrors broker plain

variable {d : Deployment V S String M U J} {codec : Codec M} {name : String}
  {remote inside : MessagingSystem V S String U J}

omit [DecidableEq S] [Hashable String] in
/-- To change a subscriber's topics a broker is neither closed nor asked to publish. -/
theorem quiet_changes {s : S} {held wanted : TopicSet String} {callback : Registered V U}
    {r : Request String S (Registered V U) M}
    (member : r ∈ Interests.changes s held wanted callback) :
    r ≠ .close ∧ Pending.ofRequest r = [] := by
  rw [Interests.changes, List.mem_append, List.mem_map, List.mem_map] at member
  obtain ⟨t, _, rfl⟩ | ⟨t, _, rfl⟩ := member
  · exact ⟨by rintro ⟨⟩, rfl⟩
  · exact ⟨by rintro ⟨⟩, rfl⟩

theorem Couples.update (couples : Couples codec name remote inside) (wired : d.wire = ⟨id, codec⟩)
    (faithful : ∀ message, ∃ payload, codec.encode message = .ok payload ∧
      codec.decode payload = .ok message)
    (policy : Policy V String) (subscriber : V) (callback : U) :
    Couples codec name (remote.update d policy subscriber callback).2
      (inside.update d policy subscriber callback).2 := by
  obtain ⟨interests, plain, defers, mirrors⟩ := couples
  let requests : List (Request String S (Registered V U) M) :=
    Interests.changes (d.keyOf subscriber) (inside.interests.held (d.keyOf subscriber))
      (policy.interest subscriber) ⟨subscriber, callback⟩
  have deferred : (remote.network.requestAll d.wire d.call 0 requests).Defers codec name
      (PlainBroker.serveAll d.gated plain requests) [] := by
    rw [wired, d.call_eq]
    exact defers.requestAll_quietly faithful d.gated (fun _ member => (quiet_changes member).1)
      fun _ member => (quiet_changes member).2
  have served : (inside.network.requestAll d.wire d.call broker requests).Mirrors broker
      (PlainBroker.serveAll d.gated plain requests) := by
    rw [d.call_eq]
    exact mirrors.requestAll d.wire d.gated requests
  rw [MessagingSystem.update, MessagingSystem.update, interests]
  exact ⟨rfl, _, deferred, served⟩

/-- A flush makes up for what a broadcast has left to the hub. -/
theorem Couples.broadcast (couples : Couples codec name remote inside) (wired : d.wire = ⟨id, codec⟩)
    (faithful : ∀ message, ∃ payload, codec.encode message = .ok payload ∧
      codec.decode payload = .ok message)
    (policy : Policy V String) (publisher : Publisher) (message : M) :
    ∃ after, (remote.broadcast d policy publisher message).2.flush d name = .ok after ∧
      Couples codec name after (inside.broadcast d policy publisher message).2 := by
  obtain ⟨interests, plain, defers, mirrors⟩ := couples
  have flushed {network : Network String S (Registered V U) J} {state} {pending : List (Pending M)}
      (defers : network.Defers codec name state pending) :
      ∃ after, flush d name ⟨remote.interests, network⟩ = .ok ⟨remote.interests, after⟩ ∧
        after.Defers codec name (pending.foldl (Pending.deliver d.gated) state) [] := by
    obtain ⟨after, succeeds, finished⟩ := defers.flush d.gated
    refine ⟨after, ?_, finished⟩
    rw [flush, wired, d.call_eq, succeeds]
    rfl
  rw [MessagingSystem.broadcast, MessagingSystem.broadcast]
  cases policy.targets publisher with
  | error e =>
    obtain ⟨after, succeeds, finished⟩ := flushed defers
    exact ⟨_, succeeds, interests, plain, finished, mirrors⟩
  | ok topics =>
    have sent := defers.requestAll_publish faithful d.call topics message
    obtain ⟨after, succeeds, finished⟩ := flushed sent
    rw [List.nil_append, List.foldl_map] at finished
    have served := mirrors.requestAll d.wire d.gated (topics.map fun t => .publish t message)
    rw [PlainBroker.serveAll, List.foldl_map] at served
    refine ⟨⟨remote.interests, after⟩, ?_, interests, _, finished, ?_⟩
    · rw [← wired] at succeeds
      exact succeeds
    · dsimp only
      rw [requestAll, d.call_eq]
      exact served

theorem Couples.act (couples : Couples codec name remote inside) (wired : d.wire = ⟨id, codec⟩)
    (faithful : ∀ message, ∃ payload, codec.encode message = .ok payload ∧
      codec.decode payload = .ok message)
    {action : SystemAction V String U M} (stays : action ≠ .close) :
    ∃ after, remote.actFlushed d name action = .ok after ∧
      Couples codec name after (inside.act d action) := by
  cases action with
  | update policy subscriber callback =>
    exact ⟨_, rfl, couples.update wired faithful policy subscriber callback⟩
  | broadcast policy publisher message =>
    exact couples.broadcast wired faithful policy publisher message
  | close => contradiction

/-- A run of the two systems keeps them coupled, and no flush fails. -/
theorem Couples.run (couples : Couples codec name remote inside) (wired : d.wire = ⟨id, codec⟩)
    (faithful : ∀ message, ∃ payload, codec.encode message = .ok payload ∧
      codec.decode payload = .ok message)
    {actions : List (SystemAction V String U M)} (stay : .close ∉ actions) :
    ∃ after, remote.runFlushed d name actions = .ok after ∧
      Couples codec name after (inside.run d actions) := by
  induction actions generalizing remote inside with
  | nil => exact ⟨remote, rfl, couples⟩
  | cons action rest ih =>
    rw [List.mem_cons, not_or] at stay
    obtain ⟨next, acted, coupled⟩ := couples.act wired faithful (Ne.symm stay.1)
    obtain ⟨after, finished, together⟩ := ih coupled stay.2
    refine ⟨after, ?_, together⟩
    rw [runFlushed, List.foldlM_cons, acted]
    exact finished

/-- What can be observed of two systems is the same, but that one of them has dropped nothing. -/
structure Resembles (remote inside : MessagingSystem V S String U J) : Prop where
  journal : remote.journal = inside.journal
  interest? : ∀ s, remote.interest? s = inside.interest? s
  subscriberCount : remote.subscriberCount = inside.subscriberCount
  topicCount : remote.topicCount = inside.topicCount
  hasTopic : ∀ t, remote.hasTopic t = inside.hasTopic t
  stats : remote.stats = { inside.stats with dropped := 0 }

theorem Couples.resembles (couples : Couples codec name remote inside) : remote.Resembles inside := by
  obtain ⟨interests, plain, defers, mirrors⟩ := couples
  obtain ⟨near, only, _, owes⟩ := defers.node
  obtain ⟨far, there, holds, counted⟩ := mirrors.node
  have here : remote.network.node? broker = some (.middleware near) := by
    rw [Network.node?, only]
    rfl
  have topics (t : String) : near.hasTopic t = plain.1.registry.hasTopic t := by
    rw [owes.attached.hasTopic, owes.registry]
  refine ⟨?journal, ?interest, ?subscriberCount, ?topicCount, ?hasTopic, ?stats⟩
  case journal => exact defers.journal.trans mirrors.journal.symm
  case interest =>
    intro s
    rw [MessagingSystem.interest?, interests]
    rfl
  case subscriberCount =>
    rw [MessagingSystem.subscriberCount, interests]
    rfl
  case topicCount =>
    have same : {t | near.routes.contains t = true} = plain.1.registry.topics := by
      ext t
      rw [Set.mem_ofPred_eq, Registry.topics, Set.mem_ofPred_eq, ← topics t]
      rfl
    have sizes := near.routes.encard_keys
    rw [same, holds.topicCount] at sizes
    rw [MessagingSystem.topicCount, MessagingSystem.topicCount, here, there]
    exact (Nat.cast_inj.mp sizes).symm
  case hasTopic =>
    intro t
    rw [MessagingSystem.hasTopic, MessagingSystem.hasTopic, here, there]
    exact (topics t).trans (holds.hasTopic t).symm
  case stats =>
    have same := owes.metrics
    rw [List.countP_nil, BrokerMetrics.ahead_zero, ← counted] at same
    rw [MessagingSystem.stats, MessagingSystem.stats, here, there]
    exact same

/-- A system cannot tell a middleware broker from an in-process one. The broker joins a hub that is in
order and through which no one else sends, and the hub is flushed after every broadcast; every
message can be encoded and is decoded to what it was. Then, whatever is asked of the two systems, the
flushes succeed and the systems resemble each other, step by step. The kinds of channels, the
in-process layout and the hash that spreads topics over shards make no difference, and callbacks may
return or panic as they like. -/
theorem overMiddleware_resembles (d : Deployment V S String M U J) (named : d.wire.nameOf = id)
    (faithful : ∀ message, ∃ payload, d.wire.codec.encode message = .ok payload ∧
      d.wire.codec.decode payload = .ok message)
    {uri name : String} (leads : Connector.hubName uri = .ok name)
    {w : Network String S (Registered V U) J} (quiet : w.Quiet name) (kind : ChannelKind)
    (layout : Layout) (insideKind : ChannelKind) {actions : List (SystemAction V String U M)}
    (stay : .close ∉ actions) :
    ∃ start after, overMiddleware w uri kind = .ok start ∧
      runFlushed d name start actions = .ok after ∧
      after.Resembles (run d (inProcess layout insideKind w.journal) actions) := by
  have wired : d.wire = ⟨id, d.wire.codec⟩ := by rw [← named]
  obtain ⟨joined, added, defers⟩ := quiet.defers d.wire.codec leads kind
  have coupled : Couples d.wire.codec name ⟨∅, joined⟩ (inProcess layout insideKind w.journal) :=
    ⟨rfl, _, defers, Network.mirrors_new layout insideKind w.journal⟩
  obtain ⟨after, finished, together⟩ := coupled.run wired faithful stay
  refine ⟨⟨∅, joined⟩, after, ?_, finished, together.resembles⟩
  rw [overMiddleware, added]
  rfl

end

/-- Two subscribers hear of one topic, of which the second panics, and no one hears of the other. -/
theorem overMiddleware_resembles_news :
    let d : Deployment Nat Nat String ByteArray Unit (List Nat) :=
      { wire := ⟨id, .ok, .ok⟩
        keyOf := id
        filter := .acceptAll
        run := fun owner _ _ journal =>
          (if owner = 2 then .panicked else .returned, journal ++ [owner]) }
    let policy : Policy Nat String := ⟨fun _ => .ofList ["news"], fun _ => .ok ["news", "weather"]⟩
    let actions : List (SystemAction Nat String Unit ByteArray) :=
      [.update policy 1 (), .update policy 2 (), .broadcast policy (.text "town") .empty]
    let w : Network String Nat (Registered Nat Unit) (List Nat) := .new []
    d.wire.nameOf = id ∧
    (∀ message, ∃ payload, d.wire.codec.encode message = .ok payload ∧
      d.wire.codec.decode payload = .ok message) ∧
    Connector.hubName "loopback://town" = .ok "town" ∧ w.Quiet "town" ∧ .close ∉ actions ∧
    ∃ start after, overMiddleware w "loopback://town" .concurrent = .ok start ∧
      runFlushed d "town" start actions = .ok after ∧
      after.journal = [1, 2] ∧ after.stats = ⟨2, 0, 1, 1⟩ := by
  intro d policy actions w
  have faithful (message : ByteArray) : ∃ payload, d.wire.codec.encode message = .ok payload ∧
      d.wire.codec.decode payload = .ok message := ⟨message, rfl, rfl⟩
  have leads : Connector.hubName "loopback://town" = .ok "town" := rfl
  have quiet : w.Quiet "town" := Network.quiet_new "town" []
  have stay : .close ∉ actions := by
    simp only [actions, List.mem_cons, List.not_mem_nil, reduceCtorEq, or_self, not_false_eq_true]
  refine ⟨rfl, faithful, leads, quiet, stay, ?_⟩
  obtain ⟨start, after, started, finished, alike⟩ :=
    overMiddleware_resembles d rfl faithful leads quiet .concurrent .concurrent .concurrent stay
  refine ⟨start, after, started, finished, ?_, ?_⟩
  · rw [alike.journal]
    decide +kernel
  · rw [alike.stats]
    decide +kernel

end MessagingSystem

end Vicinity

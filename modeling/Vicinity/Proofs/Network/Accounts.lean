import Vicinity.Proofs.Network.InProcess
import Vicinity.Proofs.Network.Tally

/-! # The counters account for the log

Between two states of a network the counters of every node grow by what the log in between says of
the node: one for each of its publications and each that was dropped, and one for each call that
returned or panicked. And a node calls each of the subscribers that it finds for a publication or a
frame once, so the ends of its calls add up to its audiences.
-/

namespace Vicinity

variable {T S C J M W : Type}

open Incident

/-! ## Nodes -/

namespace Node

/-- Whether a broker delivers inside the process. -/
def isInProcess : Node T S C → Bool
  | inProcess _ => true
  | middleware _ => false

theorem eq_inProcess {node : Node T S C} (kind : node.isInProcess = true) :
    ∃ broker, node = .inProcess broker := by
  cases node with
  | inProcess broker => exact ⟨broker, rfl⟩
  | middleware broker => contradiction

theorem eq_middleware {node : Node T S C} (kind : node.isInProcess = false) :
    ∃ broker, node = .middleware broker := by
  cases node with
  | inProcess broker => contradiction
  | middleware broker => exact ⟨broker, rfl⟩

end Node

/-- Whether a publication is one inside the process. -/
def Fate.isInProcess : Fate → Bool
  | unheard | heard _ => true
  | closed | unencodable | refused | sent => false

theorem Fate.audience_eq_zero {fate : Fate} (kind : fate.isInProcess = false) :
    fate.audience = 0 := by
  cases fate with
  | unheard | heard => contradiction
  | closed | unencodable | refused | sent => rfl

theorem MiddlewareBroker.isInProcess_fate (nameOf : T → String) (codec : Codec M)
    (broker : MiddlewareBroker T S C) (hub : Hub (Inbound T)) (t : T) (message : M) :
    (broker.fate nameOf codec hub t message).isInProcess = false := by
  rw [fate]
  split
  · rfl
  · split
    · rfl
    · split <;> rfl

/-- A broker inside the process has no channel without subscribers. -/
def Node.Orderly [DecidableEq T] [Hashable T] : Node T S C → Prop
  | inProcess broker => ∃ g, broker.Holds g
  | middleware _ => True

/-- A node of the same kind as another, and in order. -/
structure Node.Succeeds [DecidableEq T] [Hashable T] (node old : Node T S C) : Prop where
  kind : node.isInProcess = old.isInProcess
  orderly : node.Orderly

theorem Node.succeeds_inProcess [DecidableEq T] [Hashable T] {broker : InProcessBroker T S C}
    {g : Registry T S C} (holds : broker.Holds g) (old : InProcessBroker T S C) :
    (Node.inProcess broker).Succeeds (.inProcess old) :=
  ⟨rfl, g, holds⟩

theorem Node.succeeds_middleware [DecidableEq T] [Hashable T] (broker old : MiddlewareBroker T S C) :
    (Node.middleware broker).Succeeds (.middleware old) :=
  ⟨rfl, trivial⟩

namespace Network

/-- The counters of a node; a missing one has counted nothing. -/
def stats (w : Network T S C J) (n : Nat) : BrokerMetrics :=
  ((w.node? n).map Node.stats).getD .zero

theorem stats_of_node? {w : Network T S C J} {n : Nat} {node : Node T S C}
    (there : w.node? n = some node) : w.stats n = node.stats := by
  rw [stats, there]
  rfl

theorem stats_withNode {w : Network T S C J} {n : Nat} {old : Node T S C}
    (there : w.node? n = some old) (node : Node T S C) (m : Nat) :
    (w.withNode n node).stats m = if n = m then node.stats else w.stats m := by
  by_cases same : n = m
  · subst same
    rw [stats_of_node? (node?_withNode there node), if_pos rfl]
  · rw [stats, node?_withNode_of_ne w (Ne.symm same), if_neg same]
    rfl

/-- The nodes of a network are still there in another, each of its kind. -/
def Keeps (before after : Network T S C J) : Prop :=
  ∀ n node, before.node? n = some node →
    ∃ later, after.node? n = some later ∧ later.isInProcess = node.isInProcess

/-- What is said of a publication or a frame at a node fits the kind of the node. -/
def Fits (w : Network T S C J) : Incident → Prop
  | .published n fate => ∃ node, w.node? n = some node ∧ fate.isInProcess = node.isInProcess
  | .handed n _ => ∃ node, w.node? n = some node ∧ node.isInProcess = false
  | .ended .. => True

theorem Keeps.fits {w v : Network T S C J} (keeps : w.Keeps v) {incident : Incident}
    (fits : w.Fits incident) : v.Fits incident := by
  cases incident with
  | published n fate =>
    obtain ⟨node, there, kind⟩ := fits
    obtain ⟨later, found, same⟩ := keeps n node there
    exact ⟨later, found, kind.trans same.symm⟩
  | handed n audience =>
    obtain ⟨node, there, kind⟩ := fits
    obtain ⟨later, found, same⟩ := keeps n node there
    exact ⟨later, found, same.trans kind⟩
  | ended => trivial

theorem keeps_withNode {w : Network T S C J} {n : Nat} {old node : Node T S C}
    (there : w.node? n = some old) (kind : node.isInProcess = old.isInProcess) :
    w.Keeps (w.withNode n node) := by
  intro m other found
  by_cases same : m = n
  · subst same
    obtain rfl : old = other := Option.some.inj (there.symm.trans found)
    exact ⟨node, node?_withNode there node, kind⟩
  · exact ⟨other, (node?_withNode_of_ne w same node).trans found, rfl⟩

variable [DecidableEq T] [Hashable T]

/-- Every node is in order. -/
def Orderly (w : Network T S C J) : Prop :=
  ∀ n node, w.node? n = some node → node.Orderly

/-- The counters of all nodes account for a log, from one state of a network to a later one. -/
structure Accounts (before : Network T S C J) (log : List Incident) (after : Network T S C J) :
    Prop where
  orderly : after.Orderly
  keeps : before.Keeps after
  fits : ∀ incident ∈ log, after.Fits incident
  stats : ∀ n, after.stats n = (before.stats n).plus (tally n log)
  called : ∀ n, ends n log = audiences n log

namespace Accounts

variable {w v u : Network T S C J} {log later : List Incident}

theorem rest (orderly : w.Orderly) : Accounts w [] w where
  orderly := orderly
  keeps n node there := ⟨node, there, rfl⟩
  fits := List.forall_mem_nil _
  stats n := by rw [tally_nil, BrokerMetrics.plus_zero]
  called n := rfl

theorem trans (first : Accounts w log v) (second : Accounts v later u) :
    Accounts w (log ++ later) u where
  orderly := second.orderly
  keeps n node there := by
    obtain ⟨between, found, kind⟩ := first.keeps n node there
    obtain ⟨last, reached, same⟩ := second.keeps n between found
    exact ⟨last, reached, same.trans kind⟩
  fits incident member := by
    rcases List.mem_append.mp member with early | late
    · exact second.keeps.fits (first.fits incident early)
    · exact second.fits incident late
  stats n := by
    rw [second.stats, first.stats, BrokerMetrics.plus_assoc, tally_append]
  called n := by
    rw [ends_append, audiences_append, first.called, second.called]

theorem perm (accounts : Accounts w log v) (perm : log.Perm later) : Accounts w later v where
  orderly := accounts.orderly
  keeps := accounts.keeps
  fits incident member := accounts.fits incident (perm.mem_iff.mpr member)
  stats n := by rw [accounts.stats, tally_perm n perm]
  called n := by rw [← ends_perm n perm, ← audiences_perm n perm, accounts.called]

/-- What happens at hubs and in the journal is no concern of the counters. -/
theorem of_nodes (accounts : Accounts w log v) (same : u.nodes = v.nodes) : Accounts w log u := by
  obtain ⟨nodes, connector, journal⟩ := u
  obtain rfl : nodes = v.nodes := same
  exact ⟨accounts.orderly, accounts.keeps, accounts.fits, accounts.stats, accounts.called⟩

/-- One node may be replaced by a later state of itself that has counted what is logged. -/
theorem withNode (orderly : w.Orderly) {n : Nat} {old node : Node T S C}
    (there : w.node? n = some old) (succeeds : node.Succeeds old)
    (fits : ∀ incident ∈ log, w.Fits incident) (stats : node.stats = old.stats.plus (tally n log))
    (others : ∀ m, n ≠ m → tally m log = .zero) (called : ∀ m, ends m log = audiences m log) :
    Accounts w log (w.withNode n node) where
  orderly m other found := by
    by_cases same : m = n
    · subst same
      rw [node?_withNode there] at found
      exact Option.some.inj found ▸ succeeds.orderly
    · rw [node?_withNode_of_ne w same] at found
      exact orderly m other found
  keeps := keeps_withNode there succeeds.kind
  fits incident member := (keeps_withNode there succeeds.kind).fits (fits incident member)
  stats m := by
    rw [stats_withNode there]
    split
    · next same =>
      subst same
      rw [stats, stats_of_node? there]
    · next different => rw [others m different, BrokerMetrics.plus_zero]
  called := called

/-- A request that counts nothing leaves no log. -/
theorem withNode_quiet (orderly : w.Orderly) {n : Nat} {old node : Node T S C}
    (there : w.node? n = some old) (succeeds : node.Succeeds old)
    (stats : node.stats = old.stats) : Accounts w [] (w.withNode n node) :=
  withNode orderly there succeeds (List.forall_mem_nil _)
    (by rw [tally_nil, BrokerMetrics.plus_zero, stats]) (fun _ _ => rfl) fun _ => rfl

/-- A new node has counted nothing. -/
theorem concat (orderly : w.Orderly) {node : Node T S C} (ready : node.Orderly)
    (stats : node.stats = .zero) : Accounts w [] { w with nodes := w.nodes ++ [node] } where
  orderly n other found := by
    rw [node?_concat] at found
    split at found
    · exact Option.some.inj found ▸ ready
    · exact orderly n other found
  keeps n old there := by
    refine ⟨old, ?_, rfl⟩
    have bound := (List.getElem?_eq_some_iff.mp there).1
    rw [node?_concat, if_neg (Nat.ne_of_lt bound), there]
  fits := List.forall_mem_nil _
  stats n := by
    rw [tally_nil, BrokerMetrics.plus_zero, Network.stats, node?_concat]
    split
    · next last =>
      have missing : w.node? n = none := List.getElem?_eq_none (Nat.le_of_eq last.symm)
      rw [Network.stats, missing]
      exact stats
    · rfl
  called n := rfl

end Accounts

/-! ## Rounds of calls -/

variable {w : Network T S C J}

/-- Calls that account for their logs one by one do so one after another. -/
theorem accounts_calls {call : C → Network T S C J → Outcome × Network T S C J}
    {logs : C → Network T S C J → List Incident}
    (account : ∀ callback w, w.Orderly → Accounts w (logs callback w) (call callback w).2)
    (callbacks : List C) (orderly : w.Orderly) :
    Accounts w (callLogs call logs callbacks w) (runAll call callbacks w) := by
  induction callbacks generalizing w with
  | nil => exact .rest orderly
  | cons callback rest ih =>
    have first := account callback w orderly
    exact first.trans (ih first.orderly)

/-- What is logged before the calls of a round: a publication that is heard, or a frame. -/
structure Opens (n : Nat) (size : Nat) (incident : Incident) : Prop where
  elsewhere : ∀ m, n ≠ m → tally m [incident] = .zero
  audiences : ∀ m, audiences m [incident] = if n = m then size else 0
  ends : ∀ m, ends m [incident] = 0

theorem opens_published (n : Nat) (fate : Fate) : Opens n fate.audience (.published n fate) where
  elsewhere m different := by rw [tally_published, if_neg different]
  audiences m := by simp [Vicinity.audiences, heardAt, handedAt]
  ends m := rfl

theorem opens_handed (n size : Nat) : Opens n size (.handed n size) where
  elsewhere m _ := tally_handed m n size
  audiences m := by simp [Vicinity.audiences, heardAt, handedAt]
  ends m := rfl

/-- A node that has counted a publication or a frame without calls accounts for it. -/
theorem accounts_single (orderly : w.Orderly) {n : Nat} {old node : Node T S C}
    (there : w.node? n = some old) (succeeds : node.Succeeds old) {incident : Incident}
    (opens : Opens n 0 incident) (fits : w.Fits incident)
    (stats : node.stats = old.stats.plus (tally n [incident])) :
    Accounts w [incident] (w.withNode n node) := by
  refine .withNode orderly there succeeds ?_ stats opens.elsewhere ?_
  · intro other member
    rwa [List.mem_singleton.mp member]
  · intro m
    rw [opens.ends, opens.audiences, ite_self]

/-- A node that has counted a round of calls accounts for what came before the calls and for how
they ended. -/
theorem accounts_round (orderly : w.Orderly) {n : Nat} {old node : Node T S C}
    (there : w.node? n = some old) (succeeds : node.Succeeds old) {incident : Incident}
    (call : C → W → Outcome × W) (callbacks : List C) (world : W)
    (opens : Opens n callbacks.length incident) (fits : w.Fits incident)
    (stats : node.stats =
      (old.stats.plus (tally n [incident])).plus (.ofReport (deliverAll call callbacks world).1)) :
    Accounts w (incident :: (outcomes call callbacks world).map (.ended n)) (w.withNode n node) := by
  rw [← List.singleton_append]
  refine .withNode orderly there succeeds ?_ ?_ ?_ ?_
  · intro other member
    rcases List.mem_append.mp member with first | last
    · rwa [List.mem_singleton.mp first]
    · obtain ⟨outcome, -, rfl⟩ := List.mem_map.mp last
      trivial
  · rw [stats, tally_append, tally_ends, if_pos rfl, BrokerMetrics.plus_assoc]
  · intro m different
    rw [tally_append, opens.elsewhere m different, tally_ends, if_neg different,
      BrokerMetrics.zero_plus]
  · intro m
    rw [ends_append, audiences_append, opens.ends, opens.audiences, ends_outcomes,
      audiences_outcomes, length_outcomes, Nat.zero_add, Nat.add_zero]

/-! ## Requests and frames -/

/-- A middleware node that serves a request without counting it leaves no log. -/
theorem accounts_withMiddleware (orderly : w.Orderly) {n : Nat} {broker : MiddlewareBroker T S C}
    (there : w.node? n = some (.middleware broker)) (name : String)
    {after : MiddlewareBroker T S C × Hub (Inbound T)}
    (uncounted : after.1.metrics = broker.metrics) :
    Accounts w [] (w.withMiddleware n name after) :=
  (Accounts.withNode_quiet orderly there (Node.succeeds_middleware after.1 broker) uncounted).of_nodes
    rfl

theorem accounts_requestMiddleware [DecidableEq S] (orderly : w.Orderly) {n : Nat}
    {broker : MiddlewareBroker T S C} (there : w.node? n = some (.middleware broker))
    (wire : Wire T M) (t : T) (message : M) :
    Accounts w
      [.published n
        (broker.fate wire.nameOf wire.codec (w.hub broker.link.connection.hub) t message)]
      (w.requestMiddleware wire n broker (.publish t message)).2 := by
  let name := broker.link.connection.hub
  let after := broker.publish wire.nameOf wire.codec (w.hub name) t message
  have kind : (broker.fate wire.nameOf wire.codec (w.hub name) t message).isInProcess = false :=
    broker.isInProcess_fate ..
  have counted := broker.metrics_publish wire.nameOf wire.codec (w.hub name) t message
  generalize broker.fate wire.nameOf wire.codec (w.hub name) t message = fate at kind counted ⊢
  have opens : Opens n 0 (.published n fate) := Fate.audience_eq_zero kind ▸ opens_published n fate
  have accounts : Accounts w [.published n fate] (w.withNode n (.middleware after.1)) := by
    refine accounts_single orderly there (Node.succeeds_middleware after.1 broker) opens
      ⟨_, there, kind⟩ ?_
    rw [tally_published, if_pos rfl]
    exact counted
  exact accounts.of_nodes rfl

/-- A frame for a topic that the node does not have calls no one. -/
theorem accounts_handed_none (orderly : w.Orderly) {n : Nat} {broker : MiddlewareBroker T S C}
    (there : w.node? n = some (.middleware broker)) : Accounts w [.handed n 0] w := by
  have counted : Accounts w [.handed n 0] (w.withNode n (.middleware broker)) := by
    refine accounts_single orderly there (Node.succeeds_middleware broker broker)
      (opens_handed n 0) ⟨_, there, rfl⟩ ?_
    rw [tally_handed, BrokerMetrics.plus_zero]
  rwa [withNode_self there] at counted

section Calls

variable {call : Call T S C J M} {logs : Logs T S C J M}
  (account : ∀ callback message w, w.Orderly →
    Accounts w (logs callback message w) (call callback message w).2)

include account

/-- A round of calls at a node that ends with the node counting it. The callbacks may have asked
this very node, so it counts in the state that they left. -/
theorem accounts_delivery (orderly : w.Orderly) {n : Nat} {old : Node T S C}
    (there : w.node? n = some old) (message : M) (callbacks : List C) {incident : Incident}
    (opens : Opens n callbacks.length incident) (fits : w.Fits incident) {after : Network T S C J}
    (counted :
      let called := deliverAll (fun callback => call callback message) callbacks w
      ∀ later, called.2.node? n = some later → later.isInProcess = old.isInProcess →
        later.Orderly → ∃ node, node.Succeeds later ∧
          node.stats = (later.stats.plus (tally n [incident])).plus (.ofReport called.1) ∧
          after = called.2.withNode n node) :
    Accounts w
      (incident :: roundLog n (fun callback => call callback message)
        (fun callback => logs callback message) callbacks w)
      after := by
  have first : Accounts w (callLogs (fun callback => call callback message)
      (fun callback => logs callback message) callbacks w)
        (deliverAll (fun callback => call callback message) callbacks w).2 := by
    rw [deliverAll_snd]
    exact accounts_calls (fun callback w => account callback message w) callbacks orderly
  obtain ⟨later, kept, kind⟩ := first.keeps n old there
  obtain ⟨node, succeeds, stats, rfl⟩ := counted later kept kind (first.orderly n later kept)
  have second := accounts_round first.orderly kept succeeds _ callbacks w opens
    (first.keeps.fits fits) stats
  exact (first.trans second).perm List.perm_middle

theorem accounts_requestInProcess [DecidableEq S] (orderly : w.Orderly) {n : Nat}
    {broker : InProcessBroker T S C} (there : w.node? n = some (.inProcess broker)) (t : T)
    (message : M) :
    Accounts w
      (.published n (broker.fate t) ::
        roundLog n (fun callback => call callback message) (fun callback => logs callback message)
          (broker.subscribers t).values w)
      (w.requestInProcess call n broker (.publish t message)) := by
  obtain ⟨g, holds⟩ := orderly n _ there
  cases found : broker.channel? t with
  | none =>
    have blank : (broker.subscribers t).values = [] := by
      rw [InProcessBroker.subscribers, found]
      rfl
    have after : w.requestInProcess call n broker (.publish t message) =
        w.withNode n (.inProcess (broker.record none)) := by
      simp only [requestInProcess, found, recordPublish_eq there]
    rw [after, blank, InProcessBroker.fate_of_missing found]
    refine accounts_single orderly there (Node.succeeds_inProcess (holds.record none) broker)
      (opens_published n .unheard) ⟨_, there, rfl⟩ ?_
    rw [tally_published, if_pos rfl, ← BrokerMetrics.recordPublish_none_eq _ rfl]
    exact InProcessBroker.stats_record broker none
  | some channel =>
    obtain ⟨subscribers, heard⟩ := InProcessBroker.fate_of_channel holds found
    have after : w.requestInProcess call n broker (.publish t message) =
        let called := deliverAll (fun callback => call callback message)
          (broker.subscribers t).values w
        called.2.recordPublish n (some called.1) := by
      simp only [requestInProcess, found, Channel.publish_eq, subscribers]
    rw [after, heard]
    refine accounts_delivery account orderly there message _
      (opens_published n (.heard (broker.subscribers t).values.length)) ⟨_, there, rfl⟩ ?_
    intro called later kept kind ready
    obtain ⟨later, rfl⟩ := Node.eq_inProcess kind
    obtain ⟨g, holds⟩ := ready
    refine ⟨_, Node.succeeds_inProcess (holds.record _) later, ?_, recordPublish_eq kept _⟩
    rw [tally_published, if_pos rfl, ← BrokerMetrics.recordPublish_some_eq]
    exact InProcessBroker.stats_record later (some called.1)

theorem accounts_request [DecidableEq S] (orderly : w.Orderly) (wire : Wire T M) (n : Nat)
    (r : Request T S C M) :
    Accounts w (w.requestLog wire call logs n r) (w.request wire call n r).2 := by
  cases there : w.node? n with
  | none => cases r <;> simpa only [request, requestLog, there] using Accounts.rest orderly
  | some node =>
    cases node with
    | inProcess broker =>
      obtain ⟨g, holds⟩ := orderly n _ there
      cases r with
      | publish t message =>
        simpa only [request, requestLog, there] using
          accounts_requestInProcess account orderly there t message
      | subscribe t s callback =>
        simp only [request, requestLog, there]
        exact .withNode_quiet orderly there (Node.succeeds_inProcess (holds.subscribe t s callback) _)
          (broker.stats_subscribe t s callback)
      | unsubscribe t s =>
        simp only [request, requestLog, there]
        exact .withNode_quiet orderly there (Node.succeeds_inProcess (holds.unsubscribe t s) _)
          (broker.stats_unsubscribe t s)
      | close =>
        simp only [request, requestLog, there]
        exact .rest orderly
    | middleware broker =>
      cases r with
      | publish t message =>
        simpa only [request, requestLog, there] using
          accounts_requestMiddleware orderly there wire t message
      | subscribe t s callback =>
        simp only [request, requestLog, there]
        exact accounts_withMiddleware orderly there _ (broker.metrics_subscribe ..)
      | unsubscribe t s =>
        simp only [request, requestLog, there]
        exact accounts_withMiddleware orderly there _ (broker.metrics_unsubscribe ..)
      | close =>
        simp only [request, requestLog, there]
        exact accounts_withMiddleware orderly there _ (broker.metrics_close _)

theorem accounts_receive (orderly : w.Orderly) (wire : Wire T M) (payload : ByteArray)
    (inbound : Inbound T) :
    Accounts w (w.receiveLog wire call logs payload inbound)
      (w.receive wire call payload inbound) := by
  obtain ⟨n, t⟩ := inbound
  cases decoded : wire.codec.decode payload with
  | error e =>
    simp only [receive, receiveLog, decoded]
    exact .rest orderly
  | ok message =>
    cases there : w.node? n with
    | none =>
      simp only [receive, receiveLog, decoded, there]
      exact .rest orderly
    | some node =>
      cases node with
      | inProcess broker =>
        simp only [receive, receiveLog, decoded, there]
        exact .rest orderly
      | middleware broker =>
        simp only [receive, receiveLog, decoded, there]
        cases found : broker.routes.get? t with
        | none =>
          rw [MiddlewareBroker.subscribers_of_none found]
          exact accounts_handed_none orderly there
        | some route =>
          rw [MiddlewareBroker.subscribers_of_some found]
          dsimp only
          rw [Channel.publish_eq]
          refine accounts_delivery account orderly there message _ (opens_handed n _)
            ⟨_, there, rfl⟩ ?_
          intro called later kept kind _
          obtain ⟨later, rfl⟩ := Node.eq_middleware kind
          refine ⟨.middleware { later with metrics := later.metrics.recordDelivery called.1 },
            Node.succeeds_middleware _ later, ?_, ?_⟩
          · rw [tally_handed, BrokerMetrics.plus_zero]
            exact BrokerMetrics.recordDelivery_eq later.metrics called.1
          · simp only [recordDelivery, kept, called]

end Calls

/-! ## Courses -/

theorem accounts_addPlanned {v : Network T S C J} (orderly : w.Orderly) {plan : BrokerPlan}
    {refusals : Refusals} (added : w.addPlanned plan refusals = .ok v) : Accounts w [] v := by
  cases plan with
  | inProcess layout channel =>
    cases added
    exact .concat orderly ⟨_, InProcessBroker.holds_new layout channel⟩ (by cases layout <;> rfl)
  | middleware uri channel =>
    rw [addPlanned, addMiddleware] at added
    cases connected : w.connector.connect uri with
    | error e =>
      rw [connected] at added
      contradiction
    | ok pair =>
      rw [connected] at added
      obtain rfl := Except.ok.inj added
      let broker : MiddlewareBroker T S C :=
        .new w.nodes.length uri channel ⟨pair.1, refusals⟩
      have ready : (Node.middleware broker).Orderly := trivial
      exact (Accounts.concat orderly ready rfl).of_nodes rfl

variable [DecidableEq S]

/-- The counters account for the log of a course. -/
theorem Course.accounts {wire : Wire T M} {v : Network T S C J} {log : List Incident}
    (course : Course wire w log v) (orderly : w.Orderly) : Accounts w log v := by
  induction course with
  | rest w => exact .rest orderly
  | trans _ _ first second =>
    have before := first orderly
    exact before.trans (second before.orderly)
  | keep w journal => exact (Accounts.rest orderly).of_nodes rfl
  | hubs w connector => exact (Accounts.rest orderly).of_nodes rfl
  | join added => exact accounts_addPlanned orderly added
  | request call logs _ w n r account =>
    exact accounts_request account orderly wire n r
  | receive call logs _ payload w inbound account =>
    exact accounts_receive account orderly wire payload inbound

end Network

end Vicinity

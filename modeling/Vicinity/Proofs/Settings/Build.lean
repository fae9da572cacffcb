import Vicinity.Network.Basic
import Vicinity.Proofs.Settings.Validate

/-! # Building what has been checked

The check of the settings and the building of a broker read the same names apart from each other.
What building finds wrong are the faults of the broker settings, and the check finds each of them
too: what passes the check can be built, unless the address of the transport leads nowhere.
-/

namespace Vicinity

theorem BrokerKind.eq_unknown_of_parse {name : String} {e : ConfigError}
    (unknown : parse name = .error e) : e = .unknownBrokerKind name := by
  rw [parse] at unknown
  split at unknown <;> cases unknown
  rfl

theorem ChannelKind.eq_unknown_of_parse {name : String} {e : ConfigError}
    (unknown : parse name = .error e) : e = .unknownChannelKind name := by
  rw [parse] at unknown
  split at unknown <;> cases unknown
  rfl

namespace BrokerSettings

variable {B X : Type} {settings : BrokerSettings} {e : ConfigError}

/-- What is wrong with broker settings in themselves. The broker kind is read first, then the channel
kind, and a middleware broker needs an address. -/
inductive Fault (settings : BrokerSettings) : ConfigError → Prop
  | kind {e : ConfigError} (unknown : BrokerKind.parse settings.kind = .error e) : Fault settings e
  | channel {kind : BrokerKind} {e : ConfigError} (known : BrokerKind.parse settings.kind = .ok kind)
      (unknown : ChannelKind.parse settings.channel = .error e) : Fault settings e
  | uri {channel : ChannelKind} (kind : BrokerKind.parse settings.kind = .ok .middleware)
      (known : ChannelKind.parse settings.channel = .ok channel) (missing : settings.uri = none) :
      Fault settings (.missingValue uriName)

/-! ## Plans -/

/-- What is planned once both kinds are known. -/
theorem plan_of_kinds {kind : BrokerKind} {channel : ChannelKind}
    (known : BrokerKind.parse settings.kind = .ok kind)
    (found : ChannelKind.parse settings.channel = .ok channel) :
    settings.plan =
      if kind = .middleware then
        settings.uri.elim (.error (.missingValue uriName)) fun uri => .ok (.middleware uri channel)
      else (layout kind settings.shards).map fun layout => .inProcess layout channel := by
  simp only [plan, known, found, bind, Except.bind]
  cases kind with
  | middleware => cases settings.uri <;> rfl
  | _ => rfl

theorem plan_of_fault (fault : settings.Fault e) : settings.plan = .error e := by
  cases fault with
  | kind unknown => simp only [plan, unknown, bind, Except.bind]
  | channel known unknown => simp only [plan, known, unknown, bind, Except.bind]
  | uri kind known missing => rw [plan_of_kinds kind known, if_pos rfl, missing, Option.elim_none]

/-- Without a fault there is a plan, and only a middleware broker is planned at an address. -/
theorem plan_cases (settings : BrokerSettings) :
    (∃ e, settings.Fault e) ∨
    (∃ layout channel, settings.plan = .ok (.inProcess layout channel) ∧
      BrokerKind.parse settings.kind ≠ .ok .middleware) ∨
    ∃ uri channel, settings.plan = .ok (.middleware uri channel) ∧
      BrokerKind.parse settings.kind = .ok .middleware ∧ settings.uri = some uri := by
  cases known : BrokerKind.parse settings.kind with
  | error e => exact .inl ⟨e, .kind known⟩
  | ok kind =>
    cases found : ChannelKind.parse settings.channel with
    | error e => exact .inl ⟨e, .channel known found⟩
    | ok channel =>
      have planned := plan_of_kinds known found
      cases kind with
      | middleware =>
        cases address : settings.uri with
        | none => exact .inl ⟨_, .uri known found address⟩
        | some uri =>
          rw [if_pos rfl, address, Option.elim_some] at planned
          exact .inr (.inr ⟨uri, channel, planned, rfl, rfl⟩)
      | concurrent | sharded | readWrite =>
        exact .inr (.inl ⟨_, channel, planned, nofun⟩)

/-! ## Building -/

variable (inProcess : Layout → ChannelKind → B) (connect : String → Except BrokerError X)
  (join : String → ChannelKind → X → B)

/-- Build what settings ask for, with middleware brokers on connections that `connect` opens. -/
def buildOn (settings : BrokerSettings) : Except BrokerError B :=
  settings.build inProcess fun uri channel => (connect uri).map (join uri channel)

theorem buildOn_of_fault (fault : settings.Fault e) :
    settings.buildOn inProcess connect join = .error (.config e) := by
  rw [buildOn, build, plan_of_fault fault]

/-- Without a fault, only the address of a middleware broker can be what building fails by. -/
theorem buildOn_eq_error_iff (sound : ¬ ∃ e, settings.Fault e) (failure : BrokerError) :
    settings.buildOn inProcess connect join = .error failure ↔
      BrokerKind.parse settings.kind = .ok .middleware ∧
        ∃ uri, settings.uri = some uri ∧ connect uri = .error failure := by
  rw [buildOn, build]
  obtain fault | ⟨layout, channel, planned, other⟩ | ⟨uri, channel, planned, kind, given⟩ :=
    settings.plan_cases
  · exact absurd fault sound
  · rw [planned]
    refine iff_of_false (fun failed => ?_) fun both => other both.1
    contradiction
  · simp only [planned, kind, given, Option.some.injEq, exists_eq_left', true_and]
    cases connect uri <;> simp [Except.map]

/-- Building finds fault with settings exactly if there is one, as long as connections fail in other
ways. -/
theorem buildOn_eq_config_iff (own : ∀ uri e, connect uri ≠ .error (.config e)) :
    settings.buildOn inProcess connect join = .error (.config e) ↔ settings.Fault e := by
  constructor
  · intro failed
    by_cases fault : ∃ e, settings.Fault e
    · obtain ⟨first, fault⟩ := fault
      rw [buildOn_of_fault inProcess connect join fault] at failed
      cases failed
      exact fault
    · obtain ⟨-, uri, -, rejected⟩ := (buildOn_eq_error_iff inProcess connect join fault _).mp failed
      exact absurd rejected (own uri e)
  · exact buildOn_of_fault inProcess connect join

end BrokerSettings

namespace Settings

/-- The check finds a fault of the broker settings, too. Of a missing address it only speaks if the
number of shards is right. -/
theorem validate_of_fault {settings : Settings} {e : ConfigError} (fault : settings.broker.Fault e) :
    settings.validate =
      .error (if e = .missingValue BrokerSettings.uriName ∧ settings.broker.shards = 0 then
        zero "broker.shards" else e) := by
  unfold validate
  simp only [brokerKind, channelKind, bind, Except.bind, throw, throwThe, MonadExceptOf.throw]
  cases fault with
  | kind unknown => simp only [unknown, BrokerKind.eq_unknown_of_parse unknown, reduceCtorEq,
      false_and, if_false]
  | channel known unknown => simp only [known, unknown, ChannelKind.eq_unknown_of_parse unknown,
      reduceCtorEq, false_and, if_false]
  | uri kind known missing =>
    by_cases bare : settings.broker.shards = 0
    · simp [kind, known, bare]
    · simp [kind, known, bare, missing]

end Settings

/-- A connector that knows its addresses finds no fault with settings. -/
theorem Connector.connect_ne_config {H : Type} (connector : Connector H) (uri : String)
    (e : ConfigError) : connector.connect uri ≠ .error (.config e) := by
  rw [connect, hubName]
  cases scheme.toList.isPrefixOf? uri.toList with
  | none => nofun
  | some name =>
    dsimp only
    split <;> nofun

/-- A network builds its middleware brokers on connections that its connector opens. -/
theorem Network.exists_buildOn {T S C J : Type} (w : Network T S C J) (refusals : Refusals) :
    ∃ join, ∀ settings : BrokerSettings, w.addConfigured settings refusals =
      settings.buildOn w.addInProcess w.connector.connect join :=
  ⟨_, fun _ => rfl⟩

namespace Settings

variable {B X : Type}

/-- From settings that pass the check a broker is built, unless it is a middleware broker and its
address is rejected. Building fails by each fault of the broker settings and by no other; the check
then fails by it too, but for a missing address that it does not come to as there are no shards. How
connections are opened, and what is made of them with which codec, is left open. -/
theorem validate_foresees_build (inProcess : Layout → ChannelKind → B)
    (connect : String → Except BrokerError X) (join : String → ChannelKind → X → B)
    (own : ∀ uri e, connect uri ≠ .error (.config e)) :
    (∀ settings : Settings, settings.validate = .ok () →
      (∀ e, settings.broker.buildOn inProcess connect join ≠ .error (.config e)) ∧
      ∀ failure, settings.broker.buildOn inProcess connect join = .error failure ↔
        settings.brokerKind = .ok .middleware ∧
          ∃ uri, settings.broker.uri = some uri ∧ connect uri = .error failure) ∧
    ∀ (broker : BrokerSettings) (e : ConfigError),
      (broker.buildOn inProcess connect join = .error (.config e) ↔ broker.Fault e) ∧
      (broker.Fault e → ∀ settings : Settings, settings.broker = broker →
        settings.validate =
          .error (if e = .missingValue BrokerSettings.uriName ∧ broker.shards = 0 then
            zero "broker.shards" else e)) := by
  refine ⟨fun settings valid => ?passed, fun broker e => ⟨?faulty, ?found⟩⟩
  case passed =>
    have sound : ¬ ∃ e, settings.broker.Fault e := by
      rintro ⟨e, fault⟩
      rw [validate_of_fault fault] at valid
      contradiction
    refine ⟨fun e failed => sound ⟨e, ?_⟩, fun failure => ?_⟩
    · exact (BrokerSettings.buildOn_eq_config_iff inProcess connect join own).mp failed
    · exact BrokerSettings.buildOn_eq_error_iff inProcess connect join sound failure
  case faulty => exact BrokerSettings.buildOn_eq_config_iff inProcess connect join own
  case found =>
    rintro fault settings rfl
    exact validate_of_fault fault

/-- A middleware broker whose kinds are written loosely passes the check and cannot be built, as its
address has another scheme. Without address and shards it is built no more, which the check puts down
to the shards. -/
theorem validate_foresees_build_unreachable :
    let network : Network String String Nat Unit := .new ()
    let far : BrokerSettings := ⟨"Middle-ware", "SNAP_SHOT", 1, some "redis://town"⟩
    let bare : BrokerSettings := { far with shards := 0, uri := none }
    (∀ uri e, network.connector.connect uri ≠ .error (.config e)) ∧
      { default with broker := far }.validate = .ok () ∧
      network.addConfigured far {} = .error (.unsupportedScheme "redis://town") ∧
      network.addConfigured bare {} = .error (.config (.missingValue "broker.uri")) ∧
      { default with broker := bare }.validate = .error (zero "broker.shards") := by
  intro network far bare
  have own : ∀ uri e, network.connector.connect uri ≠ .error (.config e) :=
    network.connector.connect_ne_config
  obtain ⟨join, same⟩ := network.exists_buildOn {}
  obtain ⟨passed, faulty⟩ :=
    validate_foresees_build network.addInProcess network.connector.connect join own
  have kind : BrokerKind.parse "Middle-ware" = .ok .middleware := by
    have found : Kind.find? BrokerKind.all BrokerKind.name "Middle-ware" = some .middleware := by
      decide +kernel
    rw [BrokerKind.parse, found]
  have channel : ChannelKind.parse "SNAP_SHOT" = .ok .snapshot := by
    have found : Kind.find? ChannelKind.all ChannelKind.name "SNAP_SHOT" = some .snapshot := by
      decide +kernel
    rw [ChannelKind.parse, found]
  have valid : { default with broker := far }.validate = .ok () := by
    obtain ⟨-, -, -, -, -, rest⟩ := (validate_eq_ok_iff default).mp validate_default
    exact (validate_eq_ok_iff _).mpr ⟨_, kind, ⟨_, channel⟩, Nat.one_ne_zero, fun _ => nofun, rest⟩
  have rejected : network.connector.connect "redis://town" =
      .error (.unsupportedScheme "redis://town") := by
    have other : Connector.scheme.toList.isPrefixOf? "redis://town".toList = none := by decide +kernel
    rw [Connector.connect, Connector.hubName, other]
    rfl
  have missing : bare.Fault (.missingValue BrokerSettings.uriName) := .uri kind channel rfl
  refine ⟨own, valid, ?_, ?_, (faulty bare _).2 missing _ rfl⟩
  · rw [same]
    exact ((passed _ valid).2 _).mpr ⟨kind, _, rfl, rejected⟩
  · rw [same]
    exact (faulty bare _).1.mpr missing

end Settings

end Vicinity

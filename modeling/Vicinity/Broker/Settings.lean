import Vicinity.Kind

/-! # Broker settings

The settings name a broker kind and a channel kind and give what the kind needs: a number of shards,
or the address of a transport. `plan` reads them; the first fault in the order broker kind, channel
kind, address counts. `build` makes what was planned.
-/

namespace Vicinity

structure BrokerSettings where
  kind : String
  channel : String
  shards : Nat
  uri : Option String
deriving DecidableEq, Repr, Inhabited

/-- How a broker inside the process stores its topics. -/
inductive Layout where
  | concurrent
  | sharded (shards : Nat)
  | readWrite
deriving DecidableEq, Repr, Inhabited

/-- A broker to be built. -/
inductive BrokerPlan where
  | inProcess (layout : Layout) (channel : ChannelKind)
  | middleware (uri : String) (channel : ChannelKind)
deriving DecidableEq, Repr, Inhabited

namespace BrokerSettings

/-- The number of shards unless settings give one. -/
def defaultShards : Nat := 16

def default : BrokerSettings :=
  ⟨BrokerKind.concurrent.name, ChannelKind.concurrent.name, defaultShards, none⟩

/-- The setting under which the address of a transport stands. -/
def uriName : String := "broker.uri"

/-- How a broker of a kind stores its topics inside the process; a middleware broker does not. -/
def layout (kind : BrokerKind) (shards : Nat) : Except ConfigError Layout :=
  match kind with
  | .concurrent => .ok .concurrent
  | .sharded => .ok (.sharded shards)
  | .readWrite => .ok .readWrite
  | .middleware => .error (.missingValue uriName)

/-- A broker inside the process, from the names of its kinds. -/
def inProcessPlan (settings : BrokerSettings) : Except ConfigError BrokerPlan := do
  let kind ← BrokerKind.parse settings.kind
  let channel ← ChannelKind.parse settings.channel
  let layout ← layout kind settings.shards
  return .inProcess layout channel

/-- The broker that the settings ask for. -/
def plan (settings : BrokerSettings) : Except ConfigError BrokerPlan := do
  let kind ← BrokerKind.parse settings.kind
  let channel ← ChannelKind.parse settings.channel
  match kind with
  | .middleware =>
    match settings.uri with
    | some uri => return .middleware uri channel
    | none => throw (.missingValue uriName)
  | other =>
    let layout ← layout other settings.shards
    return .inProcess layout channel

/-- The broker that settings ask for, given how to make one inside the process and how to make one
at an address, which may fail. -/
def build {B : Type} (settings : BrokerSettings) (inProcess : Layout → ChannelKind → B)
    (middleware : String → ChannelKind → Except BrokerError B) : Except BrokerError B :=
  match settings.plan with
  | .error e => .error (.config e)
  | .ok (.inProcess layout channel) => .ok (inProcess layout channel)
  | .ok (.middleware uri channel) => middleware uri channel

end BrokerSettings

end Vicinity

import Vicinity.Broker.Settings
import Vicinity.Dyconit.Descriptor
import Vicinity.Log.Settings

/-! # Settings of a process

The settings choose a broker, a policy, the number of workers and how to log. Each part has its
defaults. `validate` checks what the types of the fields leave open; the first fault in this order
counts: broker kind, channel kind, shards, address of the transport, view distance, dyconit
descriptor, number of workers, logging.
-/

namespace Vicinity

/-- The world that is served, how far players see, and how dyconits are bounded. -/
structure PolicySettings where
  world : WorldId
  viewDistance : UInt32
  dyconit : Option String
deriving DecidableEq, Repr, Inhabited

/-- How many workers there are; without a number as many as the machine has processors. -/
structure ExecutorSettings where
  poolSize : Option Nat
deriving DecidableEq, Repr, Inhabited

structure Settings where
  broker : BrokerSettings
  policy : PolicySettings
  executor : ExecutorSettings
  logging : LogSettings
deriving DecidableEq, Repr, Inhabited

def PolicySettings.default : PolicySettings := ⟨⟨0⟩, 8, none⟩

def ExecutorSettings.default : ExecutorSettings := ⟨none⟩

namespace Settings

def default : Settings := ⟨.default, .default, .default, .default⟩

def brokerKind (settings : Settings) : Except ConfigError BrokerKind :=
  BrokerKind.parse settings.broker.kind

def channelKind (settings : Settings) : Except ConfigError ChannelKind :=
  ChannelKind.parse settings.broker.channel

/-- The error of a number that is zero and must not be. -/
def zero (name : String) : ConfigError := .invalidParameter name "0" "must be at least 1"

def validate (settings : Settings) : Except ConfigError Unit := do
  let kind ← settings.brokerKind
  let _ ← settings.channelKind
  if settings.broker.shards = 0 then throw (zero "broker.shards")
  if kind = .middleware && settings.broker.uri.isNone then
    throw (.missingValue BrokerSettings.uriName)
  if settings.policy.viewDistance = 0 then throw (zero "policy.view_distance")
  if let some descriptor := settings.policy.dyconit then
    Dyconit.Descriptor.validate descriptor
  if settings.executor.poolSize = some 0 then throw (zero "executor.pool_size")
  settings.logging.validate

end Settings

end Vicinity

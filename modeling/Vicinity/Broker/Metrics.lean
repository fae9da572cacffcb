import Vicinity.Channel.Delivery

/-! # Broker counters

A broker counts its publications, those that found no one, and the calls that returned or panicked.
A publication that is handed to a transport counts as published when it is sent; its deliveries are
counted when its frame comes back. The counters are 64-bit words and wrap.
-/

namespace Vicinity

structure BrokerMetrics where
  published : UInt64
  dropped : UInt64
  delivered : UInt64
  failed : UInt64
deriving DecidableEq, Repr, Inhabited

namespace BrokerMetrics

def zero : BrokerMetrics := ⟨0, 0, 0, 0⟩

/-- Count a delivery that no new publication goes with. -/
def recordDelivery (m : BrokerMetrics) (report : DeliveryReport) : BrokerMetrics :=
  { m with
    delivered := m.delivered + .ofNat report.delivered
    failed := m.failed + .ofNat report.failed }

/-- Count a publication handed to a transport. -/
def recordSent (m : BrokerMetrics) : BrokerMetrics := { m with published := m.published + 1 }

/-- Count a publication: with its report, or as dropped if there was no one to deliver to. -/
def recordPublish (m : BrokerMetrics) : Option DeliveryReport → BrokerMetrics
  | some report => m.recordSent.recordDelivery report
  | none => { m.recordSent with dropped := m.dropped + 1 }

end BrokerMetrics

end Vicinity

import LogCourier.Delivery.Address

/-! # What happens to a transport

A transport is driven by what comes back from the network, one event at a time. Between two events
producers may hand messages over.
-/

namespace LogCourier

inductive TransportEvent
  /-- The next attempt to reach the collector, with what became of it. -/
  | attempt (outcome : Except ReachError Unit)
  /-- The next message is taken from the queue. -/
  | take
  /-- The message that was taken has been written, or not. -/
  | written (ok : Bool)
  /-- The collector sent something. -/
  | inbound
  /-- The collector went away. -/
  | lost
  /-- The last producer went away and nothing is queued. -/
  | finished

/-- Why a transport ended before it was asked to. -/
inductive DeliveryError
  | attemptsExhausted (remote : String) (attempts : Nat) (last : String)
deriving DecidableEq, Repr

def DeliveryError.message : DeliveryError → String
  | .attemptsExhausted remote attempts last =>
    "Reached max connect attempts (" ++ toString attempts ++ ") for " ++ remote ++
      ". Last error: " ++ last

end LogCourier

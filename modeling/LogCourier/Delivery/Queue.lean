/-! # The queue in front of a transport

Producers hand messages over without waiting. A message is refused, and counted, while the transport
is not ready, when the queue is full, and when nobody takes messages any more. Nothing is kept for
later.
-/

namespace LogCourier

structure DeliveryStats where
  /-- Messages written to the network. -/
  sent : Nat := 0
  /-- Messages given up before they reached the network. -/
  dropped : Nat := 0
  /-- Writes that failed. -/
  sendErrors : Nat := 0
  /-- Attempts to reach the collector. -/
  connectAttempts : Nat := 0
  /-- How often the transport became ready. -/
  connections : Nat := 0
deriving DecidableEq, Repr

/-- The queue between producers and a transport, with what both can see of it. -/
structure DeliveryQueue (α : Type) where
  capacity : Nat
  items : List α := []
  ready : Bool := false
  /-- Whether nobody takes messages any more. -/
  closed : Bool := false
  stats : DeliveryStats := {}
deriving DecidableEq, Repr

namespace DeliveryQueue

/-- How many messages wait between an agent's files and its transport at most. -/
def defaultCapacity : Nat := 1000

variable {α : Type}

def setReady (q : DeliveryQueue α) (ready : Bool) : DeliveryQueue α := { q with ready }

def countDropped (q : DeliveryQueue α) (n : Nat) : DeliveryQueue α :=
  { q with stats := { q.stats with dropped := q.stats.dropped + n } }

def countSent (q : DeliveryQueue α) : DeliveryQueue α :=
  { q with stats := { q.stats with sent := q.stats.sent + 1 } }

def countSendError (q : DeliveryQueue α) : DeliveryQueue α :=
  { q with stats := { q.stats with sendErrors := q.stats.sendErrors + 1 } }

def countAttempt (q : DeliveryQueue α) : DeliveryQueue α :=
  { q with stats := { q.stats with connectAttempts := q.stats.connectAttempts + 1 } }

def countConnection (q : DeliveryQueue α) : DeliveryQueue α :=
  { q with stats := { q.stats with connections := q.stats.connections + 1 } }

/-- Whether a message would be taken. -/
def accepts (q : DeliveryQueue α) : Bool :=
  q.ready && !q.closed && q.items.length < q.capacity

/-- Hands a message over; says whether it was taken. -/
def submit (q : DeliveryQueue α) (a : α) : DeliveryQueue α × Bool :=
  if q.accepts then ({ q with items := q.items ++ [a] }, true) else (q.countDropped 1, false)

/-- Hands messages over one after the other. -/
def submitAll (q : DeliveryQueue α) : List α → DeliveryQueue α × List Bool
  | [] => (q, [])
  | a :: as =>
    let (q, taken) := q.submit a
    let (q, rest) := q.submitAll as
    (q, taken :: rest)

/-- Takes the message that has waited longest. -/
def receive? (q : DeliveryQueue α) : Option (α × DeliveryQueue α) :=
  match q.items with
  | [] => none
  | a :: items => some (a, { q with items })

/-- Gives up everything that waits; says how much that was. -/
def discard (q : DeliveryQueue α) : DeliveryQueue α × Nat :=
  ({ q with items := [] }.countDropped q.items.length, q.items.length)

/-- Nobody takes messages any more. -/
def close (q : DeliveryQueue α) : DeliveryQueue α := { q with closed := true, items := [] }

end DeliveryQueue

end LogCourier

import LogCourier.Stage
import LogCourier.Delivery.Event
import LogCourier.Delivery.Queue

/-! # The connection to the collector

A connector reaches the collector in a bounded number of attempts, forwards what is queued while the
connection lasts, and starts over when it is lost. What is queued when a connection is lost is given
up: no message is carried over to a later connection.
-/

namespace LogCourier

inductive ConnectionPhase
  | uninitialized
  | resolving
  | connecting
  | established
deriving DecidableEq, Repr

def ConnectionPhase.name : ConnectionPhase → String
  | .uninitialized => "Uninitialized"
  | .resolving => "Resolving"
  | .connecting => "Connecting"
  | .established => "Established"

/-- An attempt to reach the collector: how many were made before it, and when it is made. -/
structure Attempt where
  number : Nat
  time : Nat
deriving DecidableEq, Repr

structure Connector (α : Type) where
  remote : String
  maxAttempts : Nat
  /-- Time between two attempts, in milliseconds. -/
  retryDelay : Nat
  queue : DeliveryQueue α
  phase : ConnectionPhase := .uninitialized
  /-- Attempts since the start or since the last connection. -/
  attempts : Nat := 0
  /-- The message that is being written. -/
  writing : Option α := none
  /-- How the connector ended, once it has. -/
  ended : Option (Except DeliveryError Unit) := none

namespace Connector

variable {α : Type}

def attempt (c : Connector α) (outcome : Except ReachError Unit) : Connector α :=
  if c.ended.isSome ∨ c.phase = .established then c
  else
    let queue := c.queue.countAttempt
    match outcome with
    | .ok () =>
      { c with
        attempts := 0, phase := .established, queue := (queue.countConnection).setReady true }
    | .error e =>
      let attempts := c.attempts + 1
      { c with
        attempts, phase := .uninitialized
        queue := if c.maxAttempts ≤ attempts then queue.close else queue
        ended := if c.maxAttempts ≤ attempts then
            some (.error (.attemptsExhausted c.remote attempts e.message))
          else none }

/-- Whether the connector looks at its queue and at the collector. -/
def isServing (c : Connector α) : Bool := c.phase = .established && c.writing.isNone

def take (c : Connector α) : Connector α :=
  if !c.isServing then c
  else
    match c.queue.receive? with
    | none => c
    | some (a, queue) => { c with queue, writing := some a }

def written (c : Connector α) (ok : Bool) : Connector α :=
  match c.writing with
  | none => c
  | some _ =>
    { c with writing := none, queue := if ok then c.queue.countSent else c.queue.countSendError }

def lost (c : Connector α) : Connector α :=
  if !c.isServing then c
  else { c with phase := .uninitialized, queue := (c.queue.setReady false).discard.1 }

def finished (c : Connector α) : Connector α :=
  if c.isServing && c.queue.items.isEmpty then
    { c with
      phase := .uninitialized, queue := (c.queue.setReady false).close, ended := some (.ok ()) }
  else c

def step (c : Connector α) : TransportEvent → Connector α
  | .attempt outcome => c.attempt outcome
  | .take => c.take
  | .written ok => c.written ok
  | .inbound => c
  | .lost => c.lost
  | .finished => c.finished

/-! ## Runs -/

/-- Attempts, one retry delay apart, from a time on until the connector is connected or has ended,
or until the next attempt would not be made before the time is over. Gives the time of the last
attempt. -/
def connect (reach : Attempt → Except ReachError Unit) (limit : Option Nat) :
    Nat → Nat → Connector α → Connector α × Nat
  | 0, now, c => (c, now)
  | fuel + 1, now, c =>
    let c := c.attempt (reach ⟨c.queue.stats.connectAttempts, now⟩)
    if c.ended.isSome ∨ c.phase = .established ∨ limit.any (· ≤ now + c.retryDelay) then (c, now)
    else connect reach limit fuel (now + c.retryDelay) c

/-- Takes the next message and writes it; gives it if it was written. -/
def forwardNext (c : Connector α) (ok : α → Bool) : Connector α × List α :=
  let taken := c.take
  match taken.writing with
  | none => (taken, [])
  | some a => (taken.written (ok a), if ok a then [a] else [])

/-- Forwards everything that is queued; gives what was written. -/
def forwardAll (c : Connector α) (ok : α → Bool) : Connector α × List α :=
  Stage.run (fun c _ => c.forwardNext ok) c c.queue.items

end Connector

end LogCourier

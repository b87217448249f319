import LogCourier.Bytes
import LogCourier.Stage
import LogCourier.Delivery.Event
import LogCourier.Delivery.Queue

/-! # Datagrams to the collector

The collector is resolved once. If that succeeds, every message becomes one datagram, without the
newline at its end; if not, every message is given up.
-/

namespace LogCourier

inductive BindingPhase
  | uninitialized
  | resolving
  | bound
deriving DecidableEq, Repr

def BindingPhase.name : BindingPhase → String
  | .uninitialized => "Uninitialized"
  | .resolving => "Resolving"
  | .bound => "Bound"

structure DatagramSender where
  remote : String
  queue : DeliveryQueue Bytes
  phase : BindingPhase := .uninitialized
  /-- Whether binding was tried. -/
  started : Bool := false
  /-- The datagram that is being sent. -/
  sending : Option Bytes := none
  /-- Whether the sender ended because the last producer went away. -/
  ended : Bool := false
deriving DecidableEq, Repr

namespace DatagramSender

/-- A message below this length is not sent; it holds at most a newline. -/
def minLength : Nat := 2

/-- What a message carries to the collector. -/
def payload (message : Bytes) : Bytes :=
  if message.getLast? = some newline then message.dropLast else message

/-- The datagram for a message, if it gets one. -/
def datagram? (message : Bytes) : Option Bytes :=
  if message.length < minLength then none else some (payload message)

/-- The one attempt to find the collector; an unbound sender never becomes ready. -/
def bind (s : DatagramSender) (outcome : Except ReachError Unit) : DatagramSender :=
  if s.started then s
  else
    let s := { s with started := true, queue := s.queue.countAttempt }
    match outcome with
    | .ok () => { s with phase := .bound, queue := s.queue.countConnection.setReady true }
    | .error _ => { s with phase := .uninitialized }

def isServing (s : DatagramSender) : Bool := s.started && !s.ended && s.sending.isNone

/-- Takes the next message, which is given up if there is no datagram for it. -/
def take (s : DatagramSender) : DatagramSender :=
  if !s.isServing then s
  else
    match s.queue.receive? with
    | none => s
    | some (message, queue) =>
      match s.phase, datagram? message with
      | .bound, some d => { s with queue, sending := some d }
      | _, _ => { s with queue := queue.countDropped 1 }

def written (s : DatagramSender) (ok : Bool) : DatagramSender :=
  match s.sending with
  | none => s
  | some _ =>
    { s with sending := none, queue := if ok then s.queue.countSent else s.queue.countSendError }

/-- A bound sender withdraws its readiness when it ends; an unbound one never gave it. -/
def finished (s : DatagramSender) : DatagramSender :=
  if s.isServing && s.queue.items.isEmpty then
    { s with
      ended := true
      queue := (if s.phase = .bound then s.queue.setReady false else s.queue).close }
  else s

def step (s : DatagramSender) : TransportEvent → DatagramSender
  | .attempt outcome => s.bind outcome
  | .take => s.take
  | .written ok => s.written ok
  | .inbound | .lost => s
  | .finished => s.finished

/-! ## Runs -/

/-- Takes the next message and sends its datagram; gives it if it leaves. -/
def forwardNext (s : DatagramSender) (ok : Bytes → Bool) : DatagramSender × List Bytes :=
  let taken := s.take
  match taken.sending with
  | none => (taken, [])
  | some d => (taken.written (ok d), if ok d then [d] else [])

/-- Takes everything that is queued; gives the datagrams that leave. -/
def forwardAll (s : DatagramSender) (ok : Bytes → Bool) : DatagramSender × List Bytes :=
  Stage.run (fun s _ => s.forwardNext ok) s s.queue.items

end DatagramSender

end LogCourier

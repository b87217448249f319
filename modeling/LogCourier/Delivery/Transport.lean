import LogCourier.Delivery.Connector
import LogCourier.Delivery.Datagram
import LogCourier.Delivery.Network
import LogCourier.Settings.Basic

/-! # Transports

The protocol of the settings decides once which transport an agent has.
-/

namespace LogCourier

inductive Transport
  | stream (connector : Connector Bytes)
  | datagram (sender : DatagramSender)

namespace Transport

def new (s : Settings) : Transport :=
  let queue : DeliveryQueue Bytes := { capacity := DeliveryQueue.defaultCapacity }
  match s.protocol with
  | .tcp => .stream {
      remote := s.remoteAddress
      maxAttempts := s.maxConnectAttempts
      retryDelay := s.connectRetryDelay
      queue }
  | .udp => .datagram { remote := s.remoteAddress, queue }

def protocol : Transport → Protocol
  | .stream _ => .tcp
  | .datagram _ => .udp

def queue : Transport → DeliveryQueue Bytes
  | .stream c => c.queue
  | .datagram s => s.queue

def withQueue (t : Transport) (q : DeliveryQueue Bytes) : Transport :=
  match t with
  | .stream c => .stream { c with queue := q }
  | .datagram s => .datagram { s with queue := q }

/-- Hands messages over one after the other. -/
def submitAll (t : Transport) (messages : List Bytes) : Transport :=
  t.withQueue (t.queue.submitAll messages).1

def step (t : Transport) (e : TransportEvent) : Transport :=
  match t with
  | .stream c => .stream (c.step e)
  | .datagram s => .datagram (s.step e)

/-- What is being written to the network. -/
def writing : Transport → Option Bytes
  | .stream c => c.writing
  | .datagram s => s.sending

/-- How the transport ended, once it has. -/
def ended : Transport → Option (Except DeliveryError Unit)
  | .stream c => c.ended
  | .datagram s => if s.ended then some (.ok ()) else none

/-- Reaches the collector, if that can be done before the time is over. -/
def start (n : Network) (limit : Option Nat) : Transport → Transport
  | .stream c => .stream (c.connect (fun _ => n.reach c.remote) limit (max c.maxAttempts 1) 0).1
  | .datagram s => .datagram (s.bind ((n.resolve s.remote).map fun _ => ()))

/-- Forwards everything that is queued; gives what reaches the collector. -/
def forwardAll (n : Network) : Transport → Transport × List Bytes
  | .stream c =>
    let (c, out) := c.forwardAll fun _ => true
    (.stream c, out)
  | .datagram s =>
    match n.resolve s.remote with
    | .ok e =>
      let (s, out) := s.forwardAll fun d => (n.send e d.length).toBool
      (.datagram s, if n.isHeard e then out else [])
    | .error _ => (.datagram (s.forwardAll fun _ => false).1, [])

end Transport

end LogCourier

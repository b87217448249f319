import LogCourier.Delivery.Address

/-! # Networks -/

namespace LogCourier

/-- Where a collector is. -/
structure Endpoint where
  ip : IpAddress
  number : Nat
deriving DecidableEq, Repr

def Endpoint.text (e : Endpoint) : String := e.ip.textWith e.number

/-- What a network does with what is asked of it. -/
structure Network where
  /-- Finds the collector behind a remote. -/
  resolve : String → Except ReachError Endpoint
  connect : Endpoint → Except SystemError Unit
  /-- Sends a datagram of this size. -/
  send : Endpoint → Nat → Except SystemError Unit
  /-- Whether somebody receives what is sent. -/
  isHeard : Endpoint → Bool

namespace Network

/-- The largest datagram. -/
def maxDatagram : Nat := 65507

/-- Finds an address by number, or the machine itself by name; other names have to be asked for, and
nobody answers. -/
private def resolveAlone (remote : String) : Except ReachError Endpoint := do
  let a ← CollectorAddress.read remote
  match a.ip? with
  | some ip => return { ip, number := a.number }
  | none =>
    if a.isLocal then return { ip := .itself, number := a.number }
    throw (.unknownName (if a.isName then "Temporary failure in name resolution"
      else "Name or service not known"))

/-- Why no address can be connected to. -/
private def connectAlone (e : Endpoint) : SystemError :=
  match e.ip.plain with
  | .v4 _ => .networkUnreachable
  | .v6 groups interface =>
    let ip := IpAddress.v6 groups interface
    if ip.isLinkLocal ∧ interface = 0 then .invalidArgument
    else if ip.isMulticast then .networkUnreachable
    else .addressNotAvailable

/-- A datagram to no address in particular leaves; every other one has no way to go. -/
private def sendAlone (e : Endpoint) (size : Nat) : Except SystemError Unit :=
  if e.number = 0 then .error .invalidArgument
  else
    match e.ip.plain with
    | .v4 0 => if maxDatagram < size then .error .messageTooLong else .ok ()
    | .v4 _ => .error .networkUnreachable
    | .v6 _ _ => .error .addressNotAvailable

/-- A host without any network, not even the way back to itself. -/
def isolated : Network where
  resolve := resolveAlone
  connect e := .error (connectAlone e)
  send := sendAlone
  isHeard _ := false

/-- Reaches the collector behind a remote. -/
def reach (n : Network) (remote : String) : Except ReachError Unit := do
  (n.connect (← n.resolve remote)).mapError .system

end Network

end LogCourier

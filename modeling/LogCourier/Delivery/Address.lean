import LogCourier.Delivery.IpAddress
import LogCourier.SystemError

/-! # Addresses of collectors

A remote is a host and a number after the last colon. A host is an address by number or a name;
eight groups may stand in brackets.
-/

namespace LogCourier

/-- Why a collector cannot be reached. -/
inductive ReachError
  /-- The remote has no colon. -/
  | noAddress
  | badNumber
  | unknownName (text : String)
  | system (cause : SystemError)
deriving DecidableEq, Repr

namespace ReachError

def message : ReachError → String
  | .noAddress => "invalid socket address"
  | .badNumber => "invalid port value"
  | .unknownName text => "failed to lookup address information: " ++ text
  | .system cause => cause.message

end ReachError

structure CollectorAddress where
  host : String
  number : Nat
deriving DecidableEq, Repr

namespace CollectorAddress

/-- Eight groups in brackets, and a plain number. -/
private def bracketed? (remote : String) : Option CollectorAddress := do
  let (host, number) ← Text.cutLast? ':' remote
  match host.toList with
  | '[' :: cs =>
    let number ← Numeral.natIn? 10 number.toList
    if cs.getLast? = some ']' ∧ (IpAddress.v6? cs.dropLast).isSome ∧ number ≤ Numeral.max16 then
      return { host := String.ofList cs.dropLast, number }
    else none
  | _ => none

/-- Splits a remote at its last colon. -/
private def split (remote : String) : Except ReachError CollectorAddress :=
  match Text.cutLast? ':' remote with
  | none => .error .noAddress
  | some (host, number) =>
    match Numeral.read Numeral.max16 number with
    | .ok number =>
      if '\x00' ∈ host.toList then .error (.system .nulInPath) else .ok { host, number }
    | .error _ => .error .badNumber

def read (remote : String) : Except ReachError CollectorAddress :=
  match bracketed? remote with
  | some a => .ok a
  | none => split remote

/-- The interface by which a machine reaches itself. -/
def interfaces : List (String × Nat) := [("lo", 1)]

/-- The address of a host that is given by number. -/
def ip? (a : CollectorAddress) : Option IpAddress :=
  (IpAddress.looseV4? a.host.toList).or (IpAddress.v6? a.host.toList interfaces)

/-! ## Names -/

def maxLabelLength : Nat := 63
def maxNameLength : Nat := 253

/-- Whether a host is a name that can be asked for: labels of letters, digits, hyphens and low lines
with points between them. A point may end the name; a hyphen may not begin it. -/
def isName (a : CollectorAddress) : Bool :=
  let cs := a.host.toList
  let name := if cs.getLast? = some '.' then cs.dropLast else cs
  name.length ≤ maxNameLength && name.head? != some '-' && cs != [] &&
    (name.isEmpty || (Text.pieces '.' name).all fun label =>
      !label.isEmpty && label.length ≤ maxLabelLength &&
        label.all fun c => c.isAlphanum || c = '-' || c = '_')

/-- The name by which a machine knows itself. -/
def isLocal (a : CollectorAddress) : Bool := a.host.toLower == "localhost"

end CollectorAddress

end LogCourier

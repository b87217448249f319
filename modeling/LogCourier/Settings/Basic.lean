import LogCourier.Wire.Priority

/-! # Settings

Everything an agent is told, with the values that hold when nothing is said.
-/

namespace LogCourier

/-- The protocol that carries records to the collector. -/
inductive Protocol
  | tcp
  | udp
deriving DecidableEq, Repr

namespace Protocol

def name : Protocol → String
  | .tcp => "tcp"
  | .udp => "udp"

def all : List Protocol := [.tcp, .udp]

/-- Reads a protocol's name; the case of its letters does not matter. -/
def read (s : String) : Except ValueError Protocol :=
  match all.find? fun p => p.name == s.toLower with
  | some p => .ok p
  | none => .error (.protocol s.toLower)

end Protocol

/-- A file to follow, and the name that its records carry. -/
structure Source where
  id : String
  path : String
deriving DecidableEq, Repr

/-- Times are in milliseconds. -/
structure Settings where
  sources : List Source := []
  remoteHost : String := "127.0.0.1"
  remotePort : Nat := 514
  protocol : Protocol := .tcp
  /-- Attempts to open a file before it is given up; zero means never. -/
  maxOpenAttempts : Nat := 10
  openRetryDelay : Nat := 3000
  /-- Attempts to reach the collector before the agent gives up. -/
  maxConnectAttempts : Nat := 10
  connectRetryDelay : Nat := 3000
  /-- Messages of one file within one rate window. -/
  rateLimit : Nat := 100
  rateWindow : Nat := 1000
  /-- A file larger than this is emptied once it has been read; zero means never. -/
  truncateLimit : Nat := 0x40000000
  /-- Repeats between two notices. -/
  repeatThreshold : Nat := 500
  pollInterval : Nat := 1000
  identifier : String := "tail-relay"
  facility : Facility := .localUse 0
  severity : Severity := .info
  logLevel : String := "info"
  /-- Where diagnostics go, if not to the standard output. -/
  logFile : Option String := none
  pidFile : Option String := none
deriving DecidableEq, Repr

namespace Settings

/-- What holds where nothing else is said. -/
def defaults : Settings := {}

def remoteAddress (s : Settings) : String := s.remoteHost ++ ":" ++ toString s.remotePort

end Settings

end LogCourier

import LogCourier.Numeral

/-! # Levels of diagnostics -/

namespace LogCourier

inductive LogLevel
  | error
  | warn
  | info
  | debug
  | trace
deriving DecidableEq, Repr

namespace LogLevel

def all : List LogLevel := [.error, .warn, .info, .debug, .trace]

def name : LogLevel → String
  | .error => "error"
  | .warn => "warn"
  | .info => "info"
  | .debug => "debug"
  | .trace => "trace"

/-- The name as it stands in a line of diagnostics; all take the same room. -/
def label : LogLevel → String
  | .error => "ERROR"
  | .warn => " WARN"
  | .info => " INFO"
  | .debug => "DEBUG"
  | .trace => "TRACE"

/-- Levels are counted from the gravest, from one. -/
def rank (l : LogLevel) : Nat := all.idxOf l + 1

/-- How much is shown if nothing is left out. -/
def everything : Nat := LogLevel.trace.rank

/-- How much a level lets through: a name, in any case, or a number. -/
def readShown? (s : String) : Option Nat :=
  match Numeral.read Numeral.max64 s with
  | .ok n => if n ≤ everything then some n else none
  | .error _ =>
    if s.toLower = "off" then some 0
    else (all.find? (·.name == s.toLower)).map rank

end LogLevel

end LogCourier

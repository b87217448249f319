import LogCourier.Bytes
import LogCourier.Wire.Priority

/-! # Wire records

A record is `<PRIORITY>TIMESTAMP SOURCE IDENTIFIER BODY` and a newline.
-/

namespace LogCourier

namespace Record

def header (priority : Nat) (stamp source identifier : String) : String :=
  "<" ++ toString priority ++ ">" ++ stamp ++ " " ++ source ++ " " ++ identifier ++ " "

def format (priority : Nat) (stamp source identifier : String) (body : Bytes) : Bytes :=
  Bytes.ofText (header priority stamp source identifier) ++ body ++ [newline]

end Record

/-- The timestamp that every formatter reads; it is refreshed from time to time, not per record. -/
structure Clock where
  now : String
deriving DecidableEq, Repr

/-- What is the same in all records of an agent. -/
structure Formatter where
  facility : Facility
  severity : Severity
  identifier : String
deriving DecidableEq, Repr

def Formatter.format (f : Formatter) (clock : Clock) (source : String) (body : Bytes) : Bytes :=
  Record.format (priority f.facility f.severity) clock.now source f.identifier body

end LogCourier

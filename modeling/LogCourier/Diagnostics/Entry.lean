import LogCourier.Diagnostics.Filter

/-! # Diagnostics -/

namespace LogCourier

/-- The parts of the program that report something. -/
inductive LogSource
  | program
  | agent
  | tailer
  | connector
  | datagrams
deriving DecidableEq, Repr

def LogSource.name : LogSource → String
  | .program => "main"
  | .agent => "tail_relay::agent"
  | .tailer => "tail_relay::stream"
  | .connector => "tail_relay::transport::tcp"
  | .datagrams => "tail_relay::transport::udp"

structure LogEntry where
  level : LogLevel
  source : LogSource
  text : String
  fields : List (String × String) := []
deriving DecidableEq, Repr

namespace LogEntry

/-- The entry as it is written, without the time and the end of the line. -/
def line (e : LogEntry) : String :=
  e.level.label ++ " " ++ e.source.name ++ ": " ++ e.text ++
    String.join (e.fields.map fun (name, value) => " " ++ name ++ "=" ++ value)

/-- The names of the fields; the text is a field too. -/
def fieldNames (e : LogEntry) : List String := "message" :: e.fields.map (·.1)

def isShown (f : LogFilter) (e : LogEntry) : Bool := f.shows e.source.name e.fieldNames e.level

end LogEntry

end LogCourier

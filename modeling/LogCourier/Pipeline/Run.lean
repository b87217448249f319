import LogCourier.Pipeline.Message
import LogCourier.Bytes

/-! # Runs of equal lines

A line equal to the one before it is only counted. A notice goes out at every multiple of the
threshold, and once more when a different line ends the run; a single repeat is settled by sending
the line itself again.
-/

namespace LogCourier

/-- The last line that differed from its predecessor, and how often it came again since. -/
structure LineRun where
  last : Option Bytes := none
  repeats : Nat := 0
deriving DecidableEq, Repr

namespace LineRun

/-- What is still owed for the run when it ends. -/
def owed (r : LineRun) : List Message :=
  match r.repeats with
  | 0 => []
  | 1 => r.last.toList.map .line
  | n => [.repeated n]

/-- Takes a finished line; gives the messages that it causes. -/
def push (threshold : Nat) (r : LineRun) (line : Bytes) : LineRun × List Message :=
  if r.last = some line then
    ({ r with repeats := r.repeats + 1 },
      if (r.repeats + 1) % threshold = 0 then [.repeated (r.repeats + 1)] else [])
  else
    ({ last := some line, repeats := 0 }, r.owed ++ [.line line])

end LineRun

end LogCourier

import LogCourier.Bytes

/-! # Messages

What the pipeline passes on: a line of the file, or a notice of its own.
-/

namespace LogCourier

inductive Message
  /-- A line as it stood in the file, without its newline. -/
  | line (body : Bytes)
  /-- The line before it came again this many times. -/
  | repeated (count : Nat)
  /-- This many messages were refused since the last one that was let through. -/
  | suppressed (count : Nat)
deriving DecidableEq, Repr

namespace Message

def repeatedText (count : Nat) : String :=
  "previous message repeated " ++ toString count ++ " times"

def suppressedText (count : Nat) : String :=
  "suppressed " ++ toString count ++ " messages"

def body : Message → Bytes
  | .line b => b
  | .repeated n => Bytes.ofText (repeatedText n)
  | .suppressed n => Bytes.ofText (suppressedText n)

end Message

end LogCourier

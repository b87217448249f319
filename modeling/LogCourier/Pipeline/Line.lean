import LogCourier.Stage
import LogCourier.Bytes

/-! # Lines

Bytes are gathered until a newline, or until the line is full and a further byte arrives: a full
line that is followed by its newline stays one line.
-/

namespace LogCourier

/-- The line that is being gathered. -/
structure LineBuffer where
  pending : Array UInt8 := #[]
deriving DecidableEq, Repr

namespace LineBuffer

def maxLength : Nat := 1024

/-- Takes one byte; gives the line that it ends, if it ends one. -/
def push (b : LineBuffer) (byte : UInt8) : LineBuffer × List Bytes :=
  if byte = newline then ({}, [b.pending.toList])
  else if maxLength ≤ b.pending.size then (⟨#[byte]⟩, [b.pending.toList])
  else (⟨b.pending.push byte⟩, [])

def feed (b : LineBuffer) (chunk : Bytes) : LineBuffer × List Bytes :=
  Stage.run push b chunk

theorem size_push_le (b : LineBuffer) (byte : UInt8) :
    (b.push byte).1.pending.size ≤ maxLength := by
  unfold push
  split
  · simp
  · split
    · simp [maxLength]
    · simp only [Array.size_push]
      omega

end LineBuffer

end LogCourier

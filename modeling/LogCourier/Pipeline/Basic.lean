import LogCourier.Stage
import LogCourier.Pipeline.Message
import LogCourier.Pipeline.Line
import LogCourier.Pipeline.Run
import LogCourier.Pipeline.Limiter

/-! # The line pipeline

File contents go through three stages: bytes are cut into lines, runs of equal lines are collapsed,
and the messages that are left pass the rate limit. The caller says what time it is.
-/

namespace LogCourier

structure Counters where
  /-- Lines cut from the bytes. -/
  lines : Nat := 0
  /-- Messages passed on, notices included. -/
  emitted : Nat := 0
  /-- Lines equal to their predecessor. -/
  duplicates : Nat := 0
  /-- Messages refused by the rate limit. -/
  suppressed : Nat := 0
deriving DecidableEq, Repr

structure Pipeline where
  threshold : Nat
  limiter : Limiter
  buffer : LineBuffer := {}
  run : LineRun := {}
  counters : Counters := {}
deriving DecidableEq, Repr

namespace Pipeline

/-- A pipeline that has seen nothing; a threshold of zero counts as one. -/
def new (limit window threshold : Nat) : Pipeline where
  threshold := max threshold 1
  limiter := { limit, window }

/-- Passes a message through the rate limit. -/
def offer (now : Nat) (p : Pipeline) (m : Message) : Pipeline × List Message :=
  let (limiter, out) := p.limiter.offer now m
  ({ p with
      limiter
      counters := { p.counters with
        emitted := p.counters.emitted + out.length
        suppressed := p.counters.suppressed + if out.isEmpty then 1 else 0 } }, out)

/-- Passes a finished line through the last two stages. -/
def complete (now : Nat) (p : Pipeline) (line : Bytes) : Pipeline × List Message :=
  let (run, messages) := p.run.push p.threshold line
  let counters := { p.counters with
    lines := p.counters.lines + 1
    duplicates := p.counters.duplicates + if p.run.last = some line then 1 else 0 }
  Stage.run (offer now) { p with run, counters } messages

def push (now : Nat) (p : Pipeline) (byte : UInt8) : Pipeline × List Message :=
  let (buffer, lines) := p.buffer.push byte
  Stage.run (complete now) { p with buffer } lines

/-- Takes a chunk of the file; gives what goes out for it. -/
def feed (p : Pipeline) (now : Nat) (chunk : Bytes) : Pipeline × List Message :=
  Stage.run (push now) p chunk

/-- Settles the run in progress and forgets both it and the unfinished line, so that what follows is
taken as the start of a fresh file. -/
def restart (p : Pipeline) (now : Nat) : Pipeline × List Message :=
  let (p, out) := Stage.run (offer now) p p.run.owed
  ({ p with buffer := {}, run := {} }, out)

/-- How many bytes of an unfinished line are held. -/
def pendingLength (p : Pipeline) : Nat := p.buffer.pending.size

end Pipeline

end LogCourier

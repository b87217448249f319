import LogCourier.FileSystem
import LogCourier.Pipeline.Basic
import LogCourier.Settings.Basic
import LogCourier.TaskFailure
import LogCourier.Wire.Record

/-! # Tailers

A tailer follows one path: it opens the file, passes on what is appended to it, and opens the path
anew when the file has left its name. At most one read is under way at any time; it carries the
offset and the epoch at which it was started, and every reset of the offset begins a new epoch.
-/

namespace LogCourier

inductive TailerPhase
  | opening
  /-- Waiting for the next attempt to open the file. -/
  | retryWait
  | opened
  | watching
  | reading
  | closing
  | stopped
deriving DecidableEq, Repr

def TailerPhase.name : TailerPhase → String
  | .opening => "opening"
  | .retryWait => "retry_wait"
  | .opened => "open"
  | .watching => "watching"
  | .reading => "reading"
  | .closing => "closing"
  | .stopped => "stopped"

/-- What a read comes back with. -/
inductive ReadResult
  | bytes (b : Bytes)
  | failed (cause : SystemError)
  /-- The read does not come back, and the reader is gone with it. -/
  | abandoned (cause : TaskFailure)
deriving DecidableEq, Repr

/-- A read under way. -/
structure Read where
  offset : Nat
  epoch : Nat
  result : ReadResult
deriving DecidableEq, Repr

inductive Reader
  | idle
  | busy (read : Read)
  | lost
deriving DecidableEq, Repr

structure OpenFile where
  file : FileId
  reader : Reader := .idle
deriving DecidableEq, Repr

inductive CloseReason
  | renamed
  | replaced
  | deleted
  | system (cause : SystemError)
  | readerLost (cause : TaskFailure)
deriving DecidableEq, Repr

def CloseReason.message : CloseReason → String
  | .renamed => "file renamed or removed"
  | .replaced => "path now refers to a different file"
  | .deleted => "file no longer exists"
  | .system cause => "I/O error: " ++ cause.message
  | .readerLost cause => "read task failed: " ++ cause.message

/-- What others can see of a tailer, apart from its phase. -/
structure TailerStats where
  bytesRead : Nat := 0
  /-- The pipeline's counters as they were last published. -/
  counters : Counters := {}
  openAttempts : Nat := 0
  reopens : Nat := 0
  /-- How often the tailer emptied its file. -/
  truncations : Nat := 0
deriving DecidableEq, Repr

structure Tailer where
  source : Source
  maxOpenAttempts : Nat
  openRetryDelay : Nat
  truncateLimit : Nat
  pipeline : Pipeline
  phase : TailerPhase := .opening
  /-- Failed attempts since the file was last open. -/
  attempts : Nat := 0
  /-- The size at the last check since the file was opened. -/
  size : Option Nat := none
  /-- The next byte to read. -/
  offset : Nat := 0
  epoch : Nat := 0
  /-- Whether the file is to be emptied once all of it has been read. -/
  pendingTruncation : Bool := false
  opened : Option OpenFile := none
  stats : TailerStats := {}
deriving DecidableEq, Repr

namespace Tailer

/-- How many bytes a read asks for. -/
def chunkSize : Nat := 4096

/-- A tailer that has done nothing yet. -/
def new (s : Settings) (source : Source) : Tailer where
  source
  maxOpenAttempts := s.maxOpenAttempts
  openRetryDelay := s.openRetryDelay
  truncateLimit := s.truncateLimit
  pipeline := .new s.rateLimit s.rateWindow s.repeatThreshold

/-- How a tailer is shown in diagnostics. -/
def shown (t : Tailer) : String :=
  let size := match t.size with
    | none => "None"
    | some n => "Some(" ++ toString n ++ ")"
  "Stream \x7b id: " ++ Text.quoted t.source.id ++ ", path: " ++ Text.quoted t.source.path .path ++
    ", offset: " ++ toString t.offset ++ ", size: " ++ size ++ ", .. \x7d"

/-- The record that carries a message of the tailer. -/
def record (t : Tailer) (f : Formatter) (clock : Clock) (m : Message) : Bytes :=
  f.format clock t.source.id m.body

/-- The read under way. -/
def read? (t : Tailer) : Option Read :=
  match t.opened with
  | some ⟨_, .busy r⟩ => some r
  | _ => none

end Tailer

end LogCourier

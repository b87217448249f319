import LogCourier.Tailer.Basic

/-! # What a tailer does

Each step is given the files as they are at its moment, and the time. A read takes its bytes when it
is started and hands them over when it comes back, and anything may happen to the files in between.
-/

namespace LogCourier

namespace Tailer

/-! ## Opening -/

inductive OpenOutcome
  | opened
  | gaveUp
  /-- The next attempt is one retry delay away. -/
  | retry
deriving DecidableEq, Repr

def attemptOpen (t : Tailer) (files : FileSystem) : Tailer × OpenOutcome :=
  let t := { t with
    phase := .opening
    attempts := t.attempts + 1
    stats := { t.stats with openAttempts := t.stats.openAttempts + 1 } }
  match files.resolve t.source.path with
  | .ok file => ({ t with attempts := 0, opened := some { file } }, .opened)
  | .error _ =>
    if t.maxOpenAttempts ≠ 0 ∧ t.maxOpenAttempts ≤ t.attempts then (t, .gaveUp)
    else ({ t with phase := .retryWait }, .retry)

/-- Attempts, one retry delay apart, until one opens the file or the tailer gives up; `history` says
how the files are after so much time. Gives the time of the last attempt. -/
def openDuring (history : Nat → FileSystem) :
    Nat → Nat → Tailer → Tailer × OpenOutcome × Nat
  | 0, elapsed, t => (t, .retry, elapsed)
  | fuel + 1, elapsed, t =>
    match t.attemptOpen (history elapsed) with
    | (t, .retry) => openDuring history fuel (elapsed + t.openRetryDelay) t
    | (t, outcome) => (t, outcome, elapsed)

/-- Opens the path while other programs change files, each at its time. Gives the time that passed
too. -/
def openAmid (t : Tailer) (files : FileSystem) (changes : List (Nat × FileChange)) :
    Tailer × OpenOutcome × Nat :=
  let last := changes.foldl (fun n c => max n c.1) 0
  let tries :=
    if t.maxOpenAttempts = 0 then last / max t.openRetryDelay 1 + 2 else t.maxOpenAttempts
  openDuring (files.after changes) tries 0 t

/-- Nothing is known yet about the file that was just opened. -/
def begin (t : Tailer) : Tailer :=
  { t with phase := .opened, size := none, pendingTruncation := false, epoch := t.epoch + 1 }

/-! ## Passing bytes on -/

/-- Passes on the bytes that were read at the offset. -/
def consume (t : Tailer) (now : Nat) (b : Bytes) : Tailer × List Message :=
  let (pipeline, out) := t.pipeline.feed now b
  ({ t with
      pipeline
      offset := t.offset + b.length
      stats := { t.stats with
        bytesRead := t.stats.bytesRead + b.length, counters := pipeline.counters } }, out)

/-- What comes next is the start of a fresh file. -/
def restart (t : Tailer) (now : Nat) : Tailer × List Message :=
  let (pipeline, out) := t.pipeline.restart now
  ({ t with pipeline, stats := { t.stats with counters := pipeline.counters } }, out)

/-! ## Reading -/

def startRead (t : Tailer) (files : FileSystem) : Tailer :=
  match t.opened with
  | some ⟨file, .idle⟩ =>
    let result := match files.readAt file t.offset chunkSize with
      | .ok b => .bytes b
      | .error e => .failed e
    { t with
      phase := .reading
      opened := some ⟨file, .busy { offset := t.offset, epoch := t.epoch, result }⟩ }
  | _ => t

/-- Takes note of the file's size. What stands in the file at the first look is skipped; a file that
has become shorter is read again from its start. -/
def observe (t : Tailer) (now size : Nat) : Tailer × List Message :=
  let (t, out) := match t.size with
    | none => ({ t with offset := size }, [])
    | some last =>
      if size < last ∨ size < t.offset then
        { t with offset := 0, epoch := t.epoch + 1 }.restart now
      else (t, [])
  ({ t with
      size := some size
      pendingTruncation :=
        t.pendingTruncation || (decide (0 < t.truncateLimit) && decide (t.truncateLimit < size)) },
    out)

/-- What a step comes to. -/
structure Outcome where
  tailer : Tailer
  /-- What goes to the transport. -/
  out : List Message := []
  /-- Why the file has to be closed, if it has to. -/
  close : Option CloseReason := none
deriving DecidableEq, Repr

/-- Looks at the path and starts a read if the file is still the one that is open. -/
def check (t : Tailer) (files : FileSystem) (now : Nat) : Outcome :=
  match t.opened with
  | none => { tailer := t }
  | some o =>
    match files.resolve t.source.path with
    | .error .notFound => { tailer := t, close := some .deleted }
    | .error e => { tailer := t, close := some (.system e) }
    | .ok file =>
      if file ≠ o.file then { tailer := t, close := some .replaced }
      else
        let (t, out) := t.observe now (files.size file)
        { tailer := t.startRead files, out }

/-- Empties the file at the path. If that fails, it is tried again only after the next check. -/
def truncate (t : Tailer) (files : FileSystem) : Tailer × FileSystem :=
  let t := { t with pendingTruncation := false }
  match files.resolveWritable t.source.path with
  | .error _ => (t, files)
  | .ok file =>
    ({ t with
        offset := 0
        size := some 0
        epoch := t.epoch + 1
        stats := { t.stats with truncations := t.stats.truncations + 1 } },
      files.update file fun _ => [])

/-- Takes what the read came back with. What was read in an earlier epoch is read again; a full
chunk is followed by another read at once. -/
def complete (t : Tailer) (files : FileSystem) (now : Nat) : Outcome × FileSystem :=
  match t.opened with
  | some ⟨file, .busy r⟩ =>
    match r.result with
    | .abandoned cause =>
      ({ tailer := { t with opened := some ⟨file, .lost⟩ }, close := some (.readerLost cause) },
        files)
    | .failed cause =>
      ({ tailer := { t with opened := some ⟨file, .idle⟩ }, close := some (.system cause) }, files)
    | .bytes b =>
      let t := { t with phase := .watching, opened := some ⟨file, .idle⟩ }
      if r.epoch ≠ t.epoch then ({ tailer := t.startRead files }, files)
      else
        let (t, out) := t.consume now b
        if b.length = chunkSize then ({ tailer := t.startRead files, out }, files)
        else if t.pendingTruncation then
          let (t, files) := t.truncate files
          ({ tailer := t, out }, files)
        else ({ tailer := t, out }, files)
  | _ => ({ tailer := t }, files)

/-- Gives up the read under way. -/
def loseRead (t : Tailer) (cause : TaskFailure) : Tailer :=
  match t.opened with
  | some ⟨file, .busy r⟩ =>
    { t with opened := some ⟨file, .busy { r with result := .abandoned cause }⟩ }
  | _ => t

/-- Waits for the read under way and lets go of the file. -/
def close (t : Tailer) (now : Nat) : Tailer × List Message :=
  let (t, last) := match t.read? with
    | some ⟨_, epoch, .bytes b⟩ => if epoch = t.epoch then t.consume now b else (t, [])
    | _ => (t, [])
  let (t, owed) := { t with phase := .closing, opened := none }.restart now
  (t, last ++ owed)

end Tailer

end LogCourier

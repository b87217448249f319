import LogCourier.Stage
import LogCourier.Tailer.Step
import LogCourier.Watch.Notice

/-! # Tailers among files

A tailer runs while other programs change the files. A file that has to be closed is closed at once,
and the path is opened anew; a tailer that gives up stops for good.
-/

namespace LogCourier

structure Tailing where
  files : FileSystem
  tailer : Tailer
deriving DecidableEq, Repr

inductive TailingEvent
  /-- Another program changes a file. -/
  | change (c : FileChange)
  /-- An attempt to open the path. -/
  | attempt
  /-- The watch reports something, or it is time to look again. -/
  | notice (event : FileEvent)
  /-- The read under way comes back. -/
  | complete
  /-- The read under way will not come back. -/
  | lose (cause : TaskFailure)
deriving DecidableEq, Repr

namespace Tailing

def leave (now : Nat) (s : Tailing) : Tailing × List Message :=
  let (t, out) := s.tailer.close now
  ({ s with tailer := { t with stats := { t.stats with reopens := t.stats.reopens + 1 } } }, out)

def follow (now : Nat) (files : FileSystem) (o : Tailer.Outcome) :
    Tailing × List Message :=
  let s : Tailing := { files, tailer := o.tailer }
  if o.close.isSome then ((leave now s).1, o.out ++ (leave now s).2) else (s, o.out)

def attempt (s : Tailing) : Tailing :=
  if s.tailer.opened.isSome ∨ s.tailer.phase = .stopped then s
  else
    { s with tailer := match s.tailer.attemptOpen s.files with
      | (t, .opened) => t.begin
      | (t, .gaveUp) => { t with phase := .stopped }
      | (t, .retry) => t }

def step (s : Tailing) (now : Nat) : TailingEvent → Tailing × List Message
  | .change c => ({ s with files := s.files.changed c }, [])
  | .attempt => (s.attempt, [])
  | .notice .changed => follow now s.files (s.tailer.check s.files now)
  | .notice .renamed => if s.tailer.opened.isSome then leave now s else (s, [])
  | .complete =>
    let (o, files) := s.tailer.complete s.files now
    follow now files o
  | .lose cause => ({ s with tailer := s.tailer.loseRead cause }, [])

/-- What the tailer does next without being told. After a failed attempt, a tailer that never gives
up has nothing to do until the path leads somewhere. -/
def due? (s : Tailing) : Option TailingEvent :=
  match s.tailer.opened with
  | some ⟨_, .busy _⟩ => some .complete
  | some _ => if s.tailer.phase = .opened then some (.notice .changed) else none
  | none =>
    if s.tailer.phase = .stopped then none
    else if s.tailer.phase = .retryWait ∧ s.tailer.maxOpenAttempts = 0 ∧
        (s.files.resolve s.tailer.source.path).toBool = false then none
    else some .attempt

/-- When what is due happens: an attempt after a failed one waits for the retry delay. -/
def dueAt (s : Tailing) (now : Nat) : Nat :=
  if s.tailer.phase = .retryWait then now + s.tailer.openRetryDelay else now

/-- Does what is due, again and again, until the tailer waits for news or the time is over. -/
def settle (limit : Option Nat) : Nat → Nat → Tailing → Tailing × List Message
  | 0, _, s => (s, [])
  | fuel + 1, now, s =>
    match s.due? with
    | none => (s, [])
    | some e =>
      if limit.any (· < s.dueAt now) then (s, [])
      else
        let (next, out) := s.step (s.dueAt now) e
        let (last, more) := settle limit fuel (s.dueAt now) next
        (last, out ++ more)

/-- Enough steps for all attempts and for all reads that fill a chunk. -/
def patience (s : Tailing) : Nat :=
  let bytes := s.files.nodes.foldl
    (fun n node => match node with | .file b => n + b.length | .directory => n) 0
  bytes / Tailer.chunkSize + s.tailer.maxOpenAttempts + 16

/-- Starts the tailer and lets it run until it waits for news. -/
def start (s : Tailing) (now : Nat) : Tailing × List Message := settle none s.patience now s

/-- Another program changes a file, and the tailer runs until it waits for news again. -/
def react (s : Tailing) (now : Nat) (c : FileChange) : Tailing × List Message :=
  let s := (s.step now (.change c)).1
  let (s, out) := s.step now (.notice .changed)
  let (s, more) := s.start now
  (s, out ++ more)

end Tailing

end LogCourier

import LogCourier.Agent.Run
import LogCourier.Program.Log
import LogCourier.Program.Start

/-! # The program from start to end

On a given machine, with files that nobody else changes, it is settled how the program goes: when it
is asked to stop, what it reports, and what it leaves behind.
-/

namespace LogCourier

/-- The machine that the program runs on. -/
structure Host where
  files : FileSystem
  network : Network
  environment : Variables
  clock : Clock
  processId : Nat
  /-- 128 random bits. -/
  random : Nat

/-- Whoever started the program reads a file, asks the program to stop once a text stands there, and
kills it when that takes too long. -/
structure Supervisor where
  file : String
  text : Option String
  /-- In milliseconds. -/
  patience : Nat
deriving DecidableEq, Repr

/-- What is left of a program that has ended. -/
structure Remains where
  /-- A program that was killed has no exit code. -/
  code : Option Nat
  output : String := ""
  errors : String := ""
  files : FileSystem

namespace Program

/-- A program that runs, with the diagnostics so far and their times. -/
structure Life where
  host : Host
  settings : Settings
  filter : LogFilter
  running : Running
  log : List (Nat × LogEntry)

namespace Life

def writePid (h : Host) (files : FileSystem) (path : String) : FileSystem × LogEntry :=
  match files.change (.write path (Bytes.ofText (toString h.processId ++ "\n"))) with
  | .ok files => (files, Log.pidWritten path)
  | .error e => (files, Log.pidNotWritten path e)

/-- The program when its agent is about to start. -/
def begin (h : Host) (s : Settings) (filter : LogFilter) (files : FileSystem) : Life :=
  let (files, pid) := match s.pidFile with
    | none => (files, [])
    | some path => ((writePid h files path).1, [(writePid h files path).2])
  let id := RunId.ofRandom h.random
  let entries := [Log.loaded s] ++ pid ++ [Log.running id, Log.starting id s]
  { host := h
    settings := s
    filter
    running := { files, agent := .new id s }
    log := entries.map fun e => (0, e) }

/-- What is reported about the files. -/
def openingLog (l : Life) : List (Nat × LogEntry) :=
  l.running.agent.tailers.flatMap fun t =>
    match l.running.files.resolve t.source.path with
    | .ok file =>
      [(0, Log.fileOpened t.source), (0, Log.contentSkipped t.source (l.running.files.size file))]
    | .error e =>
      let attempts := t.stats.openAttempts
      let failures := (List.range attempts).map fun i =>
        (i * t.openRetryDelay, Log.fileNotOpened t.source (i + 1) t.maxOpenAttempts e)
      if t.phase = .stopped then
        failures ++ [((attempts - 1) * t.openRetryDelay, Log.fileGivenUp t.source attempts)]
      else failures

/-- What is reported about an attempt to connect. -/
def connectingLog (n : Network) (c : Connector Bytes) (attempt : Nat) : List LogEntry :=
  let resolving := Log.resolving .connector c.remote
  match n.resolve c.remote with
  | .error e => [resolving, Log.notConnected c.remote .resolving attempt c.maxAttempts e]
  | .ok a =>
    let resolved := Log.resolved c.remote a
    match n.connect a with
    | .error e =>
      [resolving, resolved,
        Log.notConnected c.remote .connecting attempt c.maxAttempts (.system e)]
    | .ok () => [resolving, resolved, Log.connected c.remote]

/-- What is reported about the attempts to reach the collector. -/
def reachingLog (n : Network) : Transport → List (Nat × LogEntry)
  | .stream c =>
    let attempts := c.queue.stats.connectAttempts
    let made := (List.range attempts).flatMap fun i =>
      (connectingLog n c (i + 1)).map (i * c.retryDelay, ·)
    if c.ended.isSome then
      made ++ [((attempts - 1) * c.retryDelay, Log.exhausted c.remote attempts)]
    else made
  | .datagram s =>
    let resolving := (0, Log.resolving .datagrams s.remote)
    match n.resolve s.remote with
    | .ok a => [resolving, (0, Log.bound s.remote a)]
    | .error e => [resolving, (0, Log.notBound s.remote e)]

/-- Runs the agent up to a time; the transport has the grace time more. -/
def runUntil (l : Life) (time grace : Nat) : Life :=
  let running := l.running.start l.host.network l.host.clock (some time) grace
  { l with
    running
    log := (l.log ++ { l with running }.openingLog ++
      reachingLog l.host.network running.agent.transport).mergeSort fun a b => a.1 ≤ b.1 }

def shownLines (l : Life) : List (Nat × String) :=
  l.log.filterMap fun (time, e) => if e.isShown l.filter then some (time, e.line ++ "\n") else none

private def holds (line text : String) : Bool := Text.occursIn text.toList line.toList

/-- When the text that a supervisor waits for is written. -/
def requestTime? (l : Life) (s : Supervisor) : Option Nat := do
  let text ← s.text
  let path ← l.settings.logFile
  guard ((l.running.files.resolve path).toOption == (l.running.files.resolve s.file).toOption)
  (l.shownLines.find? fun (_, line) => holds line text).map (·.1)

/-- When the transport ended by itself, if it has. -/
def endTime? (l : Life) : Option Nat :=
  if l.running.agent.transport.ended.isSome then
    (l.log.filter (·.2.source = .connector)).getLast?.map (·.1)
  else none

private def add (l : Life) (e : LogEntry) : Life :=
  { l with log := l.log ++ [((l.log.getLast?.map (·.1)).getD 0, e)] }

private def removePid (l : Life) : Life :=
  match l.settings.pidFile with
  | none => l
  | some path =>
    match l.running.files.change (.remove path) with
    | .ok files => { l with running := { l.running with files } }
    | .error e => l.add (Log.pidNotRemoved path e)

/-- The diagnostics go to the file that the settings name, or to the output. -/
def remains (l : Life) (code : Option Nat) : Remains :=
  let lines := String.join (l.shownLines.map (·.2))
  match l.settings.logFile with
  | none => { code, output := lines, files := l.running.files }
  | some path =>
    match l.running.files.resolve path with
    | .ok file => { code, files := l.running.files.update file (· ++ Bytes.ofText lines) }
    | .error _ => { code, files := l.running.files }

/-- The agent has ended. -/
def finish (l : Life) : Remains :=
  let l := (l.add (Log.agentStopped l.running.agent.snapshot)).removePid
  match l.running.agent.result with
  | .ok _ => (l.add Log.stopped).remains (some 0)
  | .error e => (l.add (Log.failed e)).remains (some 1)

/-- The agent was asked to stop at a time. -/
def stopAt (l : Life) (time : Nat) : Remains :=
  let l := (l.runUntil time Agent.shutdownGrace).add Log.stopping
  let l := { l with running := l.running.stop l.host.clock time }
  (if l.running.agent.transport.ended.isSome then l else l.add Log.graceOver).finish

def run (l : Life) (s : Supervisor) : Remains :=
  let undisturbed := l.runUntil s.patience 0
  let request := undisturbed.requestTime? s
  if undisturbed.endTime?.any (· ≤ request.getD s.patience) then undisturbed.finish
  else
    match request with
    | some time => l.stopAt time
    | none => undisturbed.remains none

end Life

def ended (h : Host) (e : Ending) : Remains where
  code := some e.code
  output := e.output
  errors := e.errors
  files := h.files

def run (h : Host) (supervisor : Supervisor) (args : List String) : Remains :=
  match prepare h.files.read h.environment args with
  | .error e => ended h e
  | .ok (s, filter) =>
    match s.logFile with
    | none => (Life.begin h s filter h.files).run supervisor
    | some path =>
      match h.files.change (.append path []) with
      | .error e => ended h (logFileFailure path e)
      | .ok files => (Life.begin h s filter files).run supervisor

end Program

end LogCourier

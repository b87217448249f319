import LogCourier.Machine

/-! # The command line -/

namespace LogCourier.Machine

open Std.Async

/-- The environment, as far as the program looks at it. -/
def environment : IO Variables := do
  let names := CommandOption.all.map CommandOption.key ++
    [Program.filterVariable, Variables.settingsFile, Variables.maxOpenAttempts,
      Variables.openRetryDelay, Variables.maxConnectAttempts, Variables.connectRetryDelay,
      Variables.rateLimit, Variables.rateWindow, Variables.truncateLimit,
      Variables.repeatThreshold, Variables.pollInterval]
  let values ← names.mapM fun name => return (name, ← IO.getEnv name)
  return fun name => (values.lookup name).join

/-- A reader that knows the settings file, if one is named. -/
def settingsReader (vars : Variables) (args : List String) : IO FileReader := do
  let named := match Arguments.read args with
    | .ok a => a.file.or (vars Variables.settingsFile)
    | .error _ => none
  match named with
  | none => return fun _ => .error .notFound
  | some path =>
    let content ← readFile path
    return fun p => if p = path then content else .error .notFound

/-- Says what there is to say at the end, and gives the exit code. -/
def sayEnding (e : Program.Ending) : IO UInt32 := do
  IO.print e.output
  IO.eprint e.errors
  return e.code.toUInt32

/-- Writes entries that pass the filter, with the time in front. -/
def reporter (filter : LogFilter) (out : IO.FS.Stream) (e : LogEntry) : IO Unit := do
  if e.isShown filter then
    out.putStr ((← clock).now ++ " " ++ e.line ++ "\n")
    out.flush

/-- The number of this process. -/
def processId : IO String := do
  match ← attempt (IO.FS.readFile "/proc/self/stat") with
  | .ok text => return (Text.split ' ' text).headD ""
  | .error _ => return ""

def writePid (report : LogEntry → IO Unit) (path : String) : IO Unit := do
  match ← attempt (do IO.FS.writeFile path ((← processId) ++ "\n")) with
  | .ok () => report (Program.Log.pidWritten path)
  | .error e => report (Program.Log.pidNotWritten path e)

def removePid (report : LogEntry → IO Unit) (path : String) : IO Unit := do
  match ← attempt (IO.FS.removeFile path) with
  | .ok () => return
  | .error e => report (Program.Log.pidNotRemoved path e)

/-- Whether somebody has asked the program to stop, by one of two signals. -/
def stopAsked : IO (IO Bool) := do
  let signals ← [Signal.sigint, Signal.sigterm].mapM fun s => do
    (← Signal.Waiter.mk s false).wait
  return signals.anyM fun s => IO.hasFinished s

/-- Runs an agent with these settings to its end. -/
def runAgent (s : Settings) (report : LogEntry → IO Unit) : IO UInt32 := do
  report (Program.Log.loaded s)
  s.pidFile.forM (writePid report)
  let id := RunId.ofRandom (← IO.rand 0 (0xFFFFFFFFFFFFFFFFFFFFFFFFFFFFFFFF))
  report (Program.Log.running id)
  report (Program.Log.starting id s)
  let asked ← stopAsked
  let agent := Agent.new id s
  let station : Station := {
    settings := s
    running := { files := noFiles s, agent }
    wake := agent.tailers.map fun _ => 0
    report }
  let station ← station.run asked
  let station ←
    if station.transport.ended.isSome then pure station
    else do
      report Program.Log.stopping
      station.stop ((← IO.monoMsNow) + Agent.shutdownGrace)
  report (Program.Log.agentStopped station.running.agent.snapshot)
  s.pidFile.forM (removePid report)
  match station.running.agent.result with
  | .ok _ =>
    report Program.Log.stopped
    return 0
  | .error e =>
    report (Program.Log.failed e)
    return 1

end LogCourier.Machine

open LogCourier LogCourier.Machine in
def main (args : List String) : IO UInt32 := do
  let vars ← environment
  match Program.prepare (← settingsReader vars args) vars args with
  | .error e => sayEnding e
  | .ok (s, filter) =>
    match s.logFile with
    | none => runAgent s (reporter filter (← IO.getStdout))
    | some path =>
      match ← attempt (IO.FS.Handle.mk path .append) with
      | .error e => sayEnding (Program.logFileFailure path e)
      | .ok handle => runAgent s (reporter filter (IO.FS.Stream.ofHandle handle))

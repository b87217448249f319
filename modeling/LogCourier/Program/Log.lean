import LogCourier.Agent.Report
import LogCourier.Diagnostics.Entry

/-! # What the program reports about itself -/

namespace LogCourier

namespace Program.Log

private def field (name : String) (value : Nat) : String × String := (name, toString value)

def loaded (s : Settings) : LogEntry where
  level := .info
  source := .program
  text := "Configuration loaded"
  fields := [("remote", s.remoteAddress), ("protocol", s.protocol.name),
    field "streams" s.sources.length, field "rate_limit" s.rateLimit,
    field "rate_window_ms" s.rateWindow]

def pidWritten (path : String) : LogEntry where
  level := .info
  source := .program
  text := "Pid file written"
  fields := [("path", path)]

private def pidFault (text path : String) (e : SystemError) : LogEntry where
  level := .warn
  source := .program
  text
  fields := [("path", path), ("error", e.message)]

def pidNotWritten (path : String) (e : SystemError) : LogEntry :=
  pidFault "Failed to write pid file" path e

def pidNotRemoved (path : String) (e : SystemError) : LogEntry :=
  pidFault "Failed to remove pid file" path e

def running (id : RunId) : LogEntry where
  level := .info
  source := .program
  text := "Tail Relay running. Press Ctrl+C to stop."
  fields := [("run_id", id.text)]

def starting (id : RunId) (s : Settings) : LogEntry where
  level := .info
  source := .agent
  text := "Agent starting"
  fields := [("run_id", id.text), ("protocol", s.protocol.name), ("remote", s.remoteAddress),
    field "streams" s.sources.length]

/-! ## Files -/

def fileOpened (s : Source) : LogEntry where
  level := .info
  source := .tailer
  text := "File opened"
  fields := [("stream", s.id), ("path", s.path)]

def contentSkipped (s : Source) (size : Nat) : LogEntry where
  level := .debug
  source := .tailer
  text := "Skipping existing content"
  fields := [("stream", s.id), field "size" size]

def fileNotOpened (s : Source) (attempt maxAttempts : Nat) (e : SystemError) : LogEntry where
  level := .warn
  source := .tailer
  text := "Error opening file"
  fields := [("stream", s.id), ("path", s.path), field "attempt" attempt,
    field "max_attempts" maxAttempts, ("error", e.message)]

def fileGivenUp (s : Source) (attempts : Nat) : LogEntry where
  level := .warn
  source := .tailer
  text := "Reached max open attempts, giving up on file"
  fields := [("stream", s.id), ("path", s.path), field "attempts" attempts]

/-! ## The collector -/

def resolving (source : LogSource) (remote : String) : LogEntry where
  level := .debug
  source
  text := "Resolving collector"
  fields := [("remote", remote)]

def resolved (remote : String) (e : Endpoint) : LogEntry where
  level := .debug
  source := .connector
  text := "Collector resolved"
  fields := [("remote", remote), ("addr", e.text)]

def connected (remote : String) : LogEntry where
  level := .info
  source := .connector
  text := "Connection established"
  fields := [("remote", remote)]

/-- An attempt failed in a phase. -/
def notConnected (remote : String) (phase : ConnectionPhase) (attempt maxAttempts : Nat)
    (e : ReachError) : LogEntry where
  level := .warn
  source := .connector
  text := "Error connecting"
  fields := [("remote", remote), ("state", phase.name), field "attempt" attempt,
    field "max_attempts" maxAttempts, ("error", e.message)]

def exhausted (remote : String) (attempts : Nat) : LogEntry where
  level := .error
  source := .connector
  text := "Reached max connect attempts"
  fields := [("remote", remote), field "attempts" attempts]

/-- The number at this end is left open. -/
def bound (remote : String) (e : Endpoint) : LogEntry where
  level := .info
  source := .datagrams
  text := "Datagram socket bound"
  fields := [("remote", remote), ("addr", e.text), ("local", "None")]

def notBound (remote : String) (e : ReachError) : LogEntry where
  level := .warn
  source := .datagrams
  text := "Collector did not resolve, datagram transport stays unbound"
  fields := [("remote", remote), ("error", e.message)]

/-! ## The end -/

def stopping : LogEntry where
  level := .info
  source := .agent
  text := "Shutdown signal received, stopping..."

def graceOver : LogEntry where
  level := .warn
  source := .agent
  text := "Transport shutdown timed out after 2s"

def agentStopped (s : AgentStats) : LogEntry where
  level := .info
  source := .agent
  text := "Agent stopped"
  fields := [("stats", s.json)]

def stopped : LogEntry where
  level := .info
  source := .program
  text := "Tail Relay stopped"

def failed (e : AgentError) : LogEntry where
  level := .error
  source := .program
  text := "Tail Relay stopped on fatal error"
  fields := [("error", e.message)]

end Program.Log

end LogCourier

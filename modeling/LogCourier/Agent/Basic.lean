import Std.Data.TreeMap
import LogCourier.Agent.RunId
import LogCourier.Delivery.Transport
import LogCourier.Tailer.Basic

/-! # Agents

An agent has one tailer for each source and one transport for all of them. Its statistics can be had
for one source at a time or all together, ordered by the sources' ids.
-/

namespace LogCourier

structure Agent where
  runId : RunId
  formatter : Formatter
  transport : Transport
  tailers : List Tailer

/-- What others can see of a tailer. -/
structure TailerStatus where
  phase : TailerPhase
  stats : TailerStats
deriving DecidableEq, Repr

def Tailer.status (t : Tailer) : TailerStatus := { phase := t.phase, stats := t.stats }

structure AgentStats where
  runId : String
  transport : DeliveryStats
  tailers : Std.TreeMap String TailerStatus

/-- Why an agent ended before it was asked to. -/
inductive AgentError
  | delivery (cause : DeliveryError)
  | task (cause : TaskFailure)
deriving DecidableEq, Repr

namespace AgentError

/-- What went wrong underneath. -/
def cause : AgentError → String
  | .delivery e => e.message
  | .task e => e.message

def message : AgentError → String
  | .delivery e => "transport failed: " ++ e.message
  | .task e => "transport task failed: " ++ e.message

end AgentError

namespace Agent

/-- An agent that has not been started. -/
def new (runId : RunId) (s : Settings) : Agent where
  runId
  formatter := { facility := s.facility, severity := s.severity, identifier := s.identifier }
  transport := .new s
  tailers := s.sources.map (Tailer.new s)

def isReady (a : Agent) : Bool := a.transport.queue.ready

def snapshot (a : Agent) : AgentStats where
  runId := a.runId.text
  transport := a.transport.queue.stats
  tailers := .ofList (a.tailers.map fun t => (t.source.id, t.status))

/-- The statistics of one source. -/
def status? (a : Agent) (id : String) : Option TailerStatus :=
  (a.tailers.find? (·.source.id == id)).map (·.status)

/-- What comes of an agent that has been stopped: a transport that gave up is an error, any other
way to end is not. -/
def result (a : Agent) : Except AgentError AgentStats :=
  match a.transport.ended with
  | some (.error e) => .error (.delivery e)
  | _ => .ok a.snapshot

end Agent

end LogCourier

import LogCourier.Settings.Basic

/-! # Layers

A layer says something about some settings and nothing about the others. Laid over settings, it
replaces exactly those that it speaks of.
-/

namespace LogCourier

structure Layer where
  sources : Option (List Source) := none
  remoteHost : Option String := none
  remotePort : Option Nat := none
  protocol : Option Protocol := none
  maxOpenAttempts : Option Nat := none
  openRetryDelay : Option Nat := none
  maxConnectAttempts : Option Nat := none
  connectRetryDelay : Option Nat := none
  rateLimit : Option Nat := none
  rateWindow : Option Nat := none
  truncateLimit : Option Nat := none
  repeatThreshold : Option Nat := none
  pollInterval : Option Nat := none
  identifier : Option String := none
  facility : Option Facility := none
  severity : Option Severity := none
  logLevel : Option String := none
  /-- A layer may also say that there is no such file. -/
  logFile : Option (Option String) := none
  pidFile : Option (Option String) := none
deriving DecidableEq, Repr

def Settings.overlaid (s : Settings) (l : Layer) : Settings where
  sources := l.sources.getD s.sources
  remoteHost := l.remoteHost.getD s.remoteHost
  remotePort := l.remotePort.getD s.remotePort
  protocol := l.protocol.getD s.protocol
  maxOpenAttempts := l.maxOpenAttempts.getD s.maxOpenAttempts
  openRetryDelay := l.openRetryDelay.getD s.openRetryDelay
  maxConnectAttempts := l.maxConnectAttempts.getD s.maxConnectAttempts
  connectRetryDelay := l.connectRetryDelay.getD s.connectRetryDelay
  rateLimit := l.rateLimit.getD s.rateLimit
  rateWindow := l.rateWindow.getD s.rateWindow
  truncateLimit := l.truncateLimit.getD s.truncateLimit
  repeatThreshold := l.repeatThreshold.getD s.repeatThreshold
  pollInterval := l.pollInterval.getD s.pollInterval
  identifier := l.identifier.getD s.identifier
  facility := l.facility.getD s.facility
  severity := l.severity.getD s.severity
  logLevel := l.logLevel.getD s.logLevel
  logFile := l.logFile.getD s.logFile
  pidFile := l.pidFile.getD s.pidFile

end LogCourier

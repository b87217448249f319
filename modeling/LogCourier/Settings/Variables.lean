import LogCourier.Numeral
import LogCourier.Settings.Error
import LogCourier.Settings.Layer
import LogCourier.Text.Blank
import LogCourier.Text.Pieces

/-! # Environment variables

Most values are read without the blanks around them; an identifier and a log level are taken as they
are. A blank file name says that there is no such file.
-/

namespace LogCourier

/-- The environment: what each variable holds, if it is set. -/
abbrev Variables := String → Option String

namespace Variables

def settingsFile : String := "TAIL_RELAY_CONFIG_FILE"
def sources : String := "TAIL_RELAY_STREAMS"
def remoteHost : String := "TAIL_RELAY_REMOTE_HOST"
def remotePort : String := "TAIL_RELAY_REMOTE_PORT"
def protocol : String := "TAIL_RELAY_REMOTE_PROTO"
def maxOpenAttempts : String := "TAIL_RELAY_MAX_OPEN_ATTEMPTS"
def openRetryDelay : String := "TAIL_RELAY_OPEN_RETRY_DELAY_MS"
def maxConnectAttempts : String := "TAIL_RELAY_MAX_CONNECT_ATTEMPTS"
def connectRetryDelay : String := "TAIL_RELAY_CONNECT_RETRY_DELAY_MS"
def rateLimit : String := "TAIL_RELAY_RATE_LIMIT"
def rateWindow : String := "TAIL_RELAY_RATE_TIME_MS"
def truncateLimit : String := "TAIL_RELAY_TRUNCATE_LIMIT"
def repeatThreshold : String := "TAIL_RELAY_REPEAT_THRESHOLD"
def pollInterval : String := "TAIL_RELAY_POLL_INTERVAL_MS"
def identifier : String := "TAIL_RELAY_IDENTIFIER"
def facility : String := "TAIL_RELAY_FACILITY"
def severity : String := "TAIL_RELAY_SEVERITY"
def logLevel : String := "TAIL_RELAY_LOG_LEVEL"
def logFile : String := "TAIL_RELAY_LOG_FILE"
def pidFile : String := "TAIL_RELAY_PID_FILE"

/-- Lays one set of variables over another. -/
def overlaid (below above : Variables) : Variables := fun name => (above name).or (below name)

end Variables

/-- Reads `id=/path,id2=/path2`; blank entries are left out. -/
def Source.readList (key value : String) : Except SettingsError (List Source) :=
  let entries := (Text.split ',' value).map Text.trim |>.filter (· ≠ "")
  entries.mapM fun entry =>
    match Text.cut? '=' entry with
    | some (id, path) => .ok { id := Text.trim id, path := Text.trim path }
    | none => .error (.badSource key entry)

namespace Layer

/-- A variable's value, if the variable is set. -/
def value {α : Type} (vars : Variables) (key : String)
    (read : String → Except ValueError α) : Except SettingsError (Option α) :=
  match vars key with
  | none => .ok none
  | some v => (read (Text.trim v)).map some |>.mapError (.badValue key v)

def fileName (v : String) : Option String :=
  if Text.trim v = "" then none else some (Text.trim v)

/-- The layer that the environment describes; the first unreadable variable is reported. -/
def ofVariables (vars : Variables) : Except SettingsError Layer := do
  let sources ← match vars Variables.sources with
    | none => pure none
    | some v => some <$> Source.readList Variables.sources v
  let remotePort ← value vars Variables.remotePort (Numeral.read Numeral.max16)
  let protocol ← value vars Variables.protocol Protocol.read
  let maxOpenAttempts ← value vars Variables.maxOpenAttempts (Numeral.read Numeral.max32)
  let openRetryDelay ← value vars Variables.openRetryDelay (Numeral.read Numeral.max64)
  let maxConnectAttempts ← value vars Variables.maxConnectAttempts (Numeral.read Numeral.max32)
  let connectRetryDelay ← value vars Variables.connectRetryDelay (Numeral.read Numeral.max64)
  let rateLimit ← value vars Variables.rateLimit (Numeral.read Numeral.max32)
  let rateWindow ← value vars Variables.rateWindow (Numeral.read Numeral.max64)
  let truncateLimit ← value vars Variables.truncateLimit (Numeral.read Numeral.max64)
  let repeatThreshold ← value vars Variables.repeatThreshold (Numeral.read Numeral.max32)
  let pollInterval ← value vars Variables.pollInterval (Numeral.read Numeral.max64)
  let facility ← value vars Variables.facility Facility.read
  let severity ← value vars Variables.severity Severity.read
  return {
    sources, remotePort, protocol, maxOpenAttempts, openRetryDelay, maxConnectAttempts,
    connectRetryDelay, rateLimit, rateWindow, truncateLimit, repeatThreshold, pollInterval,
    facility, severity
    remoteHost := (vars Variables.remoteHost).map Text.trim
    identifier := vars Variables.identifier
    logLevel := vars Variables.logLevel
    logFile := (vars Variables.logFile).map fileName
    pidFile := (vars Variables.pidFile).map fileName }

end Layer

end LogCourier

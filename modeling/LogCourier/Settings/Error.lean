import LogCourier.Json.Fault
import LogCourier.SystemError
import LogCourier.ValueError

/-! # Unusable settings -/

namespace LogCourier

inductive SettingsError
  | unreadable (path : String) (cause : SystemError)
  /-- The settings file is not UTF-8. -/
  | notText (path : String)
  | badDocument (fault : Json.Fault)
  /-- An entry of a list of sources lacks the sign between id and path. -/
  | badSource (key entry : String)
  | badValue (key value : String) (cause : ValueError)
  | noSource
  | blankId
  | relativePath (path id : String)
  | duplicateId (id : String)
  | emptyHost
  | zeroPort
  | zeroConnectAttempts
  | zeroRateLimit
  | zeroRateWindow
  | zeroThreshold
  | shortPoll (interval least : Nat)
deriving DecidableEq, Repr

namespace SettingsError

/-- The setting or variable at fault, where there is one. -/
def key : SettingsError → Option String
  | .unreadable .. | .notText .. | .badDocument .. => none
  | .badSource key _ | .badValue key _ _ => some key
  | .noSource | .blankId | .relativePath .. | .duplicateId .. => some "streams"
  | .emptyHost => some "remote_host"
  | .zeroPort => some "remote_port"
  | .zeroConnectAttempts => some "max_connect_attempts"
  | .zeroRateLimit => some "rate_limit"
  | .zeroRateWindow => some "rate_time_ms"
  | .zeroThreshold => some "repeat_threshold"
  | .shortPoll .. => some "poll_interval_ms"

private def cannotOpen (path cause : String) : String :=
  "can't open config file '" ++ path ++ "': " ++ cause

def message : SettingsError → String
  | .unreadable path cause => cannotOpen path cause.message
  | .notText path => cannotOpen path "stream did not contain valid UTF-8"
  | .badDocument fault => "invalid config file: " ++ fault.message
  | .badSource _ entry => "'" ++ entry ++ "' is not of the form id=/path"
  | .badValue _ value cause => "'" ++ value ++ "' is not valid: " ++ cause.message
  | .noSource => "at least one stream must be configured"
  | .blankId => "stream id must not be empty"
  | .relativePath path id => "path '" ++ path ++ "' of stream '" ++ id ++ "' is not absolute"
  | .duplicateId id => "duplicate stream id '" ++ id ++ "'"
  | .emptyHost => "must not be empty"
  | .zeroPort => "invalid port 0"
  | .zeroConnectAttempts | .zeroRateLimit | .zeroRateWindow | .zeroThreshold =>
    "must be greater than 0"
  | .shortPoll interval least =>
    "poll interval " ++ toString interval ++ "ms is below minimum (" ++ toString least ++ "ms)"

/-- A message as it is shown, together with the setting or variable at fault. -/
def shown (key : Option String) (message : String) : String :=
  match key with
  | some key => "Configuration error for " ++ key ++ ": " ++ message
  | none => "Configuration error: " ++ message

def text (e : SettingsError) : String := shown e.key e.message

end SettingsError

end LogCourier

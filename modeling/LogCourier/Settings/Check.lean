import LogCourier.FileSystem
import LogCourier.Settings.Basic
import LogCourier.Settings.Error
import LogCourier.Text.Blank

/-! # Checking settings

Which settings an agent can run with; of several faults the first in this order is reported.
-/

namespace LogCourier

namespace Settings

def leastPollInterval : Nat := 10

/-- Checks sources against those before them. -/
def checkSources (seen : List String) : List Source → Except SettingsError Unit
  | [] => .ok ()
  | s :: rest =>
    if Text.isBlankText s.id then .error .blankId
    else if !FileSystem.isAbsolute s.path then .error (.relativePath s.path s.id)
    else if seen.contains s.id then .error (.duplicateId s.id)
    else checkSources (s.id :: seen) rest

def check (s : Settings) : Except SettingsError Unit :=
  if s.sources.isEmpty then .error .noSource
  else
    match checkSources [] s.sources with
    | .error e => .error e
    | .ok () =>
      if s.remoteHost = "" then .error .emptyHost
      else if s.remotePort = 0 then .error .zeroPort
      else if s.maxConnectAttempts = 0 then .error .zeroConnectAttempts
      else if s.rateLimit = 0 then .error .zeroRateLimit
      else if s.rateWindow = 0 then .error .zeroRateWindow
      else if s.repeatThreshold = 0 then .error .zeroThreshold
      else if s.pollInterval < leastPollInterval then
        .error (.shortPoll s.pollInterval leastPollInterval)
      else .ok ()

end Settings

end LogCourier

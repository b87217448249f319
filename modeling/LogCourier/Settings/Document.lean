import LogCourier.Json.Decoder
import LogCourier.Settings.Error
import LogCourier.Settings.Layer

/-! # The settings file

A JSON document whose members are all optional. Members that are not known are refused.
-/

namespace LogCourier

open Json Json.Decoder

namespace Layer

private def nat16 : Scan Nat := natural Numeral.max16 "u16"
private def nat32 : Scan Nat := natural Numeral.max32 "u32"
private def nat64 : Scan Nat := natural Numeral.max64 "u64"
private def text : Scan String := string "a string"
private def path : Scan String := string "path string"

def decodeProtocol : Scan Protocol := oneOf (Protocol.all.map fun p => (p.name, p))
def decodeFacility : Scan Facility := oneOf (Facility.all.map fun f => (f.name, f))
def decodeSeverity : Scan Severity := oneOf (Severity.all.map fun s => (s.name, s))

def sourceFields : List (Member Source) :=
  [{ name := "id", decode := do let s ← text; return ({ · with id := s }), isOptional := false },
   { name := "path", decode := do let s ← path; return ({ · with path := s }),
     isOptional := false }]

def decodeSource : Scan Source := record "StreamConfig" sourceFields { id := "", path := "" }

/-- A member that may be left out or null. -/
def member {α : Type} (name : String) (d : Scan α) (put : Layer → Option α → Layer) :
    Member Layer where
  name
  decode := do
    let a ← optional d
    return fun l => put l a
  isOptional := true

def members : List (Member Layer) :=
  [member "streams" (list decodeSource) ({ · with sources := · }),
   member "remote_host" text ({ · with remoteHost := · }),
   member "remote_port" nat16 ({ · with remotePort := · }),
   member "remote_proto" decodeProtocol ({ · with protocol := · }),
   member "max_open_attempts" nat32 ({ · with maxOpenAttempts := · }),
   member "open_retry_delay_ms" nat64 ({ · with openRetryDelay := · }),
   member "max_connect_attempts" nat32 ({ · with maxConnectAttempts := · }),
   member "connect_retry_delay_ms" nat64 ({ · with connectRetryDelay := · }),
   member "rate_limit" nat32 ({ · with rateLimit := · }),
   member "rate_time_ms" nat64 ({ · with rateWindow := · }),
   member "truncate_limit" nat64 ({ · with truncateLimit := · }),
   member "repeat_threshold" nat32 ({ · with repeatThreshold := · }),
   member "poll_interval_ms" nat64 ({ · with pollInterval := · }),
   member "identifier" text ({ · with identifier := · }),
   member "facility" decodeFacility ({ · with facility := · }),
   member "severity" decodeSeverity ({ · with severity := · }),
   member "log_level" text ({ · with logLevel := · }),
   member "log_file" path fun l p => { l with logFile := p.map some },
   member "pid_file" path fun l p => { l with pidFile := p.map some }]

def decode : Scan Layer := record "FileConfig" members {}

/-- The layer that a settings file describes. -/
def ofDocument (json : String) : Except SettingsError Layer :=
  (document decode json).mapError .badDocument

end Layer

end LogCourier

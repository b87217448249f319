import LogCourier.Settings.Layer

/-!
# Settings by name

Each setting by itself, with what settings and layers hold for it.
-/

namespace LogCourier

/-- A setting; they are in the order in which their variables are read. -/
inductive Setting
  | sources
  | remoteHost
  | remotePort
  | protocol
  | maxOpenAttempts
  | openRetryDelay
  | maxConnectAttempts
  | connectRetryDelay
  | rateLimit
  | rateWindow
  | truncateLimit
  | repeatThreshold
  | pollInterval
  | identifier
  | facility
  | severity
  | logLevel
  | logFile
  | pidFile
deriving DecidableEq, Repr

namespace Setting

def all : List Setting :=
  [.sources, .remoteHost, .remotePort, .protocol, .maxOpenAttempts, .openRetryDelay,
    .maxConnectAttempts, .connectRetryDelay, .rateLimit, .rateWindow, .truncateLimit,
    .repeatThreshold, .pollInterval, .identifier, .facility, .severity, .logLevel,
    .logFile, .pidFile]

/-- What a setting can be. -/
def Value : Setting → Type
  | .sources => List Source
  | .remoteHost | .identifier | .logLevel => String
  | .protocol => Protocol
  | .facility => Facility
  | .severity => Severity
  | .logFile | .pidFile => Option String
  | .remotePort | .maxOpenAttempts | .openRetryDelay | .maxConnectAttempts
    | .connectRetryDelay | .rateLimit
  | .rateWindow | .truncateLimit | .repeatThreshold | .pollInterval => Nat

/-- Values for some of the settings. -/
abbrev Values : Type := (k : Setting) → Option k.Value

end Setting

def Settings.get (s : Settings) : (k : Setting) → k.Value
  | .sources => s.sources
  | .remoteHost => s.remoteHost
  | .remotePort => s.remotePort
  | .protocol => s.protocol
  | .maxOpenAttempts => s.maxOpenAttempts
  | .openRetryDelay => s.openRetryDelay
  | .maxConnectAttempts => s.maxConnectAttempts
  | .connectRetryDelay => s.connectRetryDelay
  | .rateLimit => s.rateLimit
  | .rateWindow => s.rateWindow
  | .truncateLimit => s.truncateLimit
  | .repeatThreshold => s.repeatThreshold
  | .pollInterval => s.pollInterval
  | .identifier => s.identifier
  | .facility => s.facility
  | .severity => s.severity
  | .logLevel => s.logLevel
  | .logFile => s.logFile
  | .pidFile => s.pidFile

/-- What a layer says about a setting, if it says anything. -/
def Layer.get? (l : Layer) : Setting.Values
  | .sources => l.sources
  | .remoteHost => l.remoteHost
  | .remotePort => l.remotePort
  | .protocol => l.protocol
  | .maxOpenAttempts => l.maxOpenAttempts
  | .openRetryDelay => l.openRetryDelay
  | .maxConnectAttempts => l.maxConnectAttempts
  | .connectRetryDelay => l.connectRetryDelay
  | .rateLimit => l.rateLimit
  | .rateWindow => l.rateWindow
  | .truncateLimit => l.truncateLimit
  | .repeatThreshold => l.repeatThreshold
  | .pollInterval => l.pollInterval
  | .identifier => l.identifier
  | .facility => l.facility
  | .severity => l.severity
  | .logLevel => l.logLevel
  | .logFile => l.logFile
  | .pidFile => l.pidFile

/-- A layer that says something else, or nothing, about one setting. -/
def Layer.set (l : Layer) : (k : Setting) → Option k.Value → Layer
  | .sources, v => { l with sources := v }
  | .remoteHost, v => { l with remoteHost := v }
  | .remotePort, v => { l with remotePort := v }
  | .protocol, v => { l with protocol := v }
  | .maxOpenAttempts, v => { l with maxOpenAttempts := v }
  | .openRetryDelay, v => { l with openRetryDelay := v }
  | .maxConnectAttempts, v => { l with maxConnectAttempts := v }
  | .connectRetryDelay, v => { l with connectRetryDelay := v }
  | .rateLimit, v => { l with rateLimit := v }
  | .rateWindow, v => { l with rateWindow := v }
  | .truncateLimit, v => { l with truncateLimit := v }
  | .repeatThreshold, v => { l with repeatThreshold := v }
  | .pollInterval, v => { l with pollInterval := v }
  | .identifier, v => { l with identifier := v }
  | .facility, v => { l with facility := v }
  | .severity, v => { l with severity := v }
  | .logLevel, v => { l with logLevel := v }
  | .logFile, v => { l with logFile := v }
  | .pidFile, v => { l with pidFile := v }

namespace Layer

theorem get?_set_self (l : Layer) (k : Setting) (v : Option k.Value) : (l.set k v).get? k = v := by
  cases k <;> rfl

theorem get?_set_of_ne (l : Layer) {k k' : Setting} (h : k' ≠ k) (v : Option k.Value) :
    (l.set k v).get? k' = l.get? k' := by
  cases k <;> cases k' <;> first | rfl | exact absurd rfl h

end Layer

namespace Settings

theorem ext_get {s s' : Settings} (h : ∀ k, s.get k = s'.get k) : s = s' := by
  cases s
  cases s'
  simp only [mk.injEq]
  exact ⟨h .sources, h .remoteHost, h .remotePort, h .protocol, h .maxOpenAttempts,
    h .openRetryDelay, h .maxConnectAttempts, h .connectRetryDelay, h .rateLimit, h .rateWindow,
    h .truncateLimit, h .repeatThreshold, h .pollInterval, h .identifier, h .facility, h .severity,
    h .logLevel, h .logFile, h .pidFile⟩

theorem get_overlaid (s : Settings) (l : Layer) (k : Setting) :
    (s.overlaid l).get k = (l.get? k).getD (s.get k) := by
  cases k <;> rfl

end Settings

end LogCourier

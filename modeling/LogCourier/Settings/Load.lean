import LogCourier.Bytes
import LogCourier.Settings.Check
import LogCourier.Settings.Document
import LogCourier.Settings.Variables

/-! # Loading settings

Defaults, then the settings file, then the environment; the result has to pass the check.
-/

namespace LogCourier

/-- How the files of the system are read. -/
abbrev FileReader := String → Except SystemError Bytes

namespace Layer

/-- The layer of the settings file at a path. -/
def ofFile (read : FileReader) (path : String) : Except SettingsError Layer :=
  match read path with
  | .error cause => .error (.unreadable path cause)
  | .ok bytes =>
    match String.fromUTF8? bytes.toByteArray with
    | none => .error (.notText path)
    | some json => ofDocument json

end Layer

namespace Settings

/-- Lays a JSON document over settings. -/
def merge (s : Settings) (json : String) : Except SettingsError Settings := do
  return s.overlaid (← Layer.ofDocument json)

/-- Loads settings. The file is the one given, or else the one that a variable names. -/
def load (read : FileReader) (file : Option String) (vars : Variables) :
    Except SettingsError Settings := do
  let fileLayer ← match file.or (vars Variables.settingsFile) with
    | none => pure {}
    | some path => Layer.ofFile read path
  let variableLayer ← Layer.ofVariables vars
  let s := (defaults.overlaid fileLayer).overlaid variableLayer
  s.check
  return s

end Settings

end LogCourier

import LogCourier.CommandLine
import LogCourier.Diagnostics.Filter
import LogCourier.Settings.Load

/-! # Starting the program

The program ends early if it is asked for its version, if its arguments or settings are not usable,
or if it cannot write its diagnostics where it is told to.
-/

namespace LogCourier

namespace Program

def name : String := "tail-relay"
def version : String := "0.1.0"

/-- The variable that decides, before the settings, which diagnostics are shown. -/
def filterVariable : String := "RUST_LOG"

/-- How the program ends, and what it says. -/
structure Ending where
  code : Nat
  output : String := ""
  errors : String := ""
deriving DecidableEq, Repr

def usage : String :=
  "Usage: " ++ name ++ " [OPTIONS] [CONFIG_FILE]\n\nOptions:\n" ++
    String.join (CommandOption.all.map fun o => "      --" ++ o.name ++ " <VALUE>\n") ++
    "  -v, --version\n  -h, --help\n"

def usageFault : UsageError → String
  | .help => ""
  | .unknownArgument => "unexpected argument"
  | .missingValue => "a value is required"
  | .badValue => "invalid value"
  | .repeatedArgument => "an argument cannot be used multiple times"
  | .unneededValue => "unexpected value"

/-- Help is an answer; every other fault of the arguments is an error of usage. -/
def usageEnding : UsageError → Ending
  | .help => { code := 0, output := usage }
  | e => { code := 2, errors := "error: " ++ usageFault e ++ "\n\n" ++ usage }

def versionEnding : Ending := { code := 0, output := name ++ " " ++ version ++ "\n" }

/-- A fault that is reported before diagnostics can be written. -/
def failure (text : String) : Ending := { code := 1, errors := name ++ ": " ++ text ++ "\n" }

/-- The filter that a variable gives, or else the one that the settings give. -/
def chooseFilter (vars : Variables) (s : Settings) : Except String LogFilter :=
  match (vars filterVariable).map LogFilter.read with
  | some (.ok f) => .ok f
  | _ => (LogFilter.read s.logLevel).mapError fun e =>
      "invalid log level '" ++ s.logLevel ++ "': " ++ e.message

/-- The settings that hold under these arguments. -/
def loadSettings (read : FileReader) (vars : Variables) (a : Arguments) :
    Except SettingsError Settings :=
  Settings.load read a.file (a.overlay vars)

/-- What the program does before it opens any file for writing. -/
def prepare (read : FileReader) (vars : Variables) (args : List String) :
    Except Ending (Settings × LogFilter) := do
  let a ← (Arguments.read args).mapError usageEnding
  if a.version then throw versionEnding
  let s ← (loadSettings read vars a).mapError fun e => failure e.text
  let f ← (chooseFilter vars s).mapError failure
  return (s, f)

def logFileFailure (path : String) (e : SystemError) : Ending :=
  failure ("cannot open log file " ++ path ++ ": " ++ e.message)

end Program

end LogCourier

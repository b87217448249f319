import LogCourier.Numeral
import LogCourier.Settings.Variables

/-! # The command line

Options stand for environment variables and win over them. An argument is settled only when the next
one begins, so a fault in what follows can come first.
-/

namespace LogCourier

/-- The options that take a value. -/
inductive CommandOption
  | source
  | remoteHost
  | remotePort
  | protocol
  | identifier
  | facility
  | severity
  | logLevel
  | logFile
  | pidFile
deriving DecidableEq, Repr

namespace CommandOption

def all : List CommandOption :=
  [.source, .remoteHost, .remotePort, .protocol, .identifier, .facility, .severity, .logLevel,
    .logFile, .pidFile]

def name : CommandOption → String
  | .source => "stream"
  | .remoteHost => "remote-host"
  | .remotePort => "remote-port"
  | .protocol => "remote-proto"
  | .identifier => "identifier"
  | .facility => "facility"
  | .severity => "severity"
  | .logLevel => "log-level"
  | .logFile => "log-file"
  | .pidFile => "pid-file"

/-- The variable that an option stands for. -/
def key : CommandOption → String
  | .source => Variables.sources
  | .remoteHost => Variables.remoteHost
  | .remotePort => Variables.remotePort
  | .protocol => Variables.protocol
  | .identifier => Variables.identifier
  | .facility => Variables.facility
  | .severity => Variables.severity
  | .logLevel => Variables.logLevel
  | .logFile => Variables.logFile
  | .pidFile => Variables.pidFile

def ofName? (s : String) : Option CommandOption := all.find? (·.name == s)

end CommandOption

inductive UsageError
  /-- Help was asked for; nothing else counts then. -/
  | help
  | unknownArgument
  /-- A value is missing, or the name of the settings file is empty. -/
  | missingValue
  | badValue
  | repeatedArgument
  /-- A value was given where none is taken. -/
  | unneededValue
deriving DecidableEq, Repr

/-- What the command line says. -/
structure Arguments where
  file : Option String := none
  version : Bool := false
  /-- The options in order, with their values. -/
  given : List (CommandOption × String) := []
deriving DecidableEq, Repr

namespace Arguments

def valuesOf (a : Arguments) (o : CommandOption) : List String :=
  a.given.filterMap fun (given, v) => if given = o then some v else none

/-- The value that an option gives to its variable; sources become one list. -/
def override? (a : Arguments) (o : CommandOption) : Option String :=
  match a.valuesOf o with
  | [] => none
  | vs => some (",".intercalate vs)

/-- The variables that the options set. -/
def overrides (a : Arguments) : List (String × String) :=
  CommandOption.all.filterMap fun o => (a.override? o).map (o.key, ·)

/-- The environment with the options laid over it. -/
def overlay (a : Arguments) (environment : Variables) : Variables :=
  environment.overlaid fun name => a.overrides.lookup name

/-! ## Reading -/

/-- An argument that is not settled yet. -/
inductive Pending
  | option (o : CommandOption) (value : Option String)
  | file (path : String)
deriving DecidableEq, Repr

structure Reading where
  arguments : Arguments := {}
  pending : Option Pending := none
  /-- Whether the place of the settings file is taken. -/
  fileTaken : Bool := false
deriving DecidableEq, Repr

/-- A number between 0 and 65535, which may have a sign. -/
def readNumber16? (s : String) : Option Nat :=
  let digits := match s.toList with
    | '+' :: cs | '-' :: cs => cs
    | cs => cs
  match digits with
  | [] => none
  | cs =>
    match Numeral.readDigits Numeral.max16 0 cs with
    | .ok n => if s.toList.head? = some '-' ∧ n ≠ 0 then none else some n
    | .error _ => none

/-- The text that an option's value becomes. -/
def checked (o : CommandOption) (value : String) : Except UsageError String :=
  match o with
  | .remotePort =>
    match readNumber16? value with
    | some n => .ok (toString n)
    | none => .error .badValue
  | _ => .ok value

def give (a : Arguments) (o : CommandOption) (value : String) :
    Except UsageError Arguments :=
  if o ≠ .source ∧ (a.given.lookup o).isSome then .error .repeatedArgument
  else do return { a with given := a.given ++ [(o, ← checked o value)] }

/-- Settles the pending argument. -/
def settle (r : Reading) : Except UsageError Reading :=
  match r.pending with
  | none => .ok r
  | some (.option _ none) => .error .missingValue
  | some (.option o (some v)) => do
    return { r with arguments := ← give r.arguments o v, pending := none }
  | some (.file path) =>
    if path = "" then .error .missingValue
    else .ok { r with arguments := { r.arguments with file := some path }, pending := none }

def askVersion (r : Reading) : Except UsageError Reading := do
  let r ← settle r
  if r.arguments.version then throw .repeatedArgument
  return { r with arguments := { r.arguments with version := true } }

def askHelp (r : Reading) : Except UsageError Reading := do
  let _ ← settle r
  throw .help

/-- An argument after its two dashes. -/
def readLong (r : Reading) (text : String) : Except UsageError Reading :=
  let (name, value) : String × Option String := match Text.cut? '=' text with
    | some (name, v) => (name, some v)
    | none => (text, none)
  match CommandOption.ofName? name, value with
  | some o, some v => do
    let r ← settle r
    return { r with arguments := ← give r.arguments o v }
  | some o, none => do
    let r ← settle r
    return { r with pending := some (.option o none) }
  | none, value =>
    if name = "version" ∨ name = "help" then
      if value.isSome then .error .unneededValue
      else if name = "version" then askVersion r
      else askHelp r
    else .error .unknownArgument

/-- The letters after a single dash. -/
def readShort (r : Reading) : List Char → Except UsageError Reading
  | [] => .ok r
  | 'v' :: cs => do readShort (← askVersion r) cs
  | 'h' :: _ => askHelp r
  | _ => .error .unknownArgument

def readFile (r : Reading) (path : String) : Except UsageError Reading :=
  if r.fileTaken then .error .unknownArgument
  else do return { ← settle r with pending := some (.file path), fileTaken := true }

def readPlain (r : Reading) (text : String) : Except UsageError Reading :=
  match r.pending with
  | some (.option o none) => .ok { r with pending := some (.option o (some text)) }
  | _ => readFile r text

def readAll (r : Reading) : List String → Except UsageError Reading
  | [] => settle r
  | arg :: args =>
    if arg = "--" then do settle (← args.foldlM readFile r)
    else do
      let r ← match arg.toList with
        | '-' :: '-' :: cs => readLong r (String.ofList cs)
        | '-' :: c :: cs => readShort r (c :: cs)
        | _ => readPlain r arg
      readAll r args

/-- Reads the arguments after the program's name. -/
def read (args : List String) : Except UsageError Arguments := do
  return (← readAll {} args).arguments

end Arguments

end LogCourier

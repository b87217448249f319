import LogCourier.ValueError

/-! # Facility, severity and priority -/

namespace LogCourier

inductive Facility
  | user
  | localUse (index : Fin 8)
deriving DecidableEq, Repr

namespace Facility

def code : Facility → Nat
  | .user => 1
  | .localUse i => 16 + i.val

def name : Facility → String
  | .user => "user"
  | .localUse i => "local" ++ toString i.val

def all : List Facility := .user :: (List.finRange 8).map .localUse

/-- Reads a facility's name; the case of its letters does not matter. -/
def read (s : String) : Except ValueError Facility :=
  match all.find? fun f => f.name == s.toLower with
  | some f => .ok f
  | none => .error (.facility s)

end Facility

/-- Severities, the most severe first. -/
inductive Severity
  | emerg | alert | crit | err | warning | notice | info | debug
deriving DecidableEq, Repr

namespace Severity

def code : Severity → Nat
  | .emerg => 0
  | .alert => 1
  | .crit => 2
  | .err => 3
  | .warning => 4
  | .notice => 5
  | .info => 6
  | .debug => 7

def name : Severity → String
  | .emerg => "emerg"
  | .alert => "alert"
  | .crit => "crit"
  | .err => "err"
  | .warning => "warning"
  | .notice => "notice"
  | .info => "info"
  | .debug => "debug"

def all : List Severity := [.emerg, .alert, .crit, .err, .warning, .notice, .info, .debug]

/-- Second spellings of some severities. -/
def aliases : List (String × Severity) :=
  [("emergency", .emerg), ("critical", .crit), ("error", .err), ("warn", .warning)]

/-- Reads a severity by name or alias; the case of its letters does not matter. -/
def read (s : String) : Except ValueError Severity :=
  match all.find? fun v => v.name == s.toLower with
  | some v => .ok v
  | none =>
    match aliases.lookup s.toLower with
    | some v => .ok v
    | none => .error (.severity s)

end Severity

/-- The number in front of a record. -/
def priority (f : Facility) (s : Severity) : Nat := f.code * 8 + s.code

end LogCourier

import LogCourier.Diagnostics.Level
import LogCourier.Diagnostics.Pattern
import LogCourier.Text.Pieces

/-! # Directives

A directive says how much is shown of some diagnostics. It is a level, a source, or a source with
a level behind an equals sign. Brackets after the source, or in its place, narrow it to a named
stretch of work, or, with braces in them, to diagnostics with a field, which may be asked to hold a
value.
-/

namespace LogCourier

/-- Why a filter cannot be read. -/
inductive FilterError
  | directive
  | level
  | field (fault : PatternFault)
deriving DecidableEq, Repr

def FilterError.message : FilterError → String
  | .directive => "invalid filter directive"
  | .level => "error parsing level filter: expected one of \"off\", \"error\", \"warn\", " ++
      "\"info\", \"debug\", \"trace\", or a number 0-5"
  | .field fault => "invalid field filter: " ++ fault.message

/-- A field that diagnostics have to have, and the value that it has to hold, if one is given. -/
structure FieldFilter where
  name : String
  value : Option String := none
deriving DecidableEq, Repr

namespace FieldFilter

/-- Takes a sign from the front of a number. -/
private def unsigned (cs : List Char) : List Char :=
  match cs with
  | '+' :: rest | '-' :: rest => rest
  | _ => cs

private def isDigits (cs : List Char) : Bool := cs.all Char.isDigit

/-- Digits with at most one point among them. -/
private def isDecimal (cs : List Char) : Bool :=
  match Text.cutChars? '.' cs with
  | none => !cs.isEmpty && isDigits cs
  | some (whole, part) => isDigits whole && isDigits part && !(whole.isEmpty && part.isEmpty)

/-- Whether a value is a number; an exponent may follow its digits. -/
def isNumber (value : String) : Bool :=
  let cs := unsigned (value.toLower).toList
  ["inf", "infinity", "nan"].contains (String.ofList cs) ||
    match Text.cutChars? 'e' cs with
    | none => isDecimal cs
    | some (digits, exponent) =>
      isDecimal digits && !(unsigned exponent).isEmpty && isDigits (unsigned exponent)

/-- Reads `name` or `name=value`; what follows a second equals sign is left out. A value that is not
a number is a pattern. -/
def read (text : String) : Except FilterError FieldFilter :=
  match Text.split '=' text with
  | name :: value :: _ =>
    if isNumber value then .ok { name, value }
    else ((Pattern.check value).map fun _ => { name, value }).mapError .field
  | _ => .ok { name := text }

end FieldFilter

structure Directive where
  /-- What the source of a diagnostic begins with. -/
  source : String := ""
  /-- The stretch of work in which the directive holds. -/
  stretch : Option String := none
  field : Option FieldFilter := none
  /-- The rank of the last level that is shown. -/
  shown : Nat := LogLevel.everything
deriving DecidableEq, Repr

namespace Directive

/-! ## Reading -/

/-- A directive's text without the blanks around it, and with them. Where a part begins and ends is
counted without the blanks, and the part is cut out of the text with them: blanks in front make
every part begin that much earlier. -/
private structure Reading where
  trimmed : List Char
  whole : List Char

/-- What begins where so much of the text is left. -/
private def Reading.since (r : Reading) (rest : List Char) : List Char :=
  Text.fromByte (Text.byteSize r.trimmed - Text.byteSize rest) r.whole

/-- What begins where so much of the text is left, and ends where so much less of it is left. -/
private def Reading.part (r : Reading) (first last : List Char) : String :=
  String.ofList ((r.since first).take ((r.since first).length - (r.since last).length))

/-- What follows the equals sign before a level; without a level everything is shown. -/
private def Reading.level (r : Reading) (d : Directive) (rest : List Char) :
    Except FilterError Directive :=
  let text := String.ofList (r.since rest)
  if text = "" then .ok d
  else
    match LogLevel.readShown? text with
    | some shown => .ok { d with shown }
    | none => .error .level

/-- What follows a closing bracket. -/
private def Reading.afterScope (r : Reading) (d : Directive) :
    List Char → Except FilterError Directive
  | [] => .ok d
  | '=' :: rest => r.level d rest
  | _ => .error .directive

/-- What follows an opening bracket. -/
private def Reading.scope (r : Reading) (d : Directive) (cs : List Char) :
    Except FilterError Directive :=
  let rest := cs.dropWhile fun c => c ≠ ']' && c ≠ '\x7b'
  let stretch := r.part cs rest
  match rest with
  | ']' :: rest => r.afterScope { d with stretch } rest
  | _ :: inner =>
    let d := if stretch = "" then d else { d with stretch }
    let closing := inner.dropWhile (· ≠ '\x7d')
    match closing with
    | [] => .error .directive
    | _ :: rest => do
      if r.part inner closing = "" then throw .directive
      let d := { d with field := some (← FieldFilter.read (r.part inner closing)) }
      match rest with
      | ']' :: rest => r.afterScope d rest
      | _ => throw .directive
  | [] => .error .directive

private def isNameStart (c : Char) : Bool :=
  c = '-' || c = ':' || c = '_' || Text.isLetter c || Text.isNumber c

def read (text : String) : Except FilterError Directive :=
  let cs := Text.trimChars text.toList
  let r : Reading := { trimmed := cs, whole := text.toList }
  match cs with
  | [] => .error .directive
  | '[' :: rest => r.scope {} rest
  | c :: _ =>
    if !isNameStart c then .error .directive
    else
      let closing := cs.dropWhile fun c => c ≠ '=' && c ≠ '['
      let named : Directive := { source := r.part cs closing }
      match closing with
      | '=' :: rest => r.level named rest
      | _ :: rest => r.scope named rest
      | [] =>
        match LogLevel.readShown? text with
        | some shown => .ok { shown }
        | none => .ok { source := text }

/-! ## Use -/

/-- Whether a directive speaks of a diagnostic from this source with these fields. None is reported
within a stretch of work, and no field is held against a value. -/
def appliesTo (d : Directive) (source : String) (fields : List String) : Bool :=
  d.stretch.isNone && d.source.toList.isPrefixOf source.toList &&
    d.field.all fun f => f.value.isNone && fields.contains f.name

/-- Whether a directive says at least as much of a diagnostic as another one that applies to it too:
a longer beginning of its source, or one as long and a field, or a field with a later name. -/
def isAsSpecificAs (d e : Directive) : Bool :=
  if d.source.utf8ByteSize ≠ e.source.utf8ByteSize then
    e.source.utf8ByteSize < d.source.utf8ByteSize
  else
    match d.field, e.field with
    | _, none => true
    | none, some _ => false
    | some f, some g => !decide (f.name < g.name)

end Directive

end LogCourier

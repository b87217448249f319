import LogCourier.Json.Number

/-! # Decoders

A decoder reads a value of the shape it asks for, from front to back, and stops at the first
fault. A value of another shape is a fault that names what was found; lists and objects are named
without reading them.
-/

namespace LogCourier.Json

open Scan

namespace Decoder

variable {α σ : Type}

/-- Names the value that stands here in place of the expected one. -/
def wrongType (expected : String) : Scan α := do
  match ← look with
  | some 'n' => skip; word "ull".toList; throw (.wrongType .null expected)
  | some 't' => skip; word "rue".toList; throw (.wrongType (.boolean true) expected)
  | some 'f' => skip; word "alse".toList; throw (.wrongType (.boolean false) expected)
  | some '-' => skip; throw (.wrongType (← number false).found expected)
  | some '"' => skip; throw (.wrongType (.string (← stringRest)) expected)
  | some '[' => throw (.wrongType .sequence expected)
  | some '\x7b' => throw (.wrongType .map expected)
  | some c =>
    if '0' ≤ c ∧ c ≤ '9' then throw (.wrongType (← number true).found expected)
    else throw .noValue
  | none => throw .noValue

def string (expected : String) : Scan String := do
  match ← peek with
  | none => throw .endInValue
  | some '"' => skip; stringRest
  | some _ => wrongType expected

def inWidth (largest : Nat) (expected : String) : Number → Except Fault Nat
  | .natural n => if n ≤ largest then .ok n else .error (.wrongValue (.integer n) expected)
  | .negative n => .error (.wrongValue (.integer (-n)) expected)
  | .float x => .error (.wrongType (.float x) expected)

/-- A natural number up to a largest one. -/
def natural (largest : Nat) (expected : String) : Scan Nat := do
  match ← peek with
  | none => throw .endInValue
  | some '-' => skip; inWidth largest expected (← number false)
  | some c =>
    if '0' ≤ c ∧ c ≤ '9' then inWidth largest expected (← number true)
    else wrongType expected

/-- A value, or null in its place. -/
def optional (d : Scan α) : Scan (Option α) := do
  match ← peek with
  | some 'n' => skip; word "ull".toList; return none
  | _ => return some (← d)

def null : Scan Unit := do
  match ← peek with
  | none => throw .endInValue
  | some 'n' => skip; word "ull".toList
  | some _ => wrongType "unit"

/-- Takes the colon after a key. -/
def colon : Scan Unit := do
  match ← peek with
  | some ':' => skip
  | some _ => throw .noColon
  | none => throw .endInObject

def choose (choices : List (String × α)) (name : String) : Except Fault α :=
  match choices.lookup name with
  | some a => .ok a
  | none => .error (.unknownVariant name (choices.map (·.1)))

/-- The first key of an object; there has to be one. -/
def firstKey : Scan String := do
  match ← peek with
  | some '"' => skip; stringRest
  | some '\x7d' => throw .noValue
  | some _ => throw .keyNotString
  | none => throw .endInObject

/-- One of several names, as a string or as the only key of an object that holds null. -/
def oneOf (choices : List (String × α)) : Scan α := do
  match ← peek with
  | none => throw .endInValue
  | some '"' => choose choices (← string "variant identifier")
  | some '\x7b' =>
    skip
    let a ← choose choices (← firstKey)
    colon
    null
    match ← peek with
    | some '\x7d' => skip; return a
    | some _ => throw .noValue
    | none => throw .endInObject
  | some _ => throw .noValue

/-! ## Lists -/

/-- Whether another element follows; takes the comma before it. -/
def moreElements (first : Bool) : Scan Bool := do
  match ← peek with
  | none => throw .endInList
  | some ']' => return false
  | some c =>
    if first then return true
    if c != ',' then throw .noListComma
    skip
    match ← peek with
    | some ']' => throw .trailingComma
    | some _ => return true
    | none => throw .endInValue

/-- Takes the bracket that ends a list whose elements have all been asked for. -/
def endList : Scan Unit := do
  match ← peek with
  | some ']' => skip
  | some ',' =>
    skip
    if (← peek) == some ']' then throw .trailingComma else throw .trailingCharacters
  | some _ => throw .trailingCharacters
  | none => throw .endInList

def elements (d : Scan α) : Nat → Bool → Scan (List α)
  | 0, _ => throw .endInList
  | fuel + 1, first => do
    if ← moreElements first then
      let a ← d
      return a :: (← elements d fuel false)
    else return []

def list (d : Scan α) : Scan (List α) := do
  match ← peek with
  | none => throw .endInValue
  | some '[' =>
    skip
    let as ← elements d ((← get).length + 1) true
    endList
    return as
  | some _ => wrongType "a sequence"

/-! ## Records -/

/-- A named part of a record that is being filled in. -/
structure Member (σ : Type) where
  name : String
  /-- Reads the value and says how to put it in. -/
  decode : Scan (σ → σ)
  /-- Whether the record may be without it. -/
  isOptional : Bool

/-- Whether another key follows; takes the comma before it. -/
def moreKeys (first : Bool) : Scan Bool := do
  match ← peek with
  | none => throw .endInObject
  | some '\x7d' => return false
  | some c =>
    if first then
      if c == '"' then return true else throw .keyNotString
    if c != ',' then throw .noObjectComma
    skip
    match ← peek with
    | some '"' => return true
    | some '\x7d' => throw .trailingComma
    | some _ => throw .keyNotString
    | none => throw .endInValue

/-- The parts of a record by name, each at most once. -/
def byName (fields : List (Member σ)) : Nat → Bool → List String → σ → Scan (List String × σ)
  | 0, _, _, _ => throw .endInObject
  | fuel + 1, first, seen, s => do
    if ← moreKeys first then
      skip
      let key ← stringRest
      match fields.find? (·.name == key) with
      | none => throw (.unknownField key (fields.map (·.name)))
      | some field =>
        if seen.contains key then throw (.duplicateField key)
        colon
        let put ← field.decode
        byName fields fuel false (key :: seen) (put s)
    else return (seen, s)

/-- The parts of a record in order. -/
def byPosition (expected : String) : Nat → List (Member σ) → σ → Scan σ
  | _, [], s => return s
  | n, field :: fields, s => do
    if ← moreElements (n == 0) then
      let put ← field.decode
      byPosition expected (n + 1) fields (put s)
    else throw (.wrongLength n expected)

/-- A record with these fields, written as an object, or as a list of all its values. -/
def record (name : String) (fields : List (Member σ)) (start : σ) : Scan σ := do
  match ← peek with
  | none => throw .endInValue
  | some '[' =>
    skip
    let expected := "struct " ++ name ++ " with " ++ toString fields.length ++ " elements"
    let s ← byPosition expected 0 fields start
    endList
    return s
  | some '\x7b' =>
    skip
    let (seen, s) ← byName fields ((← get).length + 1) true [] start
    match fields.find? fun f => !f.isOptional && !seen.contains f.name with
    | some f => throw (.missingField f.name)
    | none =>
      skip
      return s
  | some _ => wrongType ("struct " ++ name)

/-- A whole document: one value, with nothing but blanks after it. -/
def document (d : Scan α) (text : String) : Except Fault α := do
  let (a, rest) ← d.run text.toList
  if rest.all isBlank then return a else throw .trailingCharacters

end Decoder

end LogCourier.Json

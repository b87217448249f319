import LogCourier.Json.Scan
import LogCourier.Numeral

/-! # Numbers

A number is a natural number that fits a word, a negative one, or floating point. A number too large
for a word is floating point; the digits that do not fit any more only count as places.
-/

namespace LogCourier.Json

inductive Number
  | natural (n : Nat)
  /-- The number below zero by this much. -/
  | negative (n : Nat)
  | float (x : Binary64)
deriving DecidableEq, Repr

namespace Number

def found : Number → Found
  | .natural n => .integer n
  | .negative n => .integer (-n)
  | .float x => .float x

def toFloat (positive : Bool) (significand : Nat) (exponent : Int) : Except Fault Number :=
  match Binary64.ofDecimal? positive significand exponent with
  | some x => .ok (.float x)
  | none => .error .numberRange

/-- Gathers digits while the number fits a word; gives how many it took, and the rest. -/
def gather (n count : Nat) : List Char → Nat × Nat × List Char
  | [] => (n, count, [])
  | c :: cs =>
    match Numeral.digit? c with
    | none => (n, count, c :: cs)
    | some d =>
      if Numeral.max64 < n * 10 + d then (n, count, c :: cs) else gather (n * 10 + d) (count + 1) cs

def isDigit (c : Char) : Bool := (Numeral.digit? c).isSome

def digitsValue (cs : List Char) : Nat :=
  cs.foldl (fun n c => n * 10 + (Numeral.digit? c).getD 0) 0

/-- After the letter of an exponent. -/
def exponentPart (positive : Bool) (significand : Nat) (places : Int) (cs : List Char) :
    Except Fault (Number × List Char) := do
  let (sign, cs) : Int × List Char := match cs with
    | '+' :: rest => (1, rest)
    | '-' :: rest => (-1, rest)
    | rest => (1, rest)
  match cs with
  | [] => throw .endInValue
  | c :: _ => if !isDigit c then throw .number
  let exponent := digitsValue (cs.takeWhile isDigit)
  return (← toFloat positive significand (places + sign * exponent), cs.dropWhile isDigit)

/-- After the digits of a floating point number, where an exponent may follow. -/
def maybeExponent (positive : Bool) (significand : Nat) (places : Int) (cs : List Char) :
    Except Fault (Number × List Char) :=
  match cs with
  | 'e' :: rest | 'E' :: rest => exponentPart positive significand places rest
  | cs => return (← toFloat positive significand places, cs)

/-- After the point. -/
def fractionPart (positive : Bool) (significand : Nat) (places : Int) (cs : List Char) :
    Except Fault (Number × List Char) :=
  let (n, count, rest) := gather significand 0 cs
  match rest with
  | [] => if count = 0 then .error .endInValue else maybeExponent positive n (places - count) []
  | c :: _ =>
    if isDigit c then maybeExponent positive n (places - count) (rest.dropWhile isDigit)
    else if count = 0 then .error .number
    else maybeExponent positive n (places - count) rest

/-- Where the digits before the point have grown past a word. -/
def longPart (positive : Bool) (significand : Nat) (cs : List Char) :
    Except Fault (Number × List Char) :=
  let places : Int := (cs.takeWhile isDigit).length
  match cs.dropWhile isDigit with
  | '.' :: rest => fractionPart positive significand places rest
  | rest => maybeExponent positive significand places rest

/-- The largest distance below zero that a signed word can hold. -/
def maxBelow : Nat := 0x8000000000000000

def wholePart (positive : Bool) (n : Nat) : Number :=
  if positive then .natural n
  else if n = 0 ∨ maxBelow < n then
    match Binary64.ofDecimal? false n 0 with
    | some x => .float x
    | none => .negative n
  else .negative n

/-- Reads a number whose sign has been taken. -/
def readChars (positive : Bool) (cs : List Char) : Except Fault (Number × List Char) :=
  match cs with
  | [] => .error .endInValue
  | c :: tail =>
    if !isDigit c then .error .number
    else if c == '0' && tail.head?.any isDigit then .error .number
    else
      let (n, _, rest) := gather 0 0 cs
      match rest with
      | '.' :: rest => fractionPart positive n 0 rest
      | 'e' :: rest | 'E' :: rest => exponentPart positive n 0 rest
      | rest =>
        if rest.head?.any isDigit then longPart positive n rest
        else .ok (wholePart positive n, rest)

end Number

def Scan.number (positive : Bool) : Scan Number := fun cs => Number.readChars positive cs

end LogCourier.Json

/-! # Binary floating point as decimal text

Numbers with a fraction or an exponent are read as 64-bit floating point, in the same few steps
whatever the number: digits are gathered while they fit a word, and the result is scaled once by a
power of ten. A number is written with the fewest digits that read back to it, and of those with the
digits nearest to it.
-/

namespace LogCourier

/-- A 64-bit floating point number, by its bits. -/
structure Binary64 where
  bits : UInt64
deriving DecidableEq, Repr

namespace Binary64

/-! ## Reading -/

def ofFloat (x : Float) : Binary64 := ⟨x.toBits⟩

/-- The power of ten nearest to `10 ^ n`, for `n` up to 308. -/
private def powerOfTen (n : Nat) : Float := Float.ofScientific 1 false n

/-- `x · 10 ^ exponent` as far as it is finite. -/
private def scale (x : Float) (exponent : Int) : Option Float :=
  if exponent < -308 then
    if x == 0 then some x else scale (x / powerOfTen 308) (exponent + 308)
  else if exponent < 0 then some (x / powerOfTen exponent.natAbs)
  else if exponent ≤ 308 then
    let y := x * powerOfTen exponent.natAbs
    if y.isInf then none else some y
  else if x == 0 then some x
  else none
termination_by exponent.natAbs
decreasing_by omega

/-- The number `significand · 10 ^ exponent`, or nothing if it is too large. The significand fits a
word. -/
def ofDecimal? (positive : Bool) (significand : Nat) (exponent : Int) : Option Binary64 :=
  (scale significand.toUInt64.toFloat exponent).map fun x => ofFloat (if positive then x else -x)

/-! ## Writing -/

/-- A positive finite number is `mantissa · 2 ^ exponent`. -/
structure Parts where
  mantissa : Nat
  exponent : Int
  /-- Whether the neighbour below is only half as far as the one above. -/
  atStep : Bool
deriving DecidableEq, Repr

def parts (x : Binary64) : Parts :=
  let fraction := (x.bits &&& 0xFFFFFFFFFFFFF).toNat
  let field := ((x.bits >>> 52) &&& 0x7FF).toNat
  if field = 0 then { mantissa := fraction, exponent := -1074, atStep := false }
  else
    { mantissa := 0x10000000000000 + fraction, exponent := Int.ofNat field - 1075,
      atStep := fraction == 0 && field != 1 }

def isNegative (x : Binary64) : Bool := (x.bits >>> 63) == 1

/-- A positive rational number. -/
structure Ratio where
  num : Nat
  den : Nat
deriving DecidableEq, Repr

/-- `n · 2 ^ e · 10 ^ d` -/
def Ratio.scaled (n : Nat) (e d : Int) : Ratio :=
  { num := n * Nat.pow 2 e.toNat * Nat.pow 10 d.toNat
    den := Nat.pow 2 (-e).toNat * Nat.pow 10 (-d).toNat }

namespace Parts

/-- Whether `digits · 10 ^ place` lies among the reals that round to the number. -/
def holds (p : Parts) (digits : Nat) (place : Int) : Bool :=
  let v := Ratio.scaled 1 (2 - p.exponent) place
  let lower := (4 * p.mantissa - if p.atStep then 1 else 2) * v.den
  let upper := (4 * p.mantissa + 2) * v.den
  let d := digits * v.num
  if p.mantissa % 2 = 0 then decide (lower ≤ d ∧ d ≤ upper) else decide (lower < d ∧ d < upper)

/-- The place of the first digit: the number is at least `10 ^ place` and below ten times that. -/
def firstPlace (p : Parts) : Int :=
  let v := Ratio.scaled p.mantissa p.exponent 0
  let guess : Int := (Nat.toDigits 10 v.num).length - (Nat.toDigits 10 v.den).length
  let w := Ratio.scaled p.mantissa p.exponent (-guess)
  if w.num < w.den then guess - 1 else guess

/-- The two neighbours of the number on the grid of `10 ^ place`, the nearer one first; a tie goes
to the even one. -/
def neighbours (p : Parts) (place : Int) : List Nat :=
  let v := Ratio.scaled p.mantissa p.exponent (-place)
  let low := v.num / v.den
  let twice := 2 * (v.num % v.den)
  if twice < v.den ∨ (twice = v.den ∧ low % 2 = 0) then [low, low + 1] else [low + 1, low]

/-- The shortest digits that read back to the number, and the place of the last one. -/
def shortest (p : Parts) : Nat × Int :=
  let first := p.firstPlace
  let found := (List.range 18).findSome? fun i =>
    let place := first - Int.ofNat i
    (p.neighbours place).find? (p.holds · place) |>.map (·, place)
  found.getD (0, 0)

end Parts

/-- How a number is written: positionally while its first digit stands at one of these places. -/
structure Notation where
  lowestPlace : Int
  highestPlace : Int
deriving DecidableEq, Repr

/-- Small and large numbers get an exponent with its sign; all others are positional and keep a
digit after the point. -/
def plain : Notation := { lowestPlace := -5, highestPlace := 15 }

private def zeros (n : Nat) : String := String.ofList (List.replicate n '0')

private def withPoint (digits : List Char) (n : Nat) : String :=
  String.ofList (digits.take n) ++ "." ++ String.ofList (digits.drop n)

private def withExponent (place : Int) : String :=
  "e" ++ (if place < 0 then "-" else "+") ++ toString place.natAbs

/-- Drops the zeros at the end of a number, as its digits. -/
private def significant (n : Nat) : List Char :=
  ((Nat.toDigits 10 n).reverse.dropWhile (· == '0')).reverse

private def writeDigits (style : Notation) (digits : List Char) (place : Int) : String :=
  if style.lowestPlace ≤ place ∧ place ≤ style.highestPlace then
    if place < 0 then "0." ++ zeros (place.natAbs - 1) ++ String.ofList digits
    else if digits.length ≤ place.toNat + 1 then
      String.ofList digits ++ zeros (place.toNat + 1 - digits.length) ++ ".0"
    else withPoint digits (place.toNat + 1)
  else if digits.length = 1 then String.ofList digits ++ withExponent place
  else withPoint digits 1 ++ withExponent place

def toText (x : Binary64) : String :=
  let p := x.parts
  let sign := if x.isNegative then "-" else ""
  if p.mantissa = 0 then sign ++ "0.0"
  else
    let (digits, place) := p.shortest
    let written := Nat.toDigits 10 digits
    sign ++ writeDigits plain (significant digits) (place + Int.ofNat written.length - 1)

end Binary64

end LogCourier

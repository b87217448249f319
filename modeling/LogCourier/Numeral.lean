import LogCourier.ValueError

/-! # Numerals

Unsigned decimal numerals with a largest value. A plus sign may stand in front. Reading goes from
left to right and the first fault is the one reported, so a numeral that grows too large is too
large whatever follows. Beside them stand plain digits of any base up to sixteen.
-/

namespace LogCourier.Numeral

/-- The largest values of the widths in use. -/
def max16 : Nat := 0xFFFF
def max32 : Nat := 0xFFFFFFFF
def max64 : Nat := 0xFFFFFFFFFFFFFFFF

def digit? (c : Char) : Option Nat :=
  if '0' ≤ c ∧ c ≤ '9' then some (c.toNat - '0'.toNat) else none

def readDigits (largest : Nat) (value : Nat) : List Char → Except ValueError Nat
  | [] => .ok value
  | c :: cs =>
    match digit? c with
    | none => .error .badDigit
    | some d =>
      if largest < value * 10 + d then .error .numberTooLarge
      else readDigits largest (value * 10 + d) cs

def readChars (largest : Nat) : List Char → Except ValueError Nat
  | [] => .error .emptyNumber
  | ['+'] => .error .badDigit
  | '+' :: cs => readDigits largest 0 cs
  | cs => readDigits largest 0 cs

def read (largest : Nat) (s : String) : Except ValueError Nat := readChars largest s.toList

/-! ## Plain digits -/

/-- What a character is worth as a digit of a base; letters stand for ten and more, in any case. -/
def digitIn? (base : Nat) (c : Char) : Option Nat :=
  let value := if '0' ≤ c ∧ c ≤ '9' then c.toNat - '0'.toNat
    else if 'a' ≤ c ∧ c ≤ 'f' then c.toNat - 'a'.toNat + 10
    else if 'A' ≤ c ∧ c ≤ 'F' then c.toNat - 'A'.toNat + 10
    else base
  if value < base then some value else none

theorem digitIn?_lt {base d : Nat} {c : Char} (h : digitIn? base c = some d) : d < base := by
  unfold digitIn? at h
  grind

/-- The number that is written by one or more digits of a base, and nothing else. -/
def natIn? (base : Nat) (cs : List Char) : Option Nat :=
  if cs.isEmpty then none
  else cs.foldlM (fun n c => (digitIn? base c).map (n * base + ·)) 0

end LogCourier.Numeral

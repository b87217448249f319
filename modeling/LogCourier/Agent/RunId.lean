/-! # Names of runs

Every run of an agent has a random name: 32 hexadecimal digits in five groups, of which one says
that the name is random (4) and one holds the two bits `10`.
-/

namespace LogCourier

/-- A name, by its digits' values. -/
structure RunId where
  digits : List Nat
deriving DecidableEq, Repr

namespace RunId

def length : Nat := 32

private def digitAt (random : Nat) (i : Nat) : Nat :=
  let d := random >>> (4 * (length - 1 - i)) % 16
  if i = 12 then 4 else if i = 16 then 8 + d % 4 else d

/-- The name made from 128 random bits. -/
def ofRandom (random : Nat) : RunId := ⟨(List.range length).map (digitAt random)⟩

def hexDigit (n : Nat) : Char := "0123456789abcdef".toList.getD n '0'

def text (r : RunId) : String :=
  let cs := r.digits.map hexDigit
  let group (start count : Nat) : String := String.ofList ((cs.drop start).take count)
  "-".intercalate [group 0 8, group 8 4, group 12 4, group 16 4, group 20 12]

/-- Whether a name has the form of a random one. -/
def isRandom (r : RunId) : Bool :=
  r.digits.length == length && r.digits.getD 12 0 == 4 && r.digits.getD 16 0 / 4 == 2

end RunId

end LogCourier

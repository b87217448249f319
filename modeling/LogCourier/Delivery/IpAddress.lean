import LogCourier.Numeral
import LogCourier.Text.Pieces

/-! # Addresses by number

Hosts may be given by number: in four bytes, whose text may leave some of them together, or in eight
groups of sixteen bits.
-/

namespace LogCourier

inductive IpAddress
  | v4 (value : Nat)
  /-- Eight groups, and the interface that they belong to; zero if none is named. -/
  | v6 (groups : List Nat) (interface : Nat := 0)
deriving DecidableEq, Repr

namespace IpAddress

/-- The address by which a machine reaches itself. -/
def itself : IpAddress := .v4 0x7F000001

/-! ## Four bytes -/

/-- A number in base ten, in base eight behind a zero, or in base sixteen behind `0x`. -/
private def looseNumber? : List Char → Option Nat
  | '0' :: 'x' :: cs | '0' :: 'X' :: cs => Numeral.natIn? 16 cs
  | '0' :: cs => Numeral.natIn? 8 ('0' :: cs)
  | cs => Numeral.natIn? 10 cs

/-- One to four numbers with points between them. All but the last are single bytes, and the last
one stands for all the bytes that are left. -/
def looseV4? (cs : List Char) : Option IpAddress := do
  let numbers ← (Text.pieces '.' cs).mapM looseNumber?
  let last ← numbers.getLast?
  let bytes := numbers.dropLast
  let room := 8 * (4 - bytes.length)
  if 3 < bytes.length ∨ bytes.any (0xFF < ·) ∨ last >>> room ≠ 0 then none
  else some (.v4 ((bytes.foldl (fun n b => n * 0x100 + b) 0) <<< room + last))

/-- A byte in base ten, without zeros in front. -/
private def byte? (cs : List Char) : Option Nat := do
  let n ← Numeral.natIn? 10 cs
  if 0xFF < n ∨ 3 < cs.length ∨ (1 < cs.length ∧ cs.head? = some '0') then none else some n

/-! ## Eight groups -/

private def group? (cs : List Char) : Option Nat :=
  if 4 < cs.length then none else Numeral.natIn? 16 cs

/-- Groups with colons between them. -/
private def groups? (cs : List Char) : Option (List Nat) :=
  if cs = [] then some [] else (Text.pieces ':' cs).mapM group?

/-- Groups with colons between them; the last two may be given as four bytes. -/
private def endGroups? (cs : List Char) : Option (List Nat) := do
  let pieces := Text.pieces ':' cs
  match (Text.pieces '.' (pieces.getLast?.getD [])).mapM byte? with
  | some [a, b, c, d] =>
    return (← pieces.dropLast.mapM group?) ++ [a * 0x100 + b, c * 0x100 + d]
  | _ => groups? cs

/-- What stands before the first two colons side by side, and what stands after them. -/
private def cutGap? : List Char → Option (List Char × List Char)
  | ':' :: ':' :: rest => some ([], rest)
  | c :: cs => (cutGap? cs).map fun (before, rest) => (c :: before, rest)
  | [] => none

/-- Eight groups, or fewer with a gap between them that stands for zeros. -/
private def allGroups? (cs : List Char) : Option (List Nat) := do
  match cutGap? cs with
  | none =>
    let groups ← endGroups? cs
    if groups.length = 8 then some groups else none
  | some (before, rest) =>
    let before ← groups? before
    let rest ← endGroups? rest
    if 7 < before.length + rest.length then none
    else some (before ++ List.replicate (8 - before.length - rest.length) 0 ++ rest)

/-- Whether the address belongs to a single machine and is valid on one interface only. -/
def isLinkLocal : IpAddress → Bool
  | .v6 (g :: _) _ => g &&& 0xFFC0 == 0xFE80
  | _ => false

/-- Whether the address belongs to a group of machines on one interface. -/
def isLinkGroup : IpAddress → Bool
  | .v6 (g :: _) _ => g &&& 0xFF0F == 0xFF02
  | _ => false

/-- Eight groups. An interface may stand behind a percent sign, given by its number or, where the
address is valid on one interface only, by its name. -/
def v6? (cs : List Char) (interfaces : List (String × Nat) := []) : Option IpAddress := do
  match Text.cutChars? '%' cs with
  | none => return .v6 (← allGroups? cs)
  | some (groups, interface) =>
    let ip := IpAddress.v6 (← allGroups? groups)
    let named := if ip.isLinkLocal ∨ ip.isLinkGroup then interfaces.lookup (String.ofList interface)
      else none
    let numbered := (Numeral.natIn? 10 interface).filter (· ≤ Numeral.max32)
    return .v6 (← allGroups? groups) (← numbered.or named)

/-! ## Use -/

/-- Four bytes in the form of eight groups are the same address as those bytes. -/
def plain : IpAddress → IpAddress
  | .v6 [0, 0, 0, 0, 0, 0xFFFF, a, b] _ => .v4 (a * 0x10000 + b)
  | ip => ip

/-- Whether the address stands for a group of machines. -/
def isMulticast : IpAddress → Bool
  | .v6 (g :: _) _ => g &&& 0xFF00 == 0xFF00
  | _ => false

private def bytesText (n : Nat) : String :=
  ".".intercalate ([24, 16, 8, 0].map fun k => toString (n >>> k % 0x100))

private def groupText (n : Nat) : String := String.ofList (Nat.toDigits 16 n)

private def groupsText (groups : List Nat) : String := ":".intercalate (groups.map groupText)

/-- How many zeros stand in front. -/
private def zeros (groups : List Nat) : Nat := (groups.takeWhile (· == 0)).length

/-- The first of the longest runs of zeros is left out, if there are two of them or more. -/
private def compressed (groups : List Nat) : String :=
  let run (i : Nat) : Nat := zeros (groups.drop i)
  let first := (List.range groups.length).foldl
    (fun best i => if run best < run i then i else best) 0
  if run first < 2 then groupsText groups
  else groupsText (groups.take first) ++ "::" ++ groupsText (groups.drop (first + run first))

/-- The text of an address with a number behind it. -/
def textWith (number : Nat) (ip : IpAddress) : String :=
  match ip with
  | .v4 n => bytesText n ++ ":" ++ toString number
  | .v6 groups interface =>
    let text := match (IpAddress.v6 groups).plain with
      | .v4 n => "::ffff:" ++ bytesText n
      | .v6 groups _ => compressed groups
    let interface := if interface = 0 then "" else "%" ++ toString interface
    "[" ++ text ++ interface ++ "]:" ++ toString number

end IpAddress

end LogCourier

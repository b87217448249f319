/-! # Wire timestamps

Fifteen characters: month, day padded with a blank, time of day. The year is not shown, so a day is
located in the 400-year cycle of the calendar, counted from the first of March, which puts the leap
day at the end of its year.
-/

namespace LogCourier

/-- A moment in time. A leap second has 10⁹ nanoseconds or more. -/
structure Moment where
  /-- Seconds since the start of 1970. -/
  seconds : Int
  nanos : Nat := 0
deriving DecidableEq, Repr

inductive TimestampError
  | moment
  | offset
deriving DecidableEq, Repr

namespace Timestamp

def monthNames : List String :=
  ["Jan", "Feb", "Mar", "Apr", "May", "Jun", "Jul", "Aug", "Sep", "Oct", "Nov", "Dec"]

/-- The day within the year that began on the last first of March. -/
def dayOfYear (daysSince1970 : Int) : Nat :=
  let dayOfCycle := ((daysSince1970 + 719468) % 146097).toNat
  let year := (dayOfCycle - dayOfCycle / 1460 + dayOfCycle / 36524 - dayOfCycle / 146096) / 365
  dayOfCycle - (365 * year + year / 4 - year / 100)

/-- Month, counted from zero for January, and day of the month. -/
def monthDay (daysSince1970 : Int) : Nat × Nat :=
  let day := dayOfYear daysSince1970
  let month := (5 * day + 2) / 153
  ((month + 2) % 12, day - (153 * month + 2) / 5 + 1)

/-- A number below 100 in two places. -/
def twoPlaces (pad : String) (n : Nat) : String :=
  (if n < 10 then pad else "") ++ toString n

/-- A leap second has at least this many nanoseconds. -/
def nanosPerSecond : Nat := 1000000000

def isMoment (m : Moment) : Bool :=
  -8334601228800 ≤ m.seconds && m.seconds ≤ 8210266876799 &&
    (m.nanos < nanosPerSecond || (m.nanos < 2 * nanosPerSecond && m.seconds % 60 == 59))

/-- Renders a moment at an offset from universal time, in seconds towards the east. -/
def render (m : Moment) (offset : Int := 0) : String :=
  let atPlace := m.seconds + offset
  let (month, day) := monthDay (atPlace / 86400)
  let secondOfDay := (atPlace % 86400).toNat
  let second := secondOfDay % 60 + if nanosPerSecond ≤ m.nanos then 1 else 0
  monthNames.getD month "" ++ " " ++ twoPlaces " " day ++ " " ++
    twoPlaces "0" (secondOfDay / 3600) ++ ":" ++ twoPlaces "0" (secondOfDay / 60 % 60) ++ ":" ++
    twoPlaces "0" second

/-- Renders a moment if it and the offset are within the calendar's range. -/
def render? (m : Moment) (offset : Int := 0) : Except TimestampError String :=
  if !isMoment m then .error .moment
  else if 86400 ≤ offset.natAbs then .error .offset
  else .ok (render m offset)

end Timestamp

end LogCourier

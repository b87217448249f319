/-! # Unreadable values

Why a value given as text cannot be read, apart from where it was given.
-/

namespace LogCourier

inductive ValueError
  | emptyNumber
  | badDigit
  | numberTooLarge
  | facility (text : String)
  | severity (text : String)
  | protocol (text : String)
deriving DecidableEq, Repr

def ValueError.message : ValueError → String
  | .emptyNumber => "cannot parse integer from empty string"
  | .badDigit => "invalid digit found in string"
  | .numberTooLarge => "number too large to fit in target type"
  | .facility t =>
    "invalid facility '" ++ t ++ "', must be one of 'user' or between 'local0-local7'"
  | .severity t => "invalid severity '" ++ t ++ "'"
  | .protocol t => "invalid protocol '" ++ t ++ "', must be either udp or tcp"

end LogCourier

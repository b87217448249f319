/-! # Errors of the operating system -/

namespace LogCourier

inductive SystemError
  | notFound
  | permissionDenied
  | busy
  | exists
  | notDirectory
  | isDirectory
  | invalidArgument
  | nameTooLong
  | notEmpty
  | addressNotAvailable
  | networkUnreachable
  | connectionRefused
  | messageTooLong
  /-- A path that holds the character NUL never reaches the system. -/
  | nulInPath
  /-- Any other error, as the system words it. -/
  | other (text : String)
deriving DecidableEq, Repr

namespace SystemError

private def numbered (text : String) (n : Nat) : String :=
  text ++ " (os error " ++ toString n ++ ")"

def message : SystemError → String
  | .notFound => numbered "No such file or directory" 2
  | .permissionDenied => numbered "Permission denied" 13
  | .busy => numbered "Device or resource busy" 16
  | .exists => numbered "File exists" 17
  | .notDirectory => numbered "Not a directory" 20
  | .isDirectory => numbered "Is a directory" 21
  | .invalidArgument => numbered "Invalid argument" 22
  | .nameTooLong => numbered "File name too long" 36
  | .notEmpty => numbered "Directory not empty" 39
  | .messageTooLong => numbered "Message too long" 90
  | .addressNotAvailable => numbered "Cannot assign requested address" 99
  | .networkUnreachable => numbered "Network is unreachable" 101
  | .connectionRefused => numbered "Connection refused" 111
  | .nulInPath => "file name contained an unexpected NUL byte"
  | .other text => text

/-- The error that the system gives a number. -/
def ofNumber? : Nat → Option SystemError
  | 2 => some .notFound
  | 13 => some .permissionDenied
  | 16 => some .busy
  | 17 => some .exists
  | 20 => some .notDirectory
  | 21 => some .isDirectory
  | 22 => some .invalidArgument
  | 36 => some .nameTooLong
  | 39 => some .notEmpty
  | 90 => some .messageTooLong
  | 99 => some .addressNotAvailable
  | 101 => some .networkUnreachable
  | 111 => some .connectionRefused
  | _ => none

end SystemError

end LogCourier

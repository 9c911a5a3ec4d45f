import TenantReports.Number.Natural

/-!
# Errors of the operating system

The errors that files and sockets meet here, with the number and the wording that the system has for
each.
-/

namespace TenantReports

/-- Why the operating system did not do what it was asked. -/
inductive SystemError
  | missing
  | denied
  | notDirectory
  | isDirectory
  | nameTooLong
  | addressInUse
  | addressNotAvailable
  | networkUnreachable
  | connectionRefused
  deriving DecidableEq, Repr, Inhabited

namespace SystemError

/-- The system's number for an error. -/
def number : SystemError → Nat
  | .missing => 2
  | .denied => 13
  | .notDirectory => 20
  | .isDirectory => 21
  | .nameTooLong => 36
  | .addressInUse => 98
  | .addressNotAvailable => 99
  | .networkUnreachable => 101
  | .connectionRefused => 111

/-- The system's wording for an error. -/
def wording : SystemError → String
  | .missing => "No such file or directory"
  | .denied => "Permission denied"
  | .notDirectory => "Not a directory"
  | .isDirectory => "Is a directory"
  | .nameTooLong => "File name too long"
  | .addressInUse => "Address already in use"
  | .addressNotAvailable => "Cannot assign requested address"
  | .networkUnreachable => "Network is unreachable"
  | .connectionRefused => "Connection refused"

/-- The message of an error. -/
def message (error : SystemError) : String :=
  error.wording ++ " (os error " ++ Number.decimal error.number ++ ")"

/-- All errors. -/
def list : List SystemError :=
  [.missing, .denied, .notDirectory, .isDirectory, .nameTooLong, .addressInUse,
    .addressNotAvailable, .networkUnreachable, .connectionRefused]

/-- The error with a number. -/
def ofNumber? (number : Nat) : Option SystemError :=
  list.find? fun error => error.number == number

end SystemError

end TenantReports

/-!
# Failures of the gateway's operations

A `Failure` is a kind, which decides its code and the status of the HTTP response, and a message. An
operation that calls another one puts its own context in front of the message.
-/

namespace TenantReports

/-- Why an operation failed. -/
inductive FailureKind
  | invalidQuery
  | unknownColumn
  | invalidValue
  | introspection
  | noDatabase
  | connection
  | whitelist
  | fetch
  | malformedScript
  | dialectMismatch
  | registration
  | execution
  | unsupported
  deriving DecidableEq, Repr, Inhabited

namespace FailureKind

/-- The code of a kind, for logs and counters. -/
def code : FailureKind → String
  | .invalidQuery => "ERR_INVALID_QUERY"
  | .unknownColumn => "ERR_UNKNOWN_COLUMN"
  | .invalidValue => "ERR_INVALID_VALUE"
  | .introspection => "ERR_INTROSPECTION"
  | .noDatabase => "ERR_NO_DB_CONFIG"
  | .connection => "ERR_DB_CONNECTION"
  | .whitelist => "ERR_WHITELIST_REJECTED"
  | .fetch => "ERR_REPORT_FETCH"
  | .malformedScript => "ERR_MALFORMED_SCRIPT"
  | .dialectMismatch => "ERR_DIALECT_MISMATCH"
  | .registration => "ERR_REPORT_REGISTRATION"
  | .execution => "ERR_EXECUTION"
  | .unsupported => "ERR_UNSUPPORTED_ON_DIALECT"

/-- The status of a response that reports the failure. -/
def status : FailureKind → Nat
  | .unsupported => 501
  | _ => 500

end FailureKind

/-- A failed operation. -/
structure Failure where
  kind : FailureKind
  message : String
  deriving DecidableEq, Repr, Inhabited

namespace Failure

/-- The failure's code. -/
def code (failure : Failure) : String :=
  failure.kind.code

/-- The failure's status. -/
def status (failure : Failure) : Nat :=
  failure.kind.status

/-- The failure with a context before its message. -/
def within (failure : Failure) (context : String) : Failure :=
  { failure with message := context ++ ": " ++ failure.message }

end Failure

end TenantReports

import TenantReports.Net.Address
import TenantReports.SystemError

/-!
# Why the gateway does not start

The causes that stop the gateway before it serves a request, with a code and a message for each.
-/

namespace TenantReports

/-- What is wrong with a line of a configuration file. -/
inductive LineFault
  /-- It has no equals sign. -/
  | noAssignment
  /-- Nothing stands before the equals sign. -/
  | emptyKey
  deriving DecidableEq, Repr

/-- Why the gateway does not start. -/
inductive StartupError
  /-- The configuration file at a path cannot be read. -/
  | unreadable (path : String)
  /-- A line of the configuration file, counted from one. -/
  | line (number : Nat) (fault : LineFault)
  /-- The value of a key is not the address of a socket. -/
  | notAddress (key : String)
  /-- The value of a key is not an integer in range. -/
  | notInteger (key : String)
  /-- The value of a key is zero. -/
  | zero (key : String)
  /-- An entry of the list of patterns is no pattern. -/
  | notPattern (key : String) (entry : String)
  /-- The address cannot be listened on. -/
  | bind (address : Net.Socket) (reason : SystemError)
  deriving DecidableEq

namespace StartupError

/-- The code of an error. -/
def code : StartupError → String
  | .unreadable _ => "ERR_CONFIG_FILE_READ"
  | .line _ _ => "ERR_CONFIG_FILE_PARSE"
  | .notAddress _ | .notInteger _ | .zero _ | .notPattern _ _ => "ERR_INVALID_CONFIG"
  | .bind _ _ => "ERR_BIND_FAILED"

/-- The wording of a faulty line. -/
def faultText : LineFault → String
  | .noAssignment => "expected KEY=VALUE"
  | .emptyKey => "empty key"

/-- The wording of an error. For an entry that is no pattern, a colon and the reason that the reader
of patterns gives would follow; they are left out. -/
def message : StartupError → String
  | .unreadable path => "failed to read config file at " ++ path
  | .line number fault =>
    "invalid config line " ++ Number.decimal number ++ " (" ++ faultText fault ++ ")"
  | .notAddress key => key ++ " must be a valid host:port socket address"
  | .notInteger key => key ++ " must be an integer"
  | .zero key => key ++ " must be >= 1"
  | .notPattern key entry => key ++ " entry " ++ entry ++ " is not a valid regex"
  | .bind address reason => "failed to bind " ++ address.text ++ ": " ++ reason.message

/-- The code and the wording of an error. -/
def display (error : StartupError) : String :=
  error.code ++ ": " ++ error.message

end StartupError

end TenantReports

import TenantReports.Database.Rows
import TenantReports.Failure
import TenantReports.Task

/-!
# Databases as those who answer

An operation that needs a database is a `Task` that asks it: to run a statement, or to begin a
transaction, which from then on takes statements of its own until it is rolled back.
-/

namespace TenantReports

/-- Why the connection to a database failed. -/
inductive ConnectionError
  /-- The address of the database cannot be understood. -/
  | address (reason : String)
  /-- The transport failed. -/
  | transport (reason : String)
  /-- The server refused a login or a statement. -/
  | server (message : String)
  /-- No connection of the pool became free in time. -/
  | exhausted
  /-- The pool was closed. -/
  | closed
  deriving DecidableEq, Repr, Inhabited

/-- The wording of a failed connection. -/
def ConnectionError.message : ConnectionError → String
  | .address reason => "error with configuration: " ++ reason
  | .transport reason => "error communicating with database: " ++ reason
  | .server message => "error returned from database: " ++ message
  | .exhausted => "pool timed out while waiting for an open connection"
  | .closed => "attempted to acquire a connection on a closed pool"

/-- Why a database did not do what it was asked. -/
inductive DbError
  /-- It took longer than the given number of milliseconds. -/
  | timeout (limit : Nat)
  | connection (cause : ConnectionError)
  /-- A value it sent cannot be read. -/
  | decode (reason : String)
  /-- It gave a message of its own. -/
  | backend (message : String)
  deriving DecidableEq, Repr, Inhabited

namespace DbError

/-- The wording of an error. -/
def message : DbError → String
  | .timeout limit =>
    "database operation timed out after " ++ Number.decimal limit ++ "ms"
  | .connection cause => cause.message
  | .decode reason => "could not decode result value: " ++ reason
  | .backend message => message

/-- The failure of an operation that met the error. -/
def toFailure (error : DbError) (kind : FailureKind) (context : String) : Failure :=
  ⟨kind, context ++ ": " ++ error.message⟩

end DbError

/-- What a database is asked. -/
inductive DbAsk
  /-- To run one statement with its parameters, all of them text. -/
  | query (sql : String) (params : List String)
  /-- To begin a transaction. -/
  | begin
  /-- To limit the time of each statement of the transaction, in milliseconds. -/
  | setTimeout (limit : Nat)
  /-- To run a script in the transaction. -/
  | script (sql : String)
  /-- To run one statement in the transaction. -/
  | txQuery (sql : String) (params : List String)
  /-- To undo what the transaction did and end it. -/
  | rollback
  deriving DecidableEq, Repr, Inhabited

/-- What a database answers. -/
abbrev DbAsk.Answer : DbAsk → Type
  | .query _ _ | .txQuery _ _ => Except DbError RawRows
  | .begin | .setTimeout _ | .script _ | .rollback => Except DbError Unit

/-- A computation that asks one database. -/
abbrev DbTask :=
  Task DbAsk DbAsk.Answer

namespace DbTask

/-- Runs one statement. -/
def query (sql : String) (params : List String) : DbTask (Except DbError RawRows) :=
  .ask (.query sql params) .done

end DbTask

end TenantReports

import TenantReports.Postgres.Decode
import TenantReports.Postgres.Placeholder

/-!
# What a server is sent

Every operation on a database becomes statements that are sent to its server. A statement with
parameters is prepared first, to learn the types that the server expects, and then executed with
casts to them. A transaction is open until it is rolled back for the first time, with whatever
outcome; from then on its operations fail, or do nothing, and the server hears nothing of them.
-/

namespace TenantReports.Postgres

/-- What is sent to a server. -/
inductive ServerAsk
  /-- Statements without parameters whose results do not matter. -/
  | simple (sql : String)
  /-- A statement that is to be prepared. -/
  | prepare (sql : String)
  /-- A statement with the texts of its parameters. -/
  | execute (sql : String) (params : List String)
  deriving DecidableEq, Repr, Inhabited

/-- Why there is no answer. -/
inductive ServerError
  /-- None came in time. -/
  | stalled
  | failed (cause : ConnectionError)
  deriving DecidableEq, Repr, Inhabited

/-- What a server answers; to a statement that was prepared, the names of its parameters' types. -/
abbrev ServerAsk.Answer : ServerAsk → Type
  | .simple _ => Except ServerError Unit
  | .prepare _ => Except ServerError (List String)
  | .execute _ _ => Except ServerError Table

/-- A computation that asks one server. -/
abbrev ServerTask :=
  Task ServerAsk ServerAsk.Answer

/-- The error of an operation that may take `limit` milliseconds. -/
def ServerError.toDbError (limit : Nat) : ServerError → DbError
  | .stalled => .timeout limit
  | .failed cause => .connection cause

/-- What an operation makes of an answer. -/
def answered {α : Type} (limit : Nat) : Except ServerError α → Except DbError α :=
  Except.mapError (ServerError.toDbError limit)

/-! ### Statements -/

/-- Executes a statement. -/
def execute (limit : Nat) (sql : String) (params : List String) :
    ServerTask (Except DbError RawRows) :=
  .ask (.execute sql params) fun table => .done ((answered limit table).bind decodeRows)

/-- Runs a statement whose parameters are all text. -/
def fetch (limit : Nat) (sql : String) (params : List String) :
    ServerTask (Except DbError RawRows) :=
  if params.isEmpty then execute limit sql []
  else
    .ask (.prepare sql) fun types =>
      match answered limit types with
      | .error error => .done (.error error)
      | .ok inferred => execute limit (castPlaceholders sql inferred) params

/-- Sends statements without parameters. -/
def send (limit : Nat) (sql : String) : ServerTask (Except DbError Unit) :=
  .ask (.simple sql) fun sent => .done (answered limit sent)

/-- Sets the time limit of statements up to the end of the transaction. -/
def timeoutStatement : String := "SELECT set_config('statement_timeout', $1, true)"

/-- A time limit as the server reads it. -/
def timeoutText (millis : Nat) : String :=
  Number.decimal millis ++ "ms"

/-- Sets the time limit of statements in milliseconds. -/
def setTimeout (limit millis : Nat) : ServerTask (Except DbError Unit) :=
  .ask (.execute timeoutStatement [timeoutText millis]) fun table =>
    .done ((answered limit table).map fun _ => ())

/-! ### Transactions -/

/-- Whether a transaction takes operations. -/
inductive Transaction
  | opened
  | ended
  deriving DecidableEq, Repr, Inhabited

namespace Transaction

/-- The error of an operation after the end. -/
def endedError : DbError :=
  .backend "transaction already rolled back"

/-- Keeps the transaction as it is. -/
def keeping {α : Type} (transaction : Transaction) (task : ServerTask α) :
    ServerTask (α × Transaction) :=
  task.bind fun a => .done (a, transaction)

/-- Begins a transaction. -/
def begin (limit : Nat) : ServerTask (Except DbError Unit × Transaction) :=
  (send limit "BEGIN").bind fun
    | .ok _ => .done (.ok (), .opened)
    | .error error => .done (.error error, .ended)

/-- Answers what a database is asked; each operation may take `limit` milliseconds. A statement that
is not part of the transaction leaves it as it is. -/
def answer (limit : Nat) (transaction : Transaction) :
    (q : DbAsk) → ServerTask (q.Answer × Transaction)
  | .query sql params => transaction.keeping (fetch limit sql params)
  | .begin => begin limit
  | .setTimeout millis =>
    match transaction with
    | .opened => keeping .opened (setTimeout limit millis)
    | .ended => .done (.error endedError, .ended)
  | .script sql =>
    match transaction with
    | .opened => keeping .opened (send limit sql)
    | .ended => .done (.error endedError, .ended)
  | .txQuery sql params =>
    match transaction with
    | .opened => keeping .opened (fetch limit sql params)
    | .ended => .done (.error endedError, .ended)
  | .rollback =>
    match transaction with
    | .opened => keeping .ended (send limit "ROLLBACK")
    | .ended => .done (.ok (), .ended)

/-- What asks a database, as what asks its server. -/
def serve {α : Type} (limit : Nat) : Transaction → DbTask α → ServerTask (α × Transaction)
  | transaction, .done a => .done (a, transaction)
  | transaction, .ask q next =>
    (transaction.answer limit q).bind fun (reply, after) => serve limit after (next reply)

end Transaction

end TenantReports.Postgres

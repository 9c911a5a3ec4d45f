import TenantReports.Columns
import TenantReports.Proofs.Session.Run

/-!
# Runs of the column cache

The cache of columns is a machine of concurrent lookups in which each request asks the database of a
session for the columns of a table, and in which no columns are put in from outside.

* `ColumnRun`: such a run, from an empty cache.

The module ends with a table, a session and answers from which runs can be built.
-/

namespace TenantReports

open Memo Memo.Machine

/-- What happens to the cache: requests start and take steps, and tables are evicted, alone or all
those of a caller. -/
abbrev ColumnEvent :=
  Event ColumnKey Ask Ask.Answer (List ColumnDescriptor) Failure

/-- **An event that the cache allows.** -/
def ColumnEvent.allowed : ColumnEvent → Prop
  | .start key get => ∃ session : Session, session.key = key.session ∧
    get = fetchColumns session key.schema key.table
  | .evictAll kind => ∃ caller : SessionKey, kind = fun key => key.session == caller
  | .insert _ _ => False
  | .advance _ | .answer _ _ | .evict _ => True

/-- **A run of the cache** from its beginning. -/
structure ColumnRun (events : List ColumnEvent) (machine : ColumnMachine) : Prop where
  ran : (ofCells .empty).run? events = some machine
  allowed : ∀ event ∈ events, ColumnEvent.allowed event

/-! ### A table -/

/-- A session of a caller. -/
def someSession : Session := ⟨someone, ⟨0⟩, .metadb⟩

/-- A table of that caller's database. -/
def someTable : ColumnKey := ⟨someone, "folio_users", "users"⟩

/-- A request for the columns of the table starts. -/
def fetchEvent : ColumnEvent :=
  columnsEvent someSession someTable.schema someTable.table

/-- The query for the columns of the table. -/
def fetchQuestion : Ask :=
  .database someSession.database
    (.query Catalog.columnsSql [someTable.schema, someTable.table, Catalog.reservedColumn])

/-- Everything answers but the databases, which refuse queries. -/
def failing : (question : Ask) → Ask.Answer question
  | .database _ (.query ..) => .error (.backend "refused")
  | question => answering question

end TenantReports

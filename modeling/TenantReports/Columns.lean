import TenantReports.Catalog
import TenantReports.Effect
import TenantReports.Memo.Machine

/-!
# The cache of columns

The columns of a table are asked for once for each caller, and never again while they are kept.
-/

namespace TenantReports

/-- A table of a caller's database. -/
structure ColumnKey where
  session : SessionKey
  schema : String
  table : String
  deriving DecidableEq, Repr, Inhabited

/-- Columns by table. -/
abbrev ColumnCache :=
  Memo.Cells ColumnKey (List ColumnDescriptor)

/-- Asks the database of a session for the columns of a table. -/
def fetchColumns (session : Session) (schema table : String) :
    GatewayTask (Except Failure (List ColumnDescriptor)) :=
  (Catalog.columns schema table).on session.database

namespace ColumnCache

/-- The columns of a table, which are asked for if they are not there. -/
def get (session : Session) (schema table : String) (cache : ColumnCache) :
    GatewayTask (Except Failure (List ColumnDescriptor) × ColumnCache) :=
  Memo.lookup (fun key => fetchColumns session key.schema key.table) ⟨session.key, schema, table⟩
    cache

/-- Drops all tables of a caller; how many there were. -/
def evictSession (cache : ColumnCache) (key : SessionKey) : Nat × ColumnCache :=
  cache.evictAll fun entry => entry.session == key

end ColumnCache

/-- Concurrent requests for columns. -/
abbrev ColumnMachine :=
  Memo.Machine ColumnKey Ask Ask.Answer (List ColumnDescriptor) Failure

/-- A request for the columns of a table starts. -/
def columnsEvent (session : Session) (schema table : String) :
    Memo.Event ColumnKey Ask Ask.Answer (List ColumnDescriptor) Failure :=
  .start ⟨session.key, schema, table⟩ (fetchColumns session schema table)

end TenantReports

import TenantReports.Report.Run
import TenantReports.Wire.Catalog

/-!
# The catalog of a reporting database

What a database says about itself: which convention it follows, its tables and their columns, and,
for the consolidated convention only, its log, version, updates and processes.

* `Catalog.listsColumns_iff`: the columns that are read from rows, one from each.
-/

namespace TenantReports

namespace Catalog

/-- The column that holds a table's raw records and is never shown. -/
def reservedColumn : String := "data"

/-- Finds the relation that only databases of the older convention have. -/
def probeSql : String :=
  "SELECT 1 FROM pg_class c JOIN pg_namespace n ON c.relnamespace=n.oid " ++
    "WHERE n.nspname='dbsystem' AND c.relname='main'"

/-- Lists the tables of a convention. -/
def tablesSql : Dialect → String
  | .metadb =>
    "SELECT schema_name::text AS schema_name, table_name::text AS table_name " ++
      "FROM metadb.base_table UNION SELECT 'folio_derived', t.table_name::text " ++
      "FROM metadb.table_update t JOIN pg_class c ON c.relname=t.table_name " ++
      "JOIN pg_namespace n ON n.oid=c.relnamespace AND n.nspname=t.schema_name " ++
      "WHERE t.schema_name='folio_derived'"
  | .ldp =>
    "SELECT table_name::text AS table_name, table_schema::text AS schema_name " ++
      "FROM information_schema.tables WHERE table_schema IN ('local', 'public', 'folio_reporting')"

/-- Lists the columns of a table, without the reserved one. -/
def columnsSql : String :=
  "SELECT column_name::text AS column_name, data_type::text AS data_type, " ++
    "ordinal_position::integer AS ordinal_position, table_schema::text AS table_schema, " ++
    "table_name::text AS table_name FROM information_schema.columns " ++
    "WHERE table_schema::text = $1 AND table_name::text = $2 AND column_name::text <> $3"

/-- Lists the log. -/
def logsSql : String :=
  "SELECT log_time, error_severity::text AS error_severity, message::text AS message " ++
    "FROM metadb.log"

/-- Asks for the version. -/
def versionSql : String := "SELECT mdbversion()::text AS mdbversion"

/-- Lists the updates of tables, the longest first. -/
def updatesSql : String :=
  "SELECT schema_name::text AS schema_name, table_name::text AS table_name, last_update, " ++
    "elapsed_real_time::float8 AS elapsed_real_time FROM metadb.table_update " ++
    "ORDER BY elapsed_real_time DESC"

/-- Lists the processes, the longest first. -/
def processesSql : String :=
  "SELECT p.dbname::text AS dbname, p.username::text AS username, p.state::text AS state, " ++
    "p.realtime::text AS realtime, p.query::text AS query FROM ps() p ORDER BY p.realtime DESC"

/-- The rows of a statement, or a failure with the given context. -/
def ask (sql : String) (params : List String) (context : String) :
    DbTask (Except Failure RawRows) :=
  .ask (.query sql params) fun rows => .done (orFail .introspection context rows)

/-- What is made of the rows of a statement. -/
def askFor {α : Type} (sql : String) (params : List String) (context : String)
    (read : List Row → α) : DbTask (Except Failure α) :=
  (ask sql params context).bind fun rows => .done (rows.map fun result => read result.rows)

/-- The convention of a database: the older one if it has that convention's relation. -/
def detectDialect : DbTask (Except Failure Dialect) :=
  askFor probeSql [] "could not determine database dialect" fun rows =>
    if rows.isEmpty then .metadb else .ldp

/-- The tables of a database. -/
def tables (dialect : Dialect) : DbTask (Except Failure (List TableRef)) :=
  askFor (tablesSql dialect) [] "could not fetch tables from reporting DB" fun rows =>
    rows.map fun row => ⟨row.text "schema_name", row.text "table_name"⟩

/-- The columns that rows describe. -/
def readColumns (rows : List Row) : List ColumnDescriptor :=
  rows.map fun row => ⟨row.text "column_name", row.text "data_type", row.text "table_schema",
    row.text "table_name", row.text "ordinal_position"⟩

/-- **A row describes a column** by its five fields of these names; of a field that it lacks the
text is empty. -/
structure DescribesColumn (row : Row) (column : ColumnDescriptor) : Prop where
  name : column.name = row.text "column_name"
  dataType : column.dataType = row.text "data_type"
  schema : column.schema = row.text "table_schema"
  table : column.table = row.text "table_name"
  position : column.position = row.text "ordinal_position"

/-- **Rows list columns**: each describes one of them, in their order. -/
structure ListsColumns (rows : List Row) (columns : List ColumnDescriptor) : Prop where
  length : columns.length = rows.length
  describes : ∀ (i : Nat) row column, rows[i]? = some row → columns[i]? = some column →
    DescribesColumn row column

/-- **The columns that rows describe are those that they list**, and no others. -/
theorem listsColumns_iff {rows : List Row} {columns : List ColumnDescriptor} :
    ListsColumns rows columns ↔ columns = readColumns rows := by
  constructor
  · intro lists
    apply List.ext_getElem?
    intro i
    rw [readColumns, List.getElem?_map]
    cases here : rows[i]? with
    | none =>
      have outside : rows.length ≤ i := List.getElem?_eq_none_iff.mp here
      exact List.getElem?_eq_none_iff.mpr (lists.length ▸ outside)
    | some row =>
      obtain ⟨inside, -⟩ := List.getElem?_eq_some_iff.mp here
      have within : i < columns.length := lists.length.symm ▸ inside
      have found : columns[i]? = some columns[i] := List.getElem?_eq_getElem within
      obtain ⟨name, dataType, schema, table, position⟩ := lists.describes i row _ here found
      rw [found, Option.map_some, ← name, ← dataType, ← schema, ← table, ← position]
  · rintro rfl
    refine ⟨List.length_map _, fun i row column here found => ?_⟩
    rw [readColumns, List.getElem?_map, here] at found
    cases found
    exact ⟨rfl, rfl, rfl, rfl, rfl⟩

/-- The columns of a table. -/
def columns (schema table : String) : DbTask (Except Failure (List ColumnDescriptor)) :=
  askFor columnsSql [schema, table, reservedColumn]
    ("could not fetch columns for " ++ schema ++ "." ++ table) readColumns

/-- What only the consolidated convention offers. -/
def metadbOnly {α : Type} (dialect : Dialect) (task : DbTask (Except Failure α)) :
    DbTask (Except Failure α) :=
  match dialect with
  | .metadb => task
  | .ldp => .done (.error ⟨.unsupported, "Implemented only for MetaDB, not LDP"⟩)

/-- The log of a database. -/
def logs (dialect : Dialect) : DbTask (Except Failure (List LogEntry)) :=
  metadbOnly dialect <| askFor logsSql [] "could not fetch logs from reporting DB" fun rows =>
    rows.map fun row => ⟨row.text "log_time", row.text "error_severity", row.text "message"⟩

/-- The version of a database; empty if it gives none. -/
def version (dialect : Dialect) : DbTask (Except Failure DbVersion) :=
  metadbOnly dialect <| askFor versionSql [] "could not fetch version from reporting DB" fun rows =>
    DbVersion.ofRaw ((rows.head?.map fun row => row.text "mdbversion").getD "")

/-- The updates of a database's tables. -/
def updates (dialect : Dialect) : DbTask (Except Failure (List TableUpdate)) :=
  metadbOnly dialect <| askFor updatesSql [] "could not fetch updates from reporting DB" fun rows =>
    rows.map fun row => ⟨row.text "schema_name", row.text "table_name", row.text "last_update",
      ((row.get? "elapsed_real_time").map DbValue.toFloating).getD (Number.Format.double.ofInt 0)⟩

/-- The processes of a database. -/
def processes (dialect : Dialect) : DbTask (Except Failure (List DbProcess)) :=
  metadbOnly dialect <|
    askFor processesSql [] "could not fetch processes from reporting DB" fun rows =>
      rows.map fun row => ⟨row.text "dbname", row.text "username", row.text "state",
        row.text "realtime", row.text "query"⟩

end Catalog

end TenantReports

import TenantReports.Columns
import TenantReports.Query
import TenantReports.Report.Source

/-!
# What a session is asked for

The operations that a caller may have done on the database of its session. A table query and a list
of columns go through the cache of columns; the others leave it alone.

* `Operation.run`: an operation as a task, from the cache before to the cache after.
-/

namespace TenantReports

/-- What the operations need besides a session: the place of report scripts, and the time limit of a
report's statements in milliseconds. -/
structure Reporting where
  source : ReportSource
  queryLimit : Nat
  deriving Inhabited

/-- An operation. -/
inductive Operation
  | tables
  | columns (schema table : String)
  | query (request : TableQuery)
  | report (request : ReportRequest)
  | log
  | version
  | updates
  | processes
  deriving Inhabited

/-- What an operation gives back. -/
inductive Payload
  | tables (list : List TableRef)
  | columns (list : List ColumnDescriptor)
  | rows (list : List OrderedRow)
  | report (response : ReportResponse)
  | log (list : List LogEntry)
  | version (version : DbVersion)
  | updates (list : List TableUpdate)
  | processes (list : List DbProcess)
  deriving Inhabited

/-- A payload as JSON. -/
def Payload.toValue : Payload → Json.Value
  | .tables list => .array (list.map TableRef.toValue)
  | .columns list => .array (list.map ColumnDescriptor.toValue)
  | .rows list => rowsToValue list
  | .report response => response.toValue
  | .log list => .array (list.map LogEntry.toValue)
  | .version number => number.toValue
  | .updates list => .array (list.map TableUpdate.toValue)
  | .processes list => .array (list.map DbProcess.toValue)

/-- The columns of a table of a session, both of which have to be named. -/
def listColumns (session : Session) (schema table : String) (cache : ColumnCache) :
    GatewayTask (Except Failure (List ColumnDescriptor) × ColumnCache) :=
  if schema.isEmpty || table.isEmpty then
    .done (.error ⟨.invalidQuery, "must specify both schema and table"⟩, cache)
  else cache.get session schema table

/-- Runs a compiled query. -/
def runCompiled (session : Session) (compiled : CompiledQuery) :
    GatewayTask (Except Failure (List OrderedRow)) :=
  .ask (.database session.database (.query compiled.sql compiled.params)) fun rows =>
    .done ((orFail .execution "could not execute SQL" rows).map RawRows.ordered)

/-- Runs a query on a table whose columns were asked for. -/
def runOnColumns (session : Session) (request : TableQuery) :
    Except Failure (List ColumnDescriptor) → GatewayTask (Except Failure (List OrderedRow))
  | .error failure => .done (.error failure)
  | .ok columns =>
    match compile request columns with
    | .error failure => .done (.error failure)
    | .ok compiled => runCompiled session compiled

/-- The failure to find the columns of a query's table. -/
def withoutColumns (table : QueryTable) {α : Type} (outcome : Except Failure α) :
    Except Failure α :=
  outcome.mapError fun failure =>
    failure.within ("could not obtain columns for " ++ table.schema ++ "." ++ table.name)

/-- The rows of a table query. -/
def runQuery (session : Session) (request : TableQuery) (cache : ColumnCache) :
    GatewayTask (Except Failure (List OrderedRow) × ColumnCache) :=
  match request.single? with
  | .error failure => .done (.error failure, cache)
  | .ok table =>
    (cache.get session table.schema table.name).bind fun (columns, cache) =>
      (runOnColumns session request (withoutColumns table columns)).bind fun rows =>
        .done (rows, cache)

/-- Runs the script of a report on the database of a session. -/
def runScript (session : Session) (request : ReportRequest) (limit : Nat) (script : String) :
    GatewayTask (Except Failure ReportResponse) :=
  match prepare script session.dialect request.params request.limit with
  | .error failure => .done (.error failure)
  | .ok prepared => ((runReport prepared limit).on session.database).bind fun rows =>
    .done (rows.map fun result => ReportResponse.ofRecords result.ordered)

/-- Fetches a report and runs it. -/
def fetchAndRun (reporting : Reporting) (session : Session) (request : ReportRequest) :
    GatewayTask (Except Failure ReportResponse) :=
  (reporting.source.load request.url).bind fun
    | .error failure => .done (.error failure)
    | .ok script => runScript session request reporting.queryLimit script

/-- The name of an outcome among the counters. -/
def outcomeName {α : Type} : Except Failure α → String
  | .ok _ => "ok"
  | .error failure => failure.code

/-- The answer of a report, whose run is counted by its outcome. -/
def report (reporting : Reporting) (session : Session) (request : ReportRequest) :
    GatewayTask (Except Failure ReportResponse) :=
  (fetchAndRun reporting session request).bind fun outcome =>
    .ask (.observe (.reportRun (outcomeName outcome))) fun _ => .done outcome

/-- What a database tells of itself; the cache stays as it is. -/
def askCatalog {α : Type} (session : Session) (wrap : α → Payload)
    (task : DbTask (Except Failure α)) (cache : ColumnCache) :
    GatewayTask (Except Failure Payload × ColumnCache) :=
  (task.on session.database).bind fun outcome => .done (outcome.map wrap, cache)

/-- Does an operation on a session. -/
def Operation.run (reporting : Reporting) (session : Session) (cache : ColumnCache) :
    Operation → GatewayTask (Except Failure Payload × ColumnCache)
  | .tables => askCatalog session .tables (Catalog.tables session.dialect) cache
  | .columns schema table => (listColumns session schema table cache).bind fun (outcome, cache) =>
    .done (outcome.map .columns, cache)
  | .query request => (runQuery session request cache).bind fun (outcome, cache) =>
    .done (outcome.map .rows, cache)
  | .report request => (TenantReports.report reporting session request).bind fun outcome =>
    .done (outcome.map .report, cache)
  | .log => askCatalog session .log (Catalog.logs session.dialect) cache
  | .version => askCatalog session .version (Catalog.version session.dialect) cache
  | .updates => askCatalog session .updates (Catalog.updates session.dialect) cache
  | .processes => askCatalog session .processes (Catalog.processes session.dialect) cache

end TenantReports

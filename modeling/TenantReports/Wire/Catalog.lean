import TenantReports.Json.Record
import TenantReports.Text.Search

/-!
# What the gateway tells about a database

The records that describe a reporting database: its tables and their columns, and for the
consolidated schema its log, version, updates and processes. Each has a writer, `toValue`, and a
reader, `ofTree?`, with the same names for its fields.
-/

namespace TenantReports

open Json
open Number (Floating Format)

/-- A table by its schema and name. -/
structure TableRef where
  schema : String
  name : String
  deriving DecidableEq, Repr, Inhabited

namespace TableRef

/-- A table as JSON. -/
def toValue (table : TableRef) : Value :=
  record [("tableSchema", .string table.schema), ("tableName", .string table.name)]

/-- Reads a table. -/
def ofTree? (tree : Tree) : Option TableRef := do
  match ← fields? ["tableSchema", "tableName"] tree with
  | [schema, name] => return ⟨← required string? schema, ← required string? name⟩
  | _ => none

end TableRef

/-- A column of a table; its position counts from one and is kept as text. -/
structure ColumnDescriptor where
  name : String
  dataType : String
  schema : String
  table : String
  position : String
  deriving DecidableEq, Repr, Inhabited

namespace ColumnDescriptor

/-- A column as JSON. -/
def toValue (column : ColumnDescriptor) : Value :=
  record [("columnName", .string column.name), ("data_type", .string column.dataType),
    ("tableSchema", .string column.schema), ("tableName", .string column.table),
    ("ordinalPosition", .string column.position)]

/-- Reads a column. -/
def ofTree? (tree : Tree) : Option ColumnDescriptor := do
  match ← fields? ["columnName", "data_type", "tableSchema", "tableName", "ordinalPosition"] tree
  with
  | [name, dataType, schema, table, position] =>
    return ⟨← required string? name, ← required string? dataType, ← required string? schema,
      ← required string? table, ← required string? position⟩
  | _ => none

end ColumnDescriptor

/-- An entry of the database's log. -/
structure LogEntry where
  time : String
  severity : String
  message : String
  deriving DecidableEq, Repr, Inhabited

namespace LogEntry

/-- A log entry as JSON. -/
def toValue (entry : LogEntry) : Value :=
  record [("log_time", .string entry.time), ("error_severity", .string entry.severity),
    ("message", .string entry.message)]

/-- Reads a log entry. -/
def ofTree? (tree : Tree) : Option LogEntry := do
  match ← fields? ["log_time", "error_severity", "message"] tree with
  | [time, severity, message] =>
    return ⟨← required string? time, ← required string? severity, ← required string? message⟩
  | _ => none

end LogEntry

/-- The version of the database's software, as it gives it and as a number. -/
structure DbVersion where
  raw : String
  version : String
  deriving DecidableEq, Repr, Inhabited

namespace DbVersion

/-- The words that a version may start with. -/
def label : String := "Metadb v"

/-- The version a database gives, without the first occurrence of the label. -/
def ofRaw (raw : String) : DbVersion :=
  ⟨raw, String.ofList (Text.replaceFirst label.toList [] raw.toList)⟩

/-- A version as JSON. -/
def toValue (version : DbVersion) : Value :=
  record [("rawVersion", .string version.raw), ("version", .string version.version)]

/-- Reads a version. -/
def ofTree? (tree : Tree) : Option DbVersion := do
  match ← fields? ["rawVersion", "version"] tree with
  | [raw, version] => return ⟨← required string? raw, ← required string? version⟩
  | _ => none

end DbVersion

/-- When a table was last updated, and how long that took in seconds. -/
structure TableUpdate where
  schema : String
  table : String
  lastUpdate : String
  elapsed : Floating
  deriving DecidableEq, Repr, Inhabited

namespace TableUpdate

/-- An update as JSON. -/
def toValue (update : TableUpdate) : Value :=
  record [("tableSchema", .string update.schema), ("tableName", .string update.table),
    ("lastUpdate", .string update.lastUpdate), ("elapsedRealTime", .float .double update.elapsed)]

/-- Reads an update. -/
def ofTree? (tree : Tree) : Option TableUpdate := do
  match ← fields? ["tableSchema", "tableName", "lastUpdate", "elapsedRealTime"] tree with
  | [schema, table, lastUpdate, elapsed] =>
    return ⟨← required string? schema, ← required string? table, ← required string? lastUpdate,
      ← required float? elapsed⟩
  | _ => none

end TableUpdate

/-- A process of the database. -/
structure DbProcess where
  database : String
  user : String
  state : String
  realTime : String
  query : String
  deriving DecidableEq, Repr, Inhabited

namespace DbProcess

/-- A process as JSON. -/
def toValue (process : DbProcess) : Value :=
  record [("databaseName", .string process.database), ("userName", .string process.user),
    ("state", .string process.state), ("realTime", .string process.realTime),
    ("query", .string process.query)]

/-- Reads a process. -/
def ofTree? (tree : Tree) : Option DbProcess := do
  match ← fields? ["databaseName", "userName", "state", "realTime", "query"] tree with
  | [database, user, state, realTime, query] =>
    return ⟨← required string? database, ← required string? user, ← required string? state,
      ← required string? realTime, ← required string? query⟩
  | _ => none

end DbProcess

end TenantReports

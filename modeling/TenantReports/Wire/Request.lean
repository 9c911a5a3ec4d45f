import TenantReports.Json.Record

/-!
# What callers ask for

A `TableQuery` describes a query on one table, a `ReportRequest` names a report script and its
arguments. Every field may be left out. Each record has a writer, `toValue`, and a reader,
`ofTree?`.
-/

namespace TenantReports

open Json

/-- A condition on a column. -/
structure QueryFilter where
  key : String
  op : String
  value : String
  deriving DecidableEq, Repr, Inhabited

namespace QueryFilter

/-- A condition as JSON. -/
def toValue (filter : QueryFilter) : Value :=
  record [("key", .string filter.key), ("op", .string filter.op), ("value", .string filter.value)]

/-- Reads a condition. -/
def ofTree? (tree : Tree) : Option QueryFilter := do
  match ← fields? ["key", "op", "value"] tree with
  | [key, op, value] =>
    return ⟨← orDefault "" string? key, ← orDefault "" string? op, ← orDefault "" string? value⟩
  | _ => none

end QueryFilter

/-- A column to sort by. -/
structure QueryOrder where
  key : String
  direction : String
  nulls : String
  deriving DecidableEq, Repr, Inhabited

namespace QueryOrder

/-- A sort column as JSON. -/
def toValue (order : QueryOrder) : Value :=
  record [("key", .string order.key), ("direction", .string order.direction),
    ("nulls", .string order.nulls)]

/-- Reads a sort column. -/
def ofTree? (tree : Tree) : Option QueryOrder := do
  match ← fields? ["key", "direction", "nulls"] tree with
  | [key, direction, nulls] =>
    return ⟨← orDefault "" string? key, ← orDefault "" string? direction,
      ← orDefault "" string? nulls⟩
  | _ => none

end QueryOrder

/-- A query on one table; a limit of zero is no limit. -/
structure QueryTable where
  schema : String
  name : String
  filters : List QueryFilter
  columns : List String
  order : List QueryOrder
  limit : UInt64
  deriving DecidableEq, Repr, Inhabited

namespace QueryTable

/-- A table's query as JSON. -/
def toValue (table : QueryTable) : Value :=
  record [("schema", .string table.schema), ("tableName", .string table.name),
    ("columnFilters", .array (table.filters.map QueryFilter.toValue)),
    ("showColumns", .array (table.columns.map .string)),
    ("orderBy", .array (table.order.map QueryOrder.toValue)), ("limit", .nat table.limit.toNat)]

/-- Reads a table's query. -/
def ofTree? (tree : Tree) : Option QueryTable := do
  match ← fields? ["schema", "tableName", "columnFilters", "showColumns", "orderBy", "limit"] tree
  with
  | [schema, name, filters, columns, order, limit] =>
    return ⟨← orDefault "" string? schema, ← orDefault "" string? name,
      ← orDefault [] (list? QueryFilter.ofTree?) filters, ← orDefault [] (list? string?) columns,
      ← orDefault [] (list? QueryOrder.ofTree?) order, ← orDefault 0 word? limit⟩
  | _ => none

end QueryTable

/-- A query as callers describe it. -/
structure TableQuery where
  tables : List QueryTable
  deriving DecidableEq, Repr, Inhabited

namespace TableQuery

/-- A query as JSON. -/
def toValue (query : TableQuery) : Value :=
  record [("tables", .array (query.tables.map QueryTable.toValue))]

/-- Reads a query. -/
def ofTree? (tree : Tree) : Option TableQuery := do
  match ← fields? ["tables"] tree with
  | [tables] => return ⟨← orDefault [] (list? QueryTable.ofTree?) tables⟩
  | _ => none

end TableQuery

/-- A report script by its address, the arguments of its function by name, and the greatest number
of rows; zero is no limit. -/
structure ReportRequest where
  url : String
  params : Keyed String
  limit : UInt64
  deriving Inhabited

namespace ReportRequest

/-- A request as JSON. -/
def toValue (request : ReportRequest) : Value :=
  record [("url", .string request.url),
    ("params", .object (request.params.entries.map fun (name, value) => (name, .string value))),
    ("limit", .nat request.limit.toNat)]

/-- Reads a request. -/
def ofTree? (tree : Tree) : Option ReportRequest := do
  match ← fields? ["url", "params", "limit"] tree with
  | [url, params, limit] =>
    return ⟨← orDefault "" string? url, ← orDefault Keyed.empty strings? params,
      ← orDefault 0 word? limit⟩
  | _ => none

end ReportRequest

end TenantReports

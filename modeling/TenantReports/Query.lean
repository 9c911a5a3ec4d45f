import TenantReports.Failure
import TenantReports.Text.Fold
import TenantReports.Uuid
import TenantReports.Wire.Catalog
import TenantReports.Wire.Request

/-!
# Table queries as SQL

`compile` turns a description of a query on one table into a statement with numbered placeholders
and the values for them. Names and operators stand in the statement as given; only the values that
filters compare with are bound.
-/

namespace TenantReports

/-- A statement and the values of its placeholders in order. -/
structure CompiledQuery where
  sql : String
  params : List String
  deriving DecidableEq, Repr, Inhabited

/-- The table of a description that names exactly one. -/
def TableQuery.single? (query : TableQuery) : Except Failure QueryTable :=
  match query.tables with
  | [table] => .ok table
  | _ => .error ⟨.invalidQuery, "query must have exactly one table"⟩

/-- The columns to select. -/
def selectList (columns : List String) : String :=
  if columns.isEmpty then "*" else String.intercalate ", " columns

/-- The operator of a filter; equality if it gives none. -/
def QueryFilter.operator (filter : QueryFilter) : String :=
  if filter.op.isEmpty then "=" else filter.op

/-- The clause of a filter whose value is bound under the given number. -/
def QueryFilter.clause (filter : QueryFilter) (number : Nat) : String :=
  filter.key ++ " " ++ filter.operator ++ " $" ++ Number.decimal number

/-- What is wrong with a filter on the given columns: its key names none of them, or the first that
it names holds identifiers and its value is not one. -/
def QueryFilter.fault? (filter : QueryFilter) (columns : List ColumnDescriptor) : Option Failure :=
  match columns.find? fun column => column.name == filter.key with
  | none => some ⟨.unknownColumn, "filter on invalid column " ++ filter.key⟩
  | some column =>
    if column.dataType = "uuid" ∧ !Uuid.isCanonical filter.value then
      some ⟨.invalidValue, "invalid value for field " ++ filter.key ++ " (" ++ filter.value ++
        "): invalid UUID " ++ filter.value⟩
    else none

/-- The clauses of filters and the values they bind; filters without a key are left out. The first
filter has the given number, and each placeholder has the number of its filter. -/
def conditions (columns : List ColumnDescriptor) :
    Nat → List QueryFilter → Except Failure (List String × List String)
  | _, [] => .ok ([], [])
  | number, filter :: filters =>
    if filter.key.isEmpty then conditions columns (number + 1) filters
    else
      match filter.fault? columns with
      | some failure => .error failure
      | none =>
        match conditions columns (number + 1) filters with
        | .ok (clauses, params) => .ok (filter.clause number :: clauses, filter.value :: params)
        | .error failure => .error failure

/-- The place of missing values in the order by a column. -/
def QueryOrder.nullsPlace (order : QueryOrder) : String :=
  if Text.sameAscii order.nulls "first" || Text.sameAscii order.nulls "start" then "FIRST"
  else "LAST"

/-- The clause of a column to sort by. -/
def QueryOrder.clause (order : QueryOrder) : String :=
  order.key ++ " " ++ order.direction ++ " NULLS " ++ order.nullsPlace

/-- The columns to sort by; those without a key are left out. -/
def orderList (order : List QueryOrder) : String :=
  String.intercalate ", " ((order.filter fun o => !o.key.isEmpty).map QueryOrder.clause)

/-- The end of a statement that gives at most `limit` rows. -/
def limitClause (limit : UInt64) : String :=
  if limit = 0 then "" else " LIMIT " ++ Number.decimal limit.toNat

/-- A keyword and what follows it, unless that is empty. -/
def clauseAfter (keyword rest : String) : String :=
  if rest.isEmpty then "" else keyword ++ rest

/-- The statement of a table's query with the given conditions. -/
def QueryTable.statement (table : QueryTable) (clauses : List String) : String :=
  "SELECT " ++ selectList table.columns ++ " FROM \"" ++ table.schema ++ "\".\"" ++ table.name ++
    "\"" ++ clauseAfter " WHERE " (String.intercalate " AND " clauses) ++
    clauseAfter " ORDER BY " (orderList table.order) ++ limitClause table.limit

/-- The statement of a query on a table with the given columns. -/
def compile (query : TableQuery) (columns : List ColumnDescriptor) :
    Except Failure CompiledQuery := do
  let table ← query.single?
  match conditions columns 1 table.filters with
  | .ok (clauses, params) => return ⟨table.statement clauses, params⟩
  | .error failure => throw (failure.within "could not construct condition")

end TenantReports

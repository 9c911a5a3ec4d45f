import TenantReports.Database.Value
import TenantReports.Json.Record

/-!
# Rows of a result

A row that comes from a database says what each column name holds; the order of the columns stands
beside the rows. `OrderedRow.ofRow` brings the two together: the fields of a row in JSON come in
column order.
-/

namespace TenantReports

open Json (Value)

/-- What the columns of one row hold, by name; a later entry of a name counts. -/
abbrev Row :=
  List (String × DbValue)

/-- The value of a column. -/
def Row.get? (row : Row) (column : String) : Option DbValue :=
  (row.reverse.find? fun entry => entry.1 == column).map (·.2)

/-- The text of a column; nothing if the row lacks it. -/
def Row.text (row : Row) (column : String) : String :=
  ((row.get? column).map DbValue.display).getD ""

/-- The rows of a result and the names of its columns in order. -/
structure RawRows where
  columns : List String
  rows : List Row
  deriving Inhabited

/-- The result with a row added that is given in column order; columns without a value are
missing from it, values without a column are dropped. -/
def RawRows.push (result : RawRows) (values : List DbValue) : RawRows :=
  { result with rows := result.rows ++ [result.columns.zip values] }

/-- A row whose fields are in order. -/
structure OrderedRow where
  fields : List (String × Value)
  deriving Inhabited

namespace OrderedRow

/-- The fields of a row in the order of the columns: a column that the row lacks is left out, one
that is named twice comes twice. -/
def ofRow (columns : List String) (row : Row) : OrderedRow :=
  ⟨columns.filterMap fun column => (row.get? column).map fun value => (column, value.toJson)⟩

/-- The names of the fields. -/
def keys (row : OrderedRow) : List String :=
  row.fields.map (·.1)

/-- The value of the first field with a name. -/
def get? (row : OrderedRow) (key : String) : Option Value :=
  (row.fields.find? fun field => field.1 == key).map (·.2)

/-- A row as JSON. -/
def toValue (row : OrderedRow) : Value :=
  .object row.fields

end OrderedRow

/-- The rows of a result in column order. -/
def projectRows (columns : List String) (rows : List Row) : List OrderedRow :=
  rows.map (OrderedRow.ofRow columns)

/-- The rows of a result in column order. -/
def RawRows.ordered (result : RawRows) : List OrderedRow :=
  projectRows result.columns result.rows

/-- Rows as a JSON array. -/
def rowsToValue (rows : List OrderedRow) : Value :=
  .array (rows.map OrderedRow.toValue)

/-- What a report answers: its rows and their number. -/
structure ReportResponse where
  total : Nat
  records : List OrderedRow
  deriving Inhabited

namespace ReportResponse

/-- The answer with the given rows. -/
def ofRecords (records : List OrderedRow) : ReportResponse :=
  ⟨records.length, records⟩

/-- An answer as JSON. -/
def toValue (response : ReportResponse) : Value :=
  Json.record [("totalRecords", .nat response.total), ("records", rowsToValue response.records)]

end ReportResponse

end TenantReports

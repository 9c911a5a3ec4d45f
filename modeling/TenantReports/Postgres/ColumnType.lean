/-!
# Types of columns

The types that the values of a column may have, by the names that the server's types have here:
those of the built-in types are in capital letters, but for `citext`, which is added to a server.
-/

namespace TenantReports.Postgres

/-- A type whose values are no arrays. -/
inductive ScalarType
  | bool
  | int2
  | int4
  | int8
  | oid
  | float4
  | float8
  | numeric
  | money
  | text
  | varchar
  /-- Text that is padded with blanks. -/
  | padded
  | name
  /-- Text without letter case. -/
  | citext
  /-- A single octet. -/
  | octet
  | bytea
  | json
  | jsonb
  | uuid
  | inet
  | cidr
  | timestamptz
  | timestamp
  | date
  | time
  | timetz
  | interval
  deriving DecidableEq, Repr, Inhabited

namespace ScalarType

/-- The name of a type. -/
def typeName : ScalarType → String
  | .bool => "BOOL"
  | .int2 => "INT2"
  | .int4 => "INT4"
  | .int8 => "INT8"
  | .oid => "OID"
  | .float4 => "FLOAT4"
  | .float8 => "FLOAT8"
  | .numeric => "NUMERIC"
  | .money => "MONEY"
  | .text => "TEXT"
  | .varchar => "VARCHAR"
  | .padded => "CHAR"
  | .name => "NAME"
  | .citext => "citext"
  | .octet => "\"CHAR\""
  | .bytea => "BYTEA"
  | .json => "JSON"
  | .jsonb => "JSONB"
  | .uuid => "UUID"
  | .inet => "INET"
  | .cidr => "CIDR"
  | .timestamptz => "TIMESTAMPTZ"
  | .timestamp => "TIMESTAMP"
  | .date => "DATE"
  | .time => "TIME"
  | .timetz => "TIMETZ"
  | .interval => "INTERVAL"

/-- Whether arrays of a type are read. -/
def hasArrays : ScalarType → Bool
  | .bool | .int2 | .int4 | .int8 | .float4 | .float8 | .numeric | .text | .varchar | .padded |
    .name | .uuid | .json | .jsonb => true
  | _ => false

/-- Whether the values of a type are floating-point numbers. -/
def isFloating : ScalarType → Bool
  | .float4 | .float8 => true
  | _ => false

end ScalarType

/-- The type of a column. -/
inductive ColumnType
  | scalar (type : ScalarType)
  | array (element : ScalarType)
  /-- A type whose values are labels. -/
  | enumeration (name : String)
  /-- A type whose values cannot be read. -/
  | other (name : String)
  deriving DecidableEq, Repr, Inhabited

/-- The name of a type. -/
def ColumnType.typeName : ColumnType → String
  | .scalar type => type.typeName
  | .array element => element.typeName ++ "[]"
  | .enumeration name | .other name => name

/-- A column of a result. -/
structure Column where
  name : String
  type : ColumnType
  deriving DecidableEq, Repr, Inhabited

/-- A result as it is sent: the octets of each value, none for null. -/
structure Table where
  columns : List Column
  rows : List (List (Option (List UInt8)))
  deriving Inhabited

end TenantReports.Postgres

import TenantReports.Json.Value
import TenantReports.Uuid

/-!
# Values of a database

What a column of a row may hold, and its form in JSON. `DbValue.text` gives the text that a value
contributes where a text is wanted.
-/

namespace TenantReports

open Json (Value)
open Number (Floating Format)

/-- A value of a row. -/
inductive DbValue
  | null
  | bool (value : Bool)
  | int (value : Int64)
  | float (value : Floating)
  | text (value : String)
  | json (value : Value)
  | uuid (value : Uuid)
  deriving Inhabited

namespace DbValue

/-- A text value's text. -/
def asText? : DbValue → Option String
  | .text s => some s
  | _ => none

/-- The value in JSON; a number that is not finite is null. -/
def toJson : DbValue → Value
  | .null => .null
  | .bool b => .bool b
  | .int n => .int n.toInt
  | .float x => .float .double x
  | .text s => .string s
  | .json v => v
  | .uuid id => .string id.text

/-- The value as text: nothing for null, and JSON that is not a string in its compact form. -/
def display : DbValue → String
  | .null => ""
  | .text s => s
  | .int n => Number.signedDecimal n.toInt
  | .float x => String.ofList (Number.NumberStyle.plain.write .double x)
  | .bool true => "true"
  | .bool false => "false"
  | .json (.string s) => s
  | .json v => v.text
  | .uuid id => id.text

/-- The value as a floating-point number; zero if it is none. -/
def toFloating : DbValue → Floating
  | .float x => x
  | .int n => Format.double.ofInt n.toInt
  | .text s => (Number.readFloating? s.toList).getD (Format.double.ofInt 0)
  | _ => Format.double.ofInt 0

end DbValue

end TenantReports

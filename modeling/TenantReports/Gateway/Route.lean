import TenantReports.Gateway.Operation
import TenantReports.Net.Percent

/-!
# Routes

Which paths the gateway serves, with which methods, and how a request becomes an operation. A route
that is read also takes requests for its headers only.

* `Route.ofPath?_path`: every route is found by its path.
-/

namespace TenantReports

/-- A request: the path and the query are as sent, the names of headers in any letter case. -/
structure Request where
  method : String
  path : String
  query : Option String
  headers : List (String × List UInt8)
  body : List UInt8
  deriving Inhabited

/-- What the gateway serves. -/
inductive Route
  | health
  | metrics
  | tables
  | columns
  | query
  | reports
  | log
  | version
  | updates
  | processes
  deriving DecidableEq, Repr, Inhabited

namespace Route

/-- The path of a route. -/
def path : Route → String
  | .health => "/admin/health"
  | .metrics => "/metrics"
  | .tables => "/ldp/db/tables"
  | .columns => "/ldp/db/columns"
  | .query => "/ldp/db/query"
  | .reports => "/ldp/db/reports"
  | .log => "/ldp/db/log"
  | .version => "/ldp/db/version"
  | .updates => "/ldp/db/updates"
  | .processes => "/ldp/db/processes"

/-- The method that a route is counted under. -/
def method : Route → String
  | .query | .reports => "POST"
  | _ => "GET"

/-- All routes. -/
def list : List Route :=
  [.health, .metrics, .tables, .columns, .query, .reports, .log, .version, .updates, .processes]

/-- The route with a path. -/
def ofPath? (path : String) : Option Route :=
  list.find? fun route => route.path == path

/-- The methods that a route takes. -/
def methods (route : Route) : List String :=
  if route.method = "GET" then ["GET", "HEAD"] else [route.method]

/-- Whether a route takes a method. -/
def takes (route : Route) (method : String) : Bool :=
  route.methods.contains method

theorem ofPath?_path (route : Route) : ofPath? route.path = some route := by
  cases route <;> decide

end Route

/-! ### Who calls -/

/-- Names the tenant. -/
def tenantHeader : String := "x-okapi-tenant"

/-- Names the gateway of the tenant. -/
def urlHeader : String := "x-okapi-url"

/-- Proves the caller. -/
def tokenHeader : String := "x-okapi-token"

/-- Whether an octet of a header's value shows as text. -/
def isHeaderText (b : UInt8) : Bool :=
  b == 0x09 || (0x20 ≤ b && b < 0x7F)

/-- The text of the first header with a name; empty if there is none, or its value is no text. -/
def headerText (headers : List (String × List UInt8)) (name : String) : String :=
  match headers.find? fun header => Text.sameAscii header.1 name with
  | some (_, value) =>
    if value.all isHeaderText then String.ofList (value.map fun b => Char.ofNat b.toNat) else ""
  | none => ""

/-- The caller that headers name. -/
def SessionKey.ofHeaders (headers : List (String × List UInt8)) : SessionKey :=
  ⟨headerText headers tenantHeader, headerText headers urlHeader, headerText headers tokenHeader⟩

/-! ### What is asked for -/

/-- Why a request does not become an operation. -/
inductive Refusal
  /-- The query names a field twice. -/
  | query
  /-- The body is too long. -/
  | length
  /-- The body is not what the route takes. -/
  | body (failure : Failure)
  deriving Inhabited

/-- The value of a field of a query; empty if it is missing, none if it is named twice. -/
def queryField? (pairs : List (String × String)) (name : String) : Option String :=
  match pairs.filter fun pair => pair.1 == name with
  | [] => some ""
  | [(_, value)] => some value
  | _ => none

/-- The operation that lists the columns a query names. -/
def columnsOperation (query : Option String) : Except Refusal Operation :=
  let pairs := Net.Percent.formPairs (query.getD "")
  match queryField? pairs "schema", queryField? pairs "table" with
  | some schema, some table => .ok (.columns schema table)
  | _, _ => .error .query

/-- The greatest length of a body. -/
def maxBody : Nat := 2097152

/-- What a body holds. If it cannot be read, a colon and the reason that the reader of JSON gives
would follow in the error; they are left out. -/
def readBody {α : Type} (read : Json.Tree → Option α) (body : List UInt8) : Except Refusal α :=
  if maxBody < body.length then .error .length
  else
    match (Json.ofOctets? body).bind read with
    | some a => .ok a
    | none => .error (.body ⟨.invalidQuery, "could not deserialize JSON"⟩)

/-- The operation that a request on a route asks for; the two routes that need no session ask for
none. -/
def Route.operation (route : Route) (request : Request) : Except Refusal (Option Operation) :=
  match route with
  | .health | .metrics => .ok none
  | .tables => .ok (some .tables)
  | .columns => (columnsOperation request.query).map some
  | .query => (readBody TableQuery.ofTree? request.body).map fun query => some (.query query)
  | .reports =>
    (readBody ReportRequest.ofTree? request.body).map fun report => some (.report report)
  | .log => .ok (some .log)
  | .version => .ok (some .version)
  | .updates => .ok (some .updates)
  | .processes => .ok (some .processes)

end TenantReports

import TenantReports.Config.Basic
import TenantReports.Gateway.Route
import TenantReports.Session.Registry

/-!
# Serving requests

`Gateway.serve` answers a request: it finds the caller's session, which it opens if need be, does
the operation, and counts the response. A failure shows as its message, in plain text.
-/

namespace TenantReports

/-- What a gateway is set up with: the credentials for all callers, if any, and what operations
need. -/
structure Gateway where
  environment : Option Credentials
  reporting : Reporting
  deriving Inhabited

/-- What a gateway keeps between requests. -/
structure GatewayState where
  registry : Registry
  columns : ColumnCache

/-- Nothing is kept at first. -/
def GatewayState.initial : GatewayState :=
  ⟨Memo.Cells.empty, Memo.Cells.empty⟩

instance : Inhabited GatewayState := ⟨GatewayState.initial⟩

/-- The gateway of a configuration. -/
def Gateway.ofConfig (config : Config) : Gateway :=
  ⟨config.credentials, ⟨⟨config.whitelist, config.fileRoot⟩, config.queryLimit⟩⟩

/-- A response. -/
structure Response where
  status : Nat
  contentType : Option String
  /-- The methods to use instead. -/
  allow : Option String
  body : String
  deriving DecidableEq, Repr, Inhabited

namespace Response

/-- The type of plain text. -/
def plainText : String := "text/plain; charset=utf-8"

/-- A response of plain text. -/
def plain (status : Nat) (body : String) : Response :=
  ⟨status, some plainText, none, body⟩

/-- A response without a body. -/
def bare (status : Nat) : Response :=
  ⟨status, none, none, ""⟩

/-- The response to a method that a route does not take. -/
def refusal (route : Route) : Response :=
  { bare 405 with allow := some (String.intercalate "," route.methods) }

/-- A payload as a response. -/
def ofPayload (payload : Payload) : Response :=
  ⟨200, some "application/json", none, payload.toValue.text⟩

/-- A failure as a response. -/
def ofFailure (failure : Failure) : Response :=
  plain failure.status failure.message

/-- The outcome of an operation as a response. -/
def ofOutcome : Except Failure Payload → Response
  | .ok payload => ofPayload payload
  | .error failure => ofFailure failure

/-- The counters as a response. -/
def ofMetrics (metrics : Metrics) : Response :=
  ⟨200, some Metrics.contentType, none, metrics.text⟩

/-- The response without its body, for a request that asks for headers only. -/
def forMethod (response : Response) (method : String) : Response :=
  if method = "HEAD" then { response with body := "" } else response

end Response

namespace Gateway

/-- Does an operation on the session of a caller. -/
def perform (gateway : Gateway) (key : SessionKey) (operation : Operation) (state : GatewayState) :
    GatewayTask (Except Failure Payload × GatewayState) :=
  (Registry.resolve gateway.environment key state.registry).bind fun
    | (.error failure, registry) => .done (.error failure, { state with registry })
    | (.ok session, registry) =>
      (operation.run gateway.reporting session state.columns).bind fun (outcome, columns) =>
        .done (outcome, { registry, columns })

/-- Counts a response on a route; `timed` tells whether its duration counts. -/
def counted (route : Route) (timed : Bool) (response : Response) (state : GatewayState) :
    GatewayTask (Response × GatewayState) :=
  .ask (.observe (.request route.path route.method response.status timed)) fun _ =>
    .done (response, state)

/-- Refuses a request; only one whose body was read is counted. -/
def refuse (route : Route) (state : GatewayState) : Refusal → GatewayTask (Response × GatewayState)
  | .query => .done (.plain 400 "Failed to deserialize query string", state)
  | .length => .done (.plain 413 "Failed to buffer the request body: length limit exceeded", state)
  | .body failure => counted route false (.ofFailure failure) state

/-- Answers a request that needs no session. -/
def serveOwn (route : Route) (state : GatewayState) : GatewayTask (Response × GatewayState) :=
  match route with
  | .metrics => .ask .counters fun metrics => .done (.ofMetrics metrics, state)
  | _ => .done (.plain 200 "OK", state)

/-- Answers a request on a route that takes its method. -/
def serveRoute (gateway : Gateway) (route : Route) (request : Request) (state : GatewayState) :
    GatewayTask (Response × GatewayState) :=
  match route.operation request with
  | .error refusal => refuse route state refusal
  | .ok none => serveOwn route state
  | .ok (some operation) =>
    (gateway.perform (.ofHeaders request.headers) operation state).bind fun (outcome, state) =>
      counted route true (.ofOutcome outcome) state

/-- Answers a request. -/
def serve (gateway : Gateway) (request : Request) (state : GatewayState) :
    GatewayTask (Response × GatewayState) :=
  match Route.ofPath? request.path with
  | none => .done (.bare 404, state)
  | some route =>
    if route.takes request.method then
      (gateway.serveRoute route request state).bind fun (response, state) =>
        .done (response.forMethod request.method, state)
    else .done (.refusal route, state)

/-- Answers requests one after another. -/
def serveAll (gateway : Gateway) : List Request → GatewayState →
    GatewayTask (List Response × GatewayState)
  | [], state => .done ([], state)
  | request :: requests, state =>
    (gateway.serve request state).bind fun (response, state) =>
      (serveAll gateway requests state).bind fun (responses, state) =>
        .done (response :: responses, state)

end Gateway

end TenantReports

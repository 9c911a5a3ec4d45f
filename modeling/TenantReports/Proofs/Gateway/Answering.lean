import TenantReports.Gateway.Serve
import TenantReports.Proofs.Session.Resolved

/-!
# How a request is answered

**What is exchanged to answer a request on a route**, with the response and what is kept then. A
request that is not understood asks for nothing but to be counted, at most; all others come to their
session first, and then to their operation.

* `Answered`: the ways in which a request is answered.
* `answered_of_leads`: a request on a route is answered in one of these ways.
* `serve_of_takes`: a request that is sent to a route is answered by it.
-/

namespace TenantReports

variable {gateway : Gateway} {route : Route} {request : Request} {state after : GatewayState}
  {log : List (Exchange Ask.Answer)} {response : Response}

/-- How a response to a request on a route is counted. -/
def countedResponse (route : Route) (status : Nat) (timed : Bool) : Exchange Ask.Answer :=
  ⟨.observe (.request route.path route.method status timed), ()⟩

/-- **What is exchanged for a request on a route**, with the response and what is kept then. -/
inductive Answered (gateway : Gateway) (route : Route) (request : Request) (state : GatewayState) :
    List (Exchange Ask.Answer) → Response → GatewayState → Prop
  | misnamed (reads : route.operation request = .error .query) :
    Answered gateway route request state [] (.plain 400 "Failed to deserialize query string") state
  | overlong (reads : route.operation request = .error .length) :
    Answered gateway route request state []
      (.plain 413 "Failed to buffer the request body: length limit exceeded") state
  | unread {failure : Failure} (reads : route.operation request = .error (.body failure)) :
    Answered gateway route request state [countedResponse route failure.status false]
      (.ofFailure failure) state
  /-- The route needs no session. -/
  | own {log : List (Exchange Ask.Answer)} {response : Response} {after : GatewayState}
    (reads : route.operation request = .ok none)
    (leads : (Gateway.serveOwn route state).Leads log (.done (response, after))) :
    Answered gateway route request state log response after
  | unresolved {operation : Operation} {before : List (Exchange Ask.Answer)} {failure : Failure}
    (reads : route.operation request = .ok (some operation))
    (resolved : Resolved gateway.environment (.ofHeaders request.headers) state.registry before
      (.error failure)) (registry : Registry) :
    Answered gateway route request state (before ++ [countedResponse route failure.status true])
      (.ofFailure failure) ⟨registry, state.columns⟩
  | performed {operation : Operation} {before during : List (Exchange Ask.Answer)}
    {session : Session} {outcome : Except Failure Payload} {columns : ColumnCache}
    (reads : route.operation request = .ok (some operation))
    (resolved : Resolved gateway.environment (.ofHeaders request.headers) state.registry before
      (.ok session))
    (runs : (operation.run gateway.reporting session state.columns).Leads during
      (.done (outcome, columns))) (registry : Registry) :
    Answered gateway route request state
      (before ++ (during ++ [countedResponse route (Response.ofOutcome outcome).status true]))
      (.ofOutcome outcome) ⟨registry, columns⟩

theorem counted_of_leads {timed : Bool} {response' : Response}
    (leads : (Gateway.counted route timed response state).Leads log (.done (response', after))) :
    log = [countedResponse route response.status timed] ∧ response' = response ∧ after = state := by
  obtain ⟨counted, rest, rfl, ends⟩ := leads.of_ask_finished
  obtain ⟨rfl, same⟩ := ends.of_done_finished
  cases same
  exact ⟨rfl, rfl, rfl⟩

/-- **A request on a route is answered in one of these ways.** -/
theorem answered_of_leads
    (leads : (gateway.serveRoute route request state).Leads log (.done (response, after))) :
    Answered gateway route request state log response after := by
  unfold Gateway.serveRoute at leads
  cases reads : route.operation request with
  | error refusal =>
    rw [reads] at leads
    cases refusal with
    | query =>
      obtain ⟨rfl, same⟩ := leads.of_done_finished
      cases same
      exact .misnamed reads
    | length =>
      obtain ⟨rfl, same⟩ := leads.of_done_finished
      cases same
      exact .overlong reads
    | body failure =>
      obtain ⟨rfl, rfl, rfl⟩ := counted_of_leads leads
      exact .unread reads
  | ok asked =>
    rw [reads] at leads
    cases asked with
    | none => exact .own reads leads
    | some operation =>
      obtain ⟨⟨outcome, kept⟩, first, second, rfl, performs, counts⟩ := leads.of_bind_finished
      obtain ⟨rfl, rfl, rfl⟩ := counted_of_leads counts
      obtain ⟨⟨found, registry⟩, before, during, rfl, resolves, goesOn⟩ := performs.of_bind_finished
      have resolved := resolved_of_leads resolves
      cases found with
      | error failure =>
        obtain ⟨rfl, same⟩ := goesOn.of_done_finished
        cases same
        rw [List.append_nil]
        exact .unresolved reads resolved registry
      | ok session =>
        obtain ⟨⟨payload, columns⟩, same, runs⟩ := goesOn.of_map_finished
        cases same
        rw [List.append_assoc]
        exact .performed reads resolved runs registry

/-- **A request is answered by its route**, unless it asks for headers only. -/
theorem serve_of_takes (path : request.path = route.path) (takes : route.takes request.method)
    (bodied : request.method ≠ "HEAD") :
    gateway.serve request state = gateway.serveRoute route request state := by
  have found : Route.ofPath? request.path = some route := by rw [path, Route.ofPath?_path]
  have whole : ∀ answer : Response × GatewayState,
      (answer.1.forMethod request.method, answer.2) = answer :=
    fun answer => Prod.ext (if_neg bodied) rfl
  simp only [Gateway.serve, found, takes, if_true, whole]
  exact Task.bind_pure _

/-! ### Requests with a body -/

section Bodies

variable {α β : Type} {read : Except Refusal α} {make : α → β}

/-- What is made of a body is refused only if the body is. -/
theorem refused_of_map {refusal : Refusal} (same : read.map make = .error refusal) :
    read = .error refusal := by
  cases read with
  | error refusal' =>
    cases same
    rfl
  | ok a => cases same

theorem read_of_map {b : β} (same : read.map make = .ok b) : ∃ a, read = .ok a ∧ make a = b := by
  cases read with
  | error refusal => cases same
  | ok a =>
    cases same
    exact ⟨a, rfl, rfl⟩

/-- A body is refused for its length or for what it holds. -/
theorem readBody_ne_query (read : Json.Tree → Option α) (body : List UInt8) :
    readBody read body ≠ .error .query := by
  unfold readBody
  split
  · exact fun same => nomatch same
  · split
    · exact fun same => nomatch same
    · exact fun same => nomatch same

/-- A body that is not understood has one failure. -/
theorem failure_of_readBody {readTree : Json.Tree → Option α} {body : List UInt8}
    {failure : Failure} (refused : readBody readTree body = .error (.body failure)) :
    failure = ⟨.invalidQuery, "could not deserialize JSON"⟩ := by
  unfold readBody at refused
  split at refused
  · cases refused
  · split at refused
    · cases refused
    · cases refused
      rfl

end Bodies

end TenantReports

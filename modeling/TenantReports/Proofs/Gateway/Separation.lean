import TenantReports.Proofs.Gateway.Kept
import TenantReports.Proofs.Session.Run

/-!
# Callers do not notice each other

**What a caller is answered does not depend on the requests of others**, where the outside answers
each question in one way.

* `Steady`: every question but the one for the counters has one answer, whenever it is put.
* `Serves`: a request leaves the state alone, or it performs one operation for its caller.
* `serve_own`: a request of a caller has the same answer from states that keep the same for the
  caller, and they still do afterwards.
* `serve_others`: a request of another caller leaves what is kept for the caller as it is.
* `responsesTo_serveAll`: among any requests, those of a caller are answered as if they were alone.
-/

namespace TenantReports

/-- The caller of a request. -/
def Request.caller (request : Request) : SessionKey :=
  .ofHeaders request.headers

variable {gateway : Gateway} {caller : SessionKey} {state other : GatewayState} {request : Request}

/-! ### One request -/

/-- **What becomes of a request**: it leaves the state alone, or it performs one operation for its
caller. Only the route of the counters asks for them. -/
inductive Serves (gateway : Gateway) (request : Request)
    (serve : GatewayState → GatewayTask (Response × GatewayState)) : Prop
  | apart (task : GatewayTask Response)
    (outward : Route.ofPath? request.path ≠ some .metrics → task.Only Ask.Outward)
    (same : ∀ state, serve state = task.bind fun response => .done (response, state))
  | performing (operation : Operation) (finish : Except Failure Payload → GatewayTask Response)
    (outward : ∀ outcome, (finish outcome).Only Ask.Outward)
    (same : ∀ state, serve state =
      (gateway.perform request.caller operation state).bind fun (outcome, state) =>
        (finish outcome).bind fun response => .done (response, state))

/-- What is made of the response leaves the state alone. -/
theorem Serves.map {serve : GatewayState → GatewayTask (Response × GatewayState)}
    (serves : Serves gateway request serve) (f : Response → Response) :
    Serves gateway request fun state =>
      (serve state).bind fun (response, state) => .done (f response, state) := by
  cases serves with
  | apart task outward same =>
    refine .apart (task.bind fun response => .done (f response))
      (fun path => (outward path).bind fun _ => .done _) fun state => ?_
    rw [same, Task.bind_map, Task.bind_map]
  | performing operation finish outward same =>
    refine .performing operation
      (fun outcome => (finish outcome).bind fun response => .done (f response))
      (fun outcome => (outward outcome).bind fun _ => .done _) fun state => ?_
    rw [same, Task.bind_assoc]
    refine congrArg _ (funext fun (outcome, state) => ?_)
    dsimp only
    rw [Task.bind_map, Task.bind_map]

theorem serves_serveRoute {route : Route} (found : Route.ofPath? request.path = some route) :
    Serves gateway request (gateway.serveRoute route request) := by
  unfold Gateway.serveRoute
  cases route.operation request with
  | error refusal =>
    cases refusal with
    | query => exact .apart (.done _) (fun _ => .done _) fun _ => rfl
    | length => exact .apart (.done _) (fun _ => .done _) fun _ => rfl
    | body failure =>
      exact .apart
        (.ask (.observe (.request route.path route.method (Response.ofFailure failure).status
          false)) fun _ => .done (.ofFailure failure))
        (fun _ => .ask (fun same => nomatch same) fun _ => .done _) fun _ => rfl
  | ok operation =>
    cases operation with
    | some operation =>
      exact .performing operation
        (fun outcome => .ask (.observe (.request route.path route.method
          (Response.ofOutcome outcome).status true)) fun _ => .done (.ofOutcome outcome))
        (fun _ => .ask (fun same => nomatch same) fun _ => .done _) fun _ => rfl
    | none =>
      cases route with
      | metrics =>
        exact .apart (.ask .counters fun metrics => .done (.ofMetrics metrics))
          (fun path => absurd found path) fun _ => rfl
      | _ => exact .apart (.done _) (fun _ => .done _) fun _ => rfl

/-- **Every request is served so.** -/
theorem serves_serve (gateway : Gateway) (request : Request) :
    Serves gateway request (gateway.serve request) := by
  unfold Gateway.serve
  cases found : Route.ofPath? request.path with
  | none => exact .apart (.done _) (fun _ => .done _) fun _ => rfl
  | some route =>
    by_cases taken : route.takes request.method = true
    · simp only [taken, if_true]
      exact (serves_serveRoute found).map fun response => response.forMethod request.method
    · exact .apart (.done _) (fun _ => .done _) fun _ => if_neg taken

/-- **An outside that answers each question in one way**, whenever it is put; only the counters
change. -/
def Steady {σ : Type} (answer : (question : Ask) → σ → question.Answer × σ) : Prop :=
  ∀ question, question.Outward → ∀ s s', (answer question s).1 = (answer question s').1

/-- What a computation comes to does not depend on when it runs. -/
theorem Steady.run_eq_value {σ α : Type} {answer : (question : Ask) → σ → question.Answer × σ}
    (steady : Steady answer) {task : GatewayTask α} (outward : task.Only Ask.Outward) (s s' : σ) :
    (task.run answer s).1 = task.value fun question => (answer question s').1 :=
  outward.run_eq_value (fun question out now => steady question out now s') s

namespace Serves

variable {serve : GatewayState → GatewayTask (Response × GatewayState)} {σ : Type}
  {answer : (question : Ask) → σ → question.Answer × σ}

theorem outward (serves : Serves gateway request serve)
    (path : Route.ofPath? request.path ≠ some .metrics) (state : GatewayState) :
    (serve state).Only Ask.Outward := by
  cases serves with
  | apart task outward same =>
    rw [same]
    exact (outward path).bind fun _ => .done _
  | performing operation finish outward same =>
    rw [same]
    exact (outward_perform _ _ _).bind fun _ => (outward _).bind fun _ => .done _

/-- **What is kept after a request**: all that was kept before, or what an operation of its caller
leaves. -/
theorem kept (serves : Serves gateway request serve) (steady : Steady answer) (state : GatewayState)
    (s : σ) :
    ((serve state).run answer s).1.2 = state ∨ ∃ operation,
      ((serve state).run answer s).1.2 =
        ((gateway.perform request.caller operation state).value fun q => (answer q s).1).2 := by
  cases serves with
  | apart task outward same =>
    rw [same, Task.run_bind]
    exact Or.inl rfl
  | performing operation finish outward same =>
    rw [same, Task.run_bind, Task.run_bind]
    exact Or.inr ⟨operation, congrArg Prod.snd
      (steady.run_eq_value (outward_perform request.caller operation state) s s)⟩

/-- Where the operation of the caller comes to the same, so does the request. -/
theorem own {reply : (question : Ask) → question.Answer} (serves : Serves gateway request serve)
    (settled : state.Settled) (settled' : other.Settled)
    (agree : GatewayState.Same request.caller state other) :
    ((serve state).value reply).1 = ((serve other).value reply).1 ∧
      GatewayState.Same request.caller ((serve state).value reply).2
        ((serve other).value reply).2 := by
  cases serves with
  | apart task outward same =>
    rw [same, same, Task.value_bind, Task.value_bind]
    exact ⟨rfl, agree⟩
  | performing operation finish outward same =>
    have performed := perform_own gateway operation reply settled settled' agree
    simp only [same, Task.value_bind, Task.value_done, performed.1, true_and]
    exact performed.2

end Serves

section Serve

variable {σ : Type} {answer : (question : Ask) → σ → question.Answer × σ}

theorem settled_serve (gateway : Gateway) (steady : Steady answer) (settled : state.Settled)
    (request : Request) (s : σ) : ((gateway.serve request state).run answer s).1.2.Settled := by
  rcases (serves_serve gateway request).kept steady state s with same | ⟨operation, same⟩
  · rw [same]
    exact settled
  · rw [same]
    exact settled_perform settled

/-- **A request of another caller leaves what is kept for a caller as it is.** -/
theorem serve_others (gateway : Gateway) (steady : Steady answer) (settled : state.Settled)
    (differ : request.caller ≠ caller) (s : σ) :
    GatewayState.Same caller ((gateway.serve request state).run answer s).1.2 state := by
  rcases (serves_serve gateway request).kept steady state s with same | ⟨operation, same⟩
  · rw [same]
    exact .refl caller state
  · rw [same]
    exact perform_others settled differ

/-- **What is kept for the caller decides** how a request of the caller is answered, and what is
kept for the caller then. -/
theorem serve_own (gateway : Gateway) (steady : Steady answer) (settled : state.Settled)
    (settled' : other.Settled) (same : GatewayState.Same request.caller state other)
    (path : Route.ofPath? request.path ≠ some .metrics) (s s' : σ) :
    ((gateway.serve request state).run answer s).1.1 =
        ((gateway.serve request other).run answer s').1.1 ∧
      GatewayState.Same request.caller ((gateway.serve request state).run answer s).1.2
        ((gateway.serve request other).run answer s').1.2 := by
  have serves := serves_serve gateway request
  rw [steady.run_eq_value (serves.outward path state) s s,
    steady.run_eq_value (serves.outward path other) s' s]
  exact serves.own settled settled' same

/-! ### Any requests -/

/-- The responses to the requests of a caller. -/
def responsesTo (caller : SessionKey) (requests : List Request) (responses : List Response) :
    List Response :=
  ((requests.zip responses).filter fun entry => entry.1.caller = caller).map (·.2)

/-- The requests of a caller. -/
def requestsOf (caller : SessionKey) (requests : List Request) : List Request :=
  requests.filter fun request => request.caller = caller

theorem responsesTo_own {response : Response} {requests : List Request}
    {responses : List Response} (mine : request.caller = caller) :
    responsesTo caller (request :: requests) (response :: responses) =
      response :: responsesTo caller requests responses := by
  unfold responsesTo
  rw [List.zip_cons_cons, List.filter_cons, if_pos (decide_eq_true mine), List.map_cons]

theorem responsesTo_others {response : Response} {requests : List Request}
    {responses : List Response} (differ : request.caller ≠ caller) :
    responsesTo caller (request :: requests) (response :: responses) =
      responsesTo caller requests responses := by
  unfold responsesTo
  rw [List.zip_cons_cons, List.filter_cons, if_neg (mt of_decide_eq_true differ)]

theorem requestsOf_own {requests : List Request} (mine : request.caller = caller) :
    requestsOf caller (request :: requests) = request :: requestsOf caller requests :=
  List.filter_cons_of_pos (decide_eq_true mine)

theorem requestsOf_others {requests : List Request} (differ : request.caller ≠ caller) :
    requestsOf caller (request :: requests) = requestsOf caller requests :=
  List.filter_cons_of_neg (mt of_decide_eq_true differ)

theorem run_serveAll_cons (requests : List Request) (s : σ) :
    ((gateway.serveAll (request :: requests) state).run answer s).1.1 =
      ((gateway.serve request state).run answer s).1.1 ::
        ((gateway.serveAll requests ((gateway.serve request state).run answer s).1.2).run answer
          ((gateway.serve request state).run answer s).2).1.1 := by
  rw [Gateway.serveAll, Task.run_bind, Task.run_bind]
  rfl

theorem length_serveAll (requests : List Request) (state : GatewayState) (s : σ) :
    ((gateway.serveAll requests state).run answer s).1.1.length = requests.length := by
  induction requests generalizing state s with
  | nil => rfl
  | cons request requests ih => rw [run_serveAll_cons, List.length_cons, List.length_cons, ih]

/-- Where two states keep the same for a caller, the caller's among all requests to the one are
answered as they are alone by the other. -/
theorem responsesTo_of_same (steady : Steady answer) (requests : List Request)
    (paths : ∀ request ∈ requests, request.caller = caller →
      Route.ofPath? request.path ≠ some .metrics)
    (settled : state.Settled) (settled' : other.Settled)
    (same : GatewayState.Same caller state other) (s s' : σ) :
    responsesTo caller requests ((gateway.serveAll requests state).run answer s).1.1 =
      ((gateway.serveAll (requestsOf caller requests) other).run answer s').1.1 := by
  -- The two runs go on from different states, which keep the same for the caller.
  induction requests generalizing state other s s' with
  | nil => rfl
  | cons request requests ih =>
    obtain ⟨path, paths⟩ := List.forall_mem_cons.mp paths
    have after := settled_serve gateway steady settled request s
    rw [run_serveAll_cons]
    by_cases mine : request.caller = caller
    · subst mine
      obtain ⟨response, kept⟩ := serve_own gateway steady settled settled' same (path rfl) s s'
      have after' := settled_serve gateway steady settled' request s'
      rw [responsesTo_own rfl, requestsOf_own rfl, run_serveAll_cons, response]
      exact congrArg _ (ih paths after after' kept _ _)
    · -- The other run does not see this request at all.
      have kept := serve_others gateway steady settled mine s
      rw [responsesTo_others mine, requestsOf_others mine]
      exact ih paths after settled' (kept.trans same) _ _

end Serve

/-- **Callers do not notice each other.** Of any requests that a gateway answers one after another,
those of a caller are answered as if they were the only ones, whatever the others are and however
theirs turn out, if the outside answers each question in one way. Only what the counters are is
shared: a caller who asks for them learns of all requests. -/
theorem responsesTo_serveAll (gateway : Gateway) {σ : Type}
    {answer : (question : Ask) → σ → question.Answer × σ} (steady : Steady answer)
    (caller : SessionKey) (requests : List Request)
    (paths : ∀ request ∈ requests, request.caller = caller →
      Route.ofPath? request.path ≠ some .metrics) (s s' : σ) :
    ((gateway.serveAll requests .initial).run answer s).1.1.length = requests.length ∧
      responsesTo caller requests ((gateway.serveAll requests .initial).run answer s).1.1 =
        ((gateway.serveAll (requestsOf caller requests) .initial).run answer s').1.1 :=
  ⟨length_serveAll requests .initial s, responsesTo_of_same steady requests paths
    GatewayState.settled_initial GatewayState.settled_initial (.refl caller .initial) s s'⟩

/-- A request for the columns of a table by a caller. -/
def columnsRequest (caller : SessionKey) (table : String) : Request :=
  ⟨"GET", Route.columns.path, some ("schema=public&table=" ++ table),
    [(tenantHeader, Text.Utf8.ofString caller.tenant),
      (urlHeader, Text.Utf8.ofString caller.gatewayUrl),
      (tokenHeader, Text.Utf8.ofString caller.token)], []⟩

/-- Two callers ask for columns of the same table, one of them twice, and one also for a table that
has no name. -/
def mixedRequests : List Request :=
  [columnsRequest someoneElse "users", columnsRequest someone "users", columnsRequest someoneElse "",
    columnsRequest someone "users", { columnsRequest someoneElse "users" with path := "/metrics" },
    columnsRequest someone ""]

theorem responsesTo_serveAll_mixed :
    Steady (fun question (n : Nat) => (telling question, n + 1)) ∧
      (∀ request ∈ mixedRequests, request.caller = someone →
        Route.ofPath? request.path ≠ some .metrics) ∧
      (requestsOf someone mixedRequests).length = 3 ∧
      responsesTo someone mixedRequests (((default : Gateway).serveAll mixedRequests .initial).run
          (fun question n => (telling question, n + 1)) 0).1.1 =
        (((default : Gateway).serveAll (requestsOf someone mixedRequests) .initial).run
          (fun question n => (telling question, n + 1)) 7).1.1 := by
  have steady : Steady (fun question (n : Nat) => (telling question, n + 1)) :=
    fun question out s s' => rfl
  have paths : ∀ request ∈ mixedRequests, request.caller = someone →
      Route.ofPath? request.path ≠ some .metrics := by
    decide +kernel
  exact ⟨steady, paths, by decide +kernel,
    (responsesTo_serveAll default steady someone mixedRequests paths 0 7).2⟩

end TenantReports

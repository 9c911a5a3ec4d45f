import TenantReports.Proofs.Gateway.Answering
import TenantReports.Proofs.Query.Stages

/-!
# How a table query is answered

**What is exchanged to answer a request with a table query, and in which order**, whatever is
answered and whatever is kept. The body is understood before a session is looked for, the session is
there before columns are, and only what compiles against the columns of its table is run.

* `AnsweredQuery`: what is exchanged for a request, with the response and what is kept then.
* `answeredQuery_of_leads`: a request with a table query is answered in one of these ways.
* `StagedQuery`: a body that is not understood asks for nothing, a query that does not name exactly
  one table asks for no more than its session, any other one asks for columns if there are none, and
  runs its statement if it compiles.
* `staged_queries`: so it is for every request, and for every query on a session.
-/

namespace TenantReports

open Memo

variable {gateway : Gateway} {state after : GatewayState} {log : List (Exchange Ask.Answer)}
  {query : Option String} {headers : List (String × List UInt8)} {body : List UInt8}
  {response : Response}

/-! ### Requests with a table query -/

/-- A request with a table query. -/
def queryPost (query : Option String) (headers : List (String × List UInt8)) (body : List UInt8) :
    Request :=
  ⟨"POST", Route.query.path, query, headers, body⟩

/-- The failure of a body that is no table query. -/
def unreadableBody : Failure :=
  ⟨.invalidQuery, "could not deserialize JSON"⟩

/-- **What is exchanged for a request with a table query**, with the response and what is kept then.
-/
inductive AnsweredQuery (gateway : Gateway) (headers : List (String × List UInt8))
    (body : List UInt8) (state : GatewayState) :
    List (Exchange Ask.Answer) → Response → GatewayState → Prop
  | overlong (long : readBody TableQuery.ofTree? body = .error .length) :
    AnsweredQuery gateway headers body state []
      (.plain 413 "Failed to buffer the request body: length limit exceeded") state
  | unread (unreadable : readBody TableQuery.ofTree? body = .error (.body unreadableBody)) :
    AnsweredQuery gateway headers body state [countedResponse .query unreadableBody.status false]
      (.ofFailure unreadableBody) state
  | unresolved {request : TableQuery} {before : List (Exchange Ask.Answer)} {failure : Failure}
    (read : readBody TableQuery.ofTree? body = .ok request)
    (resolved : Resolved gateway.environment (.ofHeaders headers) state.registry before
      (.error failure)) (registry : Registry) :
    AnsweredQuery gateway headers body state
      (before ++ [countedResponse .query failure.status true]) (.ofFailure failure)
      ⟨registry, state.columns⟩
  | queried {request : TableQuery} {before during : List (Exchange Ask.Answer)} {session : Session}
    {outcome : Except Failure (List OrderedRow)} {columns : ColumnCache}
    (read : readBody TableQuery.ofTree? body = .ok request)
    (resolved : Resolved gateway.environment (.ofHeaders headers) state.registry before
      (.ok session))
    (queried : Queried session request state.columns during outcome columns)
    (registry : Registry) :
    AnsweredQuery gateway headers body state
      (before ++ (during ++
        [countedResponse .query (Response.ofOutcome (outcome.map .rows)).status true]))
      (.ofOutcome (outcome.map .rows)) ⟨registry, columns⟩

theorem serve_queryPost :
    gateway.serve (queryPost query headers body) state =
      gateway.serveRoute .query (queryPost query headers body) state :=
  serve_of_takes rfl (show Route.query.takes "POST" = true by decide)
    (show "POST" ≠ "HEAD" by decide)

/-- **A request with a table query is answered in one of these ways.** -/
theorem answeredQuery_of_leads
    (leads : (gateway.serve (queryPost query headers body) state).Leads log
      (.done (response, after))) :
    AnsweredQuery gateway headers body state log response after := by
  have operation : Route.operation .query (queryPost query headers body) =
      (readBody TableQuery.ofTree? body).map fun request => some (.query request) := rfl
  rw [serve_queryPost] at leads
  cases answered_of_leads leads with
  | misnamed reads => exact absurd (refused_of_map (operation ▸ reads)) (readBody_ne_query _ body)
  | overlong reads => exact .overlong (refused_of_map (operation ▸ reads))
  | unread reads =>
    have unreadable := refused_of_map (operation ▸ reads)
    obtain rfl := failure_of_readBody unreadable
    exact .unread unreadable
  | own reads =>
    obtain ⟨request, -, same⟩ := read_of_map (operation ▸ reads)
    cases same
  | unresolved reads resolved registry =>
    obtain ⟨request, read, -⟩ := read_of_map (operation ▸ reads)
    exact .unresolved read resolved registry
  | performed reads resolved runs registry =>
    obtain ⟨request, read, same⟩ := read_of_map (operation ▸ reads)
    cases same
    obtain ⟨⟨outcome, columns⟩, same, queries⟩ := runs.of_map_finished
    cases same
    exact .queried read resolved (queried_of_leads queries) registry

/-! ### What holds of every answer -/

/-- **Why a request with a table query fails**: its body, its session, or a stage of the query. -/
inductive FailedQuery (gateway : Gateway) (headers : List (String × List UInt8))
    (body : List UInt8) (state after : GatewayState) (log : List (Exchange Ask.Answer))
    (failure : Failure) : Prop
  | body (unreadable : readBody TableQuery.ofTree? body = .error (.body failure))
    (kind : failure.kind = .invalidQuery)
  | session {request : TableQuery} {before rest : List (Exchange Ask.Answer)}
    (read : readBody TableQuery.ofTree? body = .ok request) (split : log = before ++ rest)
    (resolved : Resolved gateway.environment (.ofHeaders headers) state.registry before
      (.error failure))
  | stage {request : TableQuery} {before during rest : List (Exchange Ask.Answer)}
    {session : Session} (read : readBody TableQuery.ofTree? body = .ok request)
    (split : log = before ++ (during ++ rest))
    (resolved : Resolved gateway.environment (.ofHeaders headers) state.registry before
      (.ok session))
    (failed : FailedStage session request state.columns during after.columns failure)

/-- **The stages of a request with a table query**, as they show in what is exchanged. -/
structure StagedQuery (gateway : Gateway) (headers : List (String × List UInt8))
    (body : List UInt8) (state : GatewayState) (log : List (Exchange Ask.Answer))
    (response : Response) (after : GatewayState) : Prop where
  answered : AnsweredQuery gateway headers body state log response after
  /-- For a body that is not understood, only the response is counted. -/
  unread : ∀ refusal, readBody TableQuery.ofTree? body = .error refusal →
    after = state ∧ ∀ exchange ∈ log, ∃ status, exchange = countedResponse .query status false
  /-- For a query that does not name exactly one table, nothing is asked but for a session. -/
  shapeless : ∀ request, readBody TableQuery.ofTree? body = .ok request →
    (∀ table, request.tables ≠ [table]) → after.columns = state.columns ∧
      ∃ before found status,
        Resolved gateway.environment (.ofHeaders headers) state.registry before found ∧
        log = before ++ [countedResponse .query status true]
  /-- For any other one, the columns of the table are looked for in a session that was found, and
  then the statement is run. -/
  tabled : ∀ request table, readBody TableQuery.ofTree? body = .ok request →
    request.tables = [table] →
      (∃ before failure, Resolved gateway.environment (.ofHeaders headers) state.registry before
          (.error failure) ∧ log = before ++ [countedResponse .query failure.status true] ∧
          after.columns = state.columns) ∨
      ∃ before session looking running found status,
        Resolved gateway.environment (.ofHeaders headers) state.registry before (.ok session) ∧
        log = before ++ (looking ++ running ++ [countedResponse .query status true]) ∧
        TableStages session request table state.columns looking running found after.columns
  /-- Between requests, the cache has what it had, and the columns that were fetched. -/
  kept : state.columns.Settled → after.columns.Settled ∧
    ∀ key, after.columns.get? key = state.columns.get? key ∨
      state.columns.get? key = none ∧ ∃ session schema name rows,
        key = ⟨session.key, schema, name⟩ ∧
        columnsExchange session schema name (.ok rows) ∈ log ∧
        after.columns.get? key = some (Catalog.readColumns rows.rows)
  /-- A failure is that of the first stage that fails. -/
  failed : response.status = 200 ∨ readBody TableQuery.ofTree? body = .error .length ∨
    ∃ failure, response = .ofFailure failure ∧
      FailedQuery gateway headers body state after log failure

namespace AnsweredQuery

variable (answered : AnsweredQuery gateway headers body state log response after)
include answered

/-- **An answer shows the stages.** -/
theorem staged : StagedQuery gateway headers body state log response after where
  answered := answered
  unread refusal unreadable := by
    cases answered with
    | overlong long => exact ⟨rfl, fun exchange member => absurd member List.not_mem_nil⟩
    | unread => exact ⟨rfl, fun exchange member => ⟨_, List.mem_singleton.mp member⟩⟩
    | unresolved read | queried read =>
      rw [unreadable] at read
      cases read
  shapeless request read many := by
    cases answered with
    | overlong refused | unread refused =>
      rw [read] at refused
      cases refused
    | unresolved read' resolved => exact ⟨rfl, _, _, _, resolved, rfl⟩
    | queried read' resolved queried =>
      cases read.symm.trans read'
      obtain ⟨rfl, rfl⟩ := queried.eq_nil many
      exact ⟨rfl, _, _, _, resolved, rfl⟩
  tabled request table read only := by
    cases answered with
    | overlong refused | unread refused =>
      rw [read] at refused
      cases refused
    | unresolved read' resolved => exact Or.inl ⟨_, _, resolved, rfl, rfl⟩
    | queried read' resolved queried =>
      cases read.symm.trans read'
      obtain ⟨looking, running, found, rfl, stages⟩ := queried.tableStages only
      exact Or.inr ⟨_, _, looking, running, found, _, resolved, rfl, stages⟩
  kept settled := by
    cases answered with
    | overlong | unread | unresolved => exact ⟨settled, fun key => Or.inl rfl⟩
    | queried read resolved queried =>
      obtain ⟨settledAfter, view⟩ := queried.kept settled
      refine ⟨settledAfter, fun key => (view key).imp_right ?_⟩
      rintro ⟨lacks, table, rows, -, same, exchanged, has⟩
      exact ⟨lacks, _, _, _, rows, same,
        List.mem_append_right _ (List.mem_append_left _ exchanged), has⟩
  failed := by
    cases answered with
    | overlong long => exact Or.inr (Or.inl long)
    | unread unreadable => exact Or.inr (Or.inr ⟨_, rfl, .body unreadable rfl⟩)
    | unresolved read resolved => exact Or.inr (Or.inr ⟨_, rfl, .session read rfl resolved⟩)
    | @queried _ _ _ _ outcome _ read resolved queried =>
      cases outcome with
      | ok rows => exact Or.inl rfl
      | error failure =>
        exact Or.inr (Or.inr ⟨failure, rfl, .stage read rfl resolved (queried.failedStage rfl)⟩)

end AnsweredQuery

/-- **Every request with a table query goes through its stages**, whatever is kept and whatever is
answered: the body is read, the session found or opened, the columns of the one table found or asked
for, and what compiles against them is run, each only if what comes before it succeeded; the first
failure is the response. So does every query on a session. -/
theorem staged_queries (gateway : Gateway) :
    (∀ query headers body state {σ : Type} (answer : (question : Ask) → σ → question.Answer × σ)
        (s : σ),
      StagedQuery gateway headers body state
        ((gateway.serve (queryPost query headers body) state).dialogue answer s)
        ((gateway.serve (queryPost query headers body) state).run answer s).1.1
        ((gateway.serve (queryPost query headers body) state).run answer s).1.2) ∧
    ∀ session request cache {σ : Type} (answer : (question : Ask) → σ → question.Answer × σ)
        (s : σ),
      StagedTableQuery session request cache
        ((runQuery session request cache).dialogue answer s)
        ((runQuery session request cache).run answer s).1.1
        ((runQuery session request cache).run answer s).1.2 := by
  refine ⟨fun query headers body state σ answer s => ?_,
    fun session request cache σ answer s => ?_⟩
  · exact (answeredQuery_of_leads (Task.leads_dialogue answer _ s)).staged
  · exact (queried_of_leads (Task.leads_dialogue answer _ s)).staged

end TenantReports

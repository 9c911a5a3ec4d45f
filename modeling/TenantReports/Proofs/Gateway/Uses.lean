import TenantReports.Gateway.Operation
import TenantReports.Proofs.Memo.Lookup
import TenantReports.Session.Registry

/-!
# What operations use

**An operation reaches the cache of columns at most once**, under a table of its own session, and
neither operations nor the opening of a session count a request or ask for the counters.

* `Ask.Inner`: a question that an operation may put.
* `Ask.Outward`: a question other than for the counters.
* `Uses`: how an operation may use the cache.
* `uses_run`: every operation uses it so.
* `Uses.own`: what is kept for the session decides what the operation gives and keeps for it.
* `Uses.others`: what is kept for other sessions stays as it is.
-/

namespace TenantReports

open Memo

variable {session : Session} {reporting : Reporting} {α β : Type}

/-! ### What is asked -/

/-- A question other than what the counters are. -/
def Ask.Outward (question : Ask) : Prop :=
  question ≠ .counters

/-- A question that an operation may put: requests are counted, and counters told, elsewhere. -/
def Ask.Inner : Ask → Prop
  | .counters | .observe (.request _ _ _ _) => False
  | _ => True

theorem Ask.Inner.outward {question : Ask} (inner : question.Inner) : question.Outward := by
  rintro rfl
  exact inner

theorem inner_on (task : DbTask α) (handle : Handle) : (task.on handle).Only Ask.Inner :=
  Task.Only.lift (fun _ => trivial) task

theorem inner_findCredentials (environment : Option Credentials) (key : SessionKey) :
    (findCredentials environment key).Only Ask.Inner := by
  cases environment with
  | some own => exact .done _
  | none =>
    refine Task.Only.bind ?_ fun _ => .done _
    unfold Settings.lookup
    split
    · exact .done _
    · exact .ask trivial fun _ => .done _

theorem inner_probe (key : SessionKey) (handle : Handle) :
    (probe key handle).Only Ask.Inner := by
  refine (inner_on _ handle).bind fun detected => ?_
  cases detected with
  | error failure => exact .done _
  | ok dialect => exact .ask trivial fun _ => .done _

theorem inner_connectWith (key : SessionKey) (credentials : Credentials) :
    (connectWith key credentials).Only Ask.Inner := by
  refine .ask trivial fun opened => ?_
  cases opened with
  | error error => exact .done _
  | ok handle => exact inner_probe key handle

theorem inner_openSession (environment : Option Credentials) (key : SessionKey) :
    (openSession environment key).Only Ask.Inner := by
  refine (inner_findCredentials environment key).bind fun found => ?_
  cases found with
  | error failure => exact .done _
  | ok credentials => exact inner_connectWith key credentials

theorem inner_readFile (source : ReportSource) (url : String) :
    (source.readFile url).Only Ask.Inner := by
  unfold ReportSource.readFile
  split
  · exact .done _
  · dsimp only
    split
    · exact .done _
    · exact .ask trivial fun _ => .done _

theorem inner_load (source : ReportSource) (url : String) :
    (source.load url).Only Ask.Inner := by
  unfold ReportSource.load ReportSource.fetch
  split
  · exact .done _
  · split
    · exact .done _
    · exact inner_readFile source url
    · exact .ask trivial fun _ => .done _

theorem inner_runScript (request : ReportRequest) (limit : Nat) (script : String) :
    (runScript session request limit script).Only Ask.Inner := by
  unfold runScript
  split
  · exact .done _
  · exact (inner_on _ _).bind fun _ => .done _

theorem inner_report (reporting : Reporting) (session : Session) (request : ReportRequest) :
    (report reporting session request).Only Ask.Inner := by
  have executes : (fetchAndRun reporting session request).Only Ask.Inner := by
    refine (inner_load _ _).bind fun loaded => ?_
    cases loaded with
    | error failure => exact .done _
    | ok script => exact inner_runScript request reporting.queryLimit script
  exact executes.bind fun outcome => .ask trivial fun _ => .done _

theorem inner_runOnColumns (request : TableQuery)
    (columns : Except Failure (List ColumnDescriptor)) :
    (runOnColumns session request columns).Only Ask.Inner := by
  cases columns with
  | error failure => exact .done _
  | ok columns =>
    unfold runOnColumns
    dsimp only
    split
    · exact .done _
    · exact .ask trivial fun _ => .done _

/-! ### How the cache is used -/

/-- **How an operation on a session uses the cache**: not at all, or it looks up the columns of one
table and goes on with them. -/
inductive Uses (session : Session) (run : ColumnCache → GatewayTask (α × ColumnCache)) : Prop
  | apart (task : GatewayTask α) (inner : task.Only Ask.Inner)
    (same : ∀ cache, run cache = task.bind fun a => .done (a, cache))
  | looking (schema table : String)
    (goesOn : Except Failure (List ColumnDescriptor) → GatewayTask α)
    (inner : ∀ found, (goesOn found).Only Ask.Inner)
    (same : ∀ cache, run cache = (cache.get session schema table).bind fun (found, cache) =>
      (goesOn found).bind fun a => .done (a, cache))

/-- What is made of the result does not use the cache. -/
theorem Uses.map {run : ColumnCache → GatewayTask (α × ColumnCache)} (uses : Uses session run)
    (f : α → β) :
    Uses session fun cache => (run cache).bind fun (a, cache) => .done (f a, cache) := by
  cases uses with
  | apart task inner same =>
    refine .apart (task.bind fun a => .done (f a)) (inner.bind fun _ => .done _) fun cache => ?_
    rw [same, Task.bind_map, Task.bind_map]
  | looking schema table goesOn inner same =>
    refine .looking schema table (fun found => (goesOn found).bind fun a => .done (f a))
      (fun found => (inner found).bind fun _ => .done _) fun cache => ?_
    rw [same, Task.bind_assoc]
    refine congrArg _ (funext fun (found, cache) => ?_)
    dsimp only
    rw [Task.bind_map, Task.bind_map]

theorem uses_listColumns (schema table : String) :
    Uses session (listColumns session schema table) := by
  by_cases unnamed : (schema.isEmpty || table.isEmpty) = true
  · exact .apart (.done _) (.done _) fun cache => if_pos unnamed
  · refine .looking schema table Task.done (fun _ => .done _) fun cache => ?_
    exact (if_neg unnamed).trans (Task.bind_pure _).symm

theorem uses_runQuery (request : TableQuery) : Uses session (runQuery session request) := by
  cases single : request.single? with
  | error failure =>
    refine .apart (.done (.error failure)) (.done _) fun cache => ?_
    rw [runQuery, single]
    rfl
  | ok table =>
    refine .looking table.schema table.name
      (fun found => runOnColumns session request (withoutColumns table found))
      (fun found => inner_runOnColumns request _) fun cache => ?_
    rw [runQuery, single]

theorem uses_askCatalog (wrap : α → Payload) (task : DbTask (Except Failure α)) :
    Uses session (askCatalog session wrap task) := by
  refine .apart ((task.on session.database).bind fun outcome => .done (outcome.map wrap))
    ((inner_on _ _).bind fun _ => .done _) fun cache => ?_
  rw [Task.bind_map]
  rfl

/-- **Every operation uses the cache so.** -/
theorem uses_run (operation : Operation) :
    Uses session fun cache => operation.run reporting session cache := by
  cases operation with
  | tables => exact uses_askCatalog _ _
  | columns schema table => exact (uses_listColumns schema table).map _
  | query request => exact (uses_runQuery request).map _
  | report request =>
    refine .apart
      ((report reporting session request).bind fun outcome => .done (outcome.map Payload.report))
      ((inner_report _ _ _).bind fun _ => .done _) fun cache => ?_
    rw [Task.bind_map]
    rfl
  | log => exact uses_askCatalog _ _
  | version => exact uses_askCatalog _ _
  | updates => exact uses_askCatalog _ _
  | processes => exact uses_askCatalog _ _

/-! ### What an operation leaves in the cache -/

/-- Caches that keep the same for a caller. -/
def ColumnCache.SameFor (caller : SessionKey) (cache other : ColumnCache) : Prop :=
  ∀ schema table, cache.get? ⟨caller, schema, table⟩ = other.get? ⟨caller, schema, table⟩

namespace Uses

variable {run : ColumnCache → GatewayTask (α × ColumnCache)} {cache other : ColumnCache}
  {reply : (question : Ask) → question.Answer}

theorem inner (uses : Uses session run) (cache : ColumnCache) :
    (run cache).Only Ask.Inner := by
  cases uses with
  | apart task inner same =>
    rw [same]
    exact inner.bind fun _ => .done _
  | looking schema table goesOn inner same =>
    have looks : (cache.get session schema table).Only Ask.Inner :=
      only_lookup (inner_on _ _)
    rw [same]
    exact looks.bind fun _ => (inner _).bind fun _ => .done _

theorem settled (uses : Uses session run) (settled : cache.Settled) :
    ((run cache).value reply).2.Settled := by
  cases uses with
  | apart task inner same =>
    rw [same, Task.value_bind]
    exact settled
  | looking schema table goesOn inner same =>
    rw [same, Task.value_bind, Task.value_bind]
    exact (kept_lookup settled).1

/-- **What is kept for other sessions stays as it is.** -/
theorem others (uses : Uses session run) (settled : cache.Settled) {caller : SessionKey}
    (differ : session.key ≠ caller) : ((run cache).value reply).2.SameFor caller cache := by
  cases uses with
  | apart task inner same =>
    rw [same, Task.value_bind]
    exact fun schema table => rfl
  | looking schema table goesOn inner same =>
    rw [same, Task.value_bind, Task.value_bind]
    intro schema' table'
    -- The lookup is under a table of the session, so of another caller's no key is touched.
    have apart : (⟨caller, schema', table'⟩ : ColumnKey) ≠ ⟨session.key, schema, table⟩ :=
      fun same => differ (congrArg ColumnKey.session same).symm
    exact ((kept_lookup settled).2 _).trans (if_neg apart)

/-- **What is kept for the session decides** what the operation gives and keeps for the session. -/
theorem own (uses : Uses session run) (settled : cache.Settled) (settled' : other.Settled)
    (agree : cache.SameFor session.key other) :
    ((run cache).value reply).1 = ((run other).value reply).1 ∧
      ((run cache).value reply).2.SameFor session.key ((run other).value reply).2 := by
  cases uses with
  | apart task inner same =>
    rw [same, same, Task.value_bind, Task.value_bind]
    exact ⟨rfl, agree⟩
  | looking schema table goesOn inner same =>
    have found : ((cache.get session schema table).value reply).1 =
        ((other.get session schema table).value reply).1 := by
      unfold ColumnCache.get
      rw [outcome_lookup settled, outcome_lookup settled', agree schema table]
    simp only [same, Task.value_bind, Task.value_done]
    refine ⟨by rw [found], fun schema' table' => ?_⟩
    refine ((kept_lookup settled).2 _).trans (Eq.trans ?_ ((kept_lookup settled').2 _).symm)
    split
    · exact congrArg Except.toOption found
    · exact agree schema' table'

end Uses

end TenantReports

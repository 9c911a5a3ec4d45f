import TenantReports.Database.Effect
import TenantReports.Report.Prepared

/-!
# Running a report

A report runs in one transaction: its script is registered, its function called, and the transaction
rolled back whatever happened, so that the function never outlives the call.
-/

namespace TenantReports

/-- The answer, or the failure of the given kind and context. -/
def orFail {α : Type} (kind : FailureKind) (context : String) :
    Except DbError α → Except Failure α
  | .ok a => .ok a
  | .error error => .error (error.toFailure kind context)

/-- Sets the time limit of statements, registers the script and calls its function. -/
def registerAndInvoke (report : PreparedReport) (timeout : Nat) : DbTask (Except Failure RawRows) :=
  .ask (.setTimeout timeout) fun set =>
    match orFail .execution "could not set statement timeout" set with
    | .error failure => .done (.error failure)
    | .ok _ => .ask (.script report.script) fun registered =>
      match orFail .registration "could not register SQL function" registered with
      | .error failure => .done (.error failure)
      | .ok _ => .ask (.txQuery report.invocation.sql report.invocation.params) fun rows =>
        .done (orFail .execution "could not execute SQL from report" rows)

/-- The rows of a report, each of its statements limited to `timeout` milliseconds. The outcome of
the rollback has no part in the result. -/
def runReport (report : PreparedReport) (timeout : Nat) : DbTask (Except Failure RawRows) :=
  .ask .begin fun opened =>
    match orFail .execution "could not open transaction" opened with
    | .error failure => .done (.error failure)
    | .ok _ => (registerAndInvoke report timeout).bind fun result =>
      .ask .rollback fun _ => .done result

end TenantReports

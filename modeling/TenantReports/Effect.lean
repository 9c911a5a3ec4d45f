import TenantReports.Database.Effect
import TenantReports.Metrics
import TenantReports.Net.Answer
import TenantReports.Session.Basic
import TenantReports.SystemError

/-!
# What the gateway asks

An operation of the gateway is a `Task` over the questions of `Ask`: to the settings service of a
tenant, to databases, to the place a report comes from, to the files, and to the counters. What an
operation does to the outside is the list of its questions.
-/

namespace TenantReports

/-- A request for a tenant's settings, with the headers that name the tenant and prove the caller.
-/
structure SettingsRequest where
  url : Net.WebUrl
  tenant : String
  token : String
  deriving DecidableEq, Inhabited

/-- A question to the outside. -/
inductive Ask
  /-- To send a request to a settings service. -/
  | settings (request : SettingsRequest)
  /-- To open connections to a database. -/
  | connect (credentials : Credentials)
  | database (handle : Handle) (question : DbAsk)
  /-- To send a request for a report. -/
  | fetch (url : Net.WebUrl)
  /-- To read a file. -/
  | read (path : String)
  /-- To count something. -/
  | observe (event : Observation)
  /-- To tell the counters. -/
  | counters
  deriving Inhabited

/-- What the outside answers. -/
abbrev Ask.Answer : Ask → Type
  | .settings _ | .fetch _ => Net.Outcome
  | .connect _ => Except DbError Handle
  | .database _ question => question.Answer
  | .read _ => Except SystemError (List UInt8)
  | .observe _ => Unit
  | .counters => Metrics

/-- A computation that asks the outside. -/
abbrev GatewayTask :=
  Task Ask Ask.Answer

/-- Puts the questions of a computation to one database. -/
def DbTask.on {α : Type} (task : DbTask α) (handle : Handle) : GatewayTask α :=
  task.lift (Ask.database handle) fun _ answer => answer

end TenantReports

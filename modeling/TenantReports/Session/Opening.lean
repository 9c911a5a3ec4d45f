import TenantReports.Catalog
import TenantReports.Session.Settings

/-!
# Opening a session

A session is opened in stages: find the credentials, connect, find out the convention of the
database. The first stage that fails ends it.
-/

namespace TenantReports

/-- What was found for a caller in the settings, as credentials or a failure. -/
def foundCredentials : Except Settings.Error (Option Credentials) → Except Failure Credentials
  | .ok (some credentials) => .ok credentials
  | .ok none =>
    .error ⟨.noDatabase, "no reporting database configured in environment or tenant settings"⟩
  | .error error =>
    .error ⟨.noDatabase, "could not read reporting DB settings: " ++ error.message⟩

/-- The credentials for a caller: those of the environment, else those in the tenant's settings. -/
def findCredentials (environment : Option Credentials) (key : SessionKey) :
    GatewayTask (Except Failure Credentials) :=
  match environment with
  | some credentials => .done (.ok credentials)
  | none => (Settings.lookup key.gatewayUrl key.tenant key.token).bind fun found =>
    .done (foundCredentials found)

/-- Finds out the convention of a database and makes it a session. -/
def probe (key : SessionKey) (handle : Handle) : GatewayTask (Except Failure Session) :=
  (Catalog.detectDialect.on handle).bind fun
    | .error failure => .done (.error failure)
    | .ok dialect => .ask (.observe .sessionOpened) fun _ => .done (.ok ⟨key, handle, dialect⟩)

/-- Connects with credentials. -/
def connectWith (key : SessionKey) (credentials : Credentials) :
    GatewayTask (Except Failure Session) :=
  .ask (.connect credentials) fun
    | .error error =>
      .done (.error (error.toFailure .connection "failed to connect to reporting database"))
    | .ok handle => probe key handle

/-- Opens the session of a caller. -/
def openSession (environment : Option Credentials) (key : SessionKey) :
    GatewayTask (Except Failure Session) :=
  (findCredentials environment key).bind fun
    | .error failure => .done (.error failure)
    | .ok credentials => connectWith key credentials

end TenantReports

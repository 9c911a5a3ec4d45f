import TenantReports.Memo.Machine
import TenantReports.Session.Opening

/-!
# The registry of sessions

Sessions are kept by caller: the first request of a caller opens one, all others share it. A session
stays until it is evicted or another one is put in its place.
-/

namespace TenantReports

/-- Sessions by caller. -/
abbrev Registry :=
  Memo.Cells SessionKey Session

namespace Registry

/-- The session of a caller, which is opened if there is none. -/
def resolve (environment : Option Credentials) (key : SessionKey) (registry : Registry) :
    GatewayTask (Except Failure Session × Registry) :=
  Memo.lookup (openSession environment) key registry

/-- Puts an open session in the place of its caller's. -/
def register (registry : Registry) (session : Session) : Registry :=
  registry.insert session.key session

end Registry

/-- Concurrent requests that resolve sessions. -/
abbrev RegistryMachine :=
  Memo.Machine SessionKey Ask Ask.Answer Session Failure

/-- A request to resolve the session of a caller starts. -/
def resolveEvent (environment : Option Credentials) (key : SessionKey) :
    Memo.Event SessionKey Ask Ask.Answer Session Failure :=
  .start key (openSession environment key)

end TenantReports

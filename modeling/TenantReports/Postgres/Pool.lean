import TenantReports.Postgres.Server
import TenantReports.Postgres.Transaction

/-!
# Pools of connections

A session has a pool of connections to its server, whose number is limited. There is one for every
address that can be understood.
-/

namespace TenantReports.Postgres

/-- The limits of a pool; times are in milliseconds. -/
structure PoolLimits where
  connections : Nat
  connectLimit : Nat
  queryLimit : Nat
  deriving DecidableEq, Repr, Inhabited

/-- A pool: its server, and who connects to it. -/
structure Pool where
  server : Server
  user : String
  password : String
  limits : PoolLimits
  deriving DecidableEq, Repr, Inhabited

/-- The pool for credentials, if their address is one. What exactly is wrong with an address is left
out of the error. -/
def Pool.ofCredentials (credentials : Credentials) (limits : PoolLimits) : Except DbError Pool :=
  match Server.ofText? credentials.url with
  | some server => .ok ⟨server, credentials.user, credentials.pass, limits⟩
  | none => .error (.connection (.address "invalid address"))

end TenantReports.Postgres
